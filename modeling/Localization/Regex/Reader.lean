import Localization.Regex.Basic

/-!
# Reading regular expressions

An expression is cut into tokens, a backslash taking the next character with it, and read from left
to right. The reader knows which groups are open, closed or named, and which switches were given for
the whole expression; every fault carries the place that its report names. Groups may be nested to
any depth.
-/

namespace Localization.Regex

/-- A token: its place, and its one or two code points. A backslash at the very end is a token of
its own that cannot be taken. -/
structure Token where
  place : Nat
  text : Text
  dangling : Bool

/-- The tokens of an expression. -/
def tokenize (place : Nat) : Text → List Token
  | [] => []
  | [.scalar '\\'] => [⟨place, [.scalar '\\'], true⟩]
  | .scalar '\\' :: c :: t => ⟨place, [.scalar '\\', c], false⟩ :: tokenize (place + 2) t
  | c :: t => ⟨place, [c], false⟩ :: tokenize (place + 1) t

/-- What the reader knows: the characters with a name, the tokens left, the length of the
expression, the switches for the whole of it, the named groups, the widths of the closed groups, the
number of groups in front of the outermost look-behind, and the conditions on groups not yet
known. -/
structure Reader where
  characters : CharacterNames
  tokens : List Token
  size : Nat
  flags : Flags
  names : List (Text × Nat)
  widths : List (Option (Nat × Nat))
  behind : Option Nat
  conditions : List (Nat × Nat)

/-- Readings that may find a fault. -/
abbrev Read := StateT Reader (Except Fault)

namespace Read

/-- The place of the next token. -/
def place : Read Nat := do
  let r ← get
  return match r.tokens with
    | t :: _ => t.place
    | [] => r.size

/-- A fault `back` places before the next token. -/
def fail {α : Type} (cause : Cause) (back : Nat) : Read α := do
  throw (.malformed cause (some ((← place) - back)))

/-- The next token's text. -/
def peek : Read (Option Text) := do
  return (← get).tokens.head?.map (·.text)

/-- Stands at the given tokens; the backslash at the very end cannot be stood at. -/
def stand (tokens : List Token) : Read Unit := do
  match tokens with
  | t :: _ => if t.dangling then throw (.malformed .danglingBackslash (some t.place))
  | [] => pure ()
  modify fun r => { r with tokens := tokens }

/-- Takes the next token. -/
def take : Read (Option Text) := do
  let r ← get
  match r.tokens with
  | [] => return none
  | t :: rest => stand rest; return some t.text

/-- Takes the next token if it is the given character. -/
def takeIf (c : Char) : Read Bool := do
  if (← peek) = some [.scalar c] then
    let _ ← take
    return true
  else return false

/-- Takes up to `n` tokens that are single characters of a class. -/
def takeWhile (p : CodePoint → Bool) : Nat → Read Text
  | 0 => return []
  | n + 1 => do
    match ← peek with
    | some [c] =>
      if p c then
        let _ ← take
        return c :: (← takeWhile p n)
      else return []
    | _ => return []

/-- Takes a name up to its terminator. -/
def name (terminator : Char) (what : String) : Nat → (soFar : Text) → Read Text
  | 0, soFar => return soFar
  | fuel + 1, soFar => do
    match ← take with
    | none =>
      if soFar.isEmpty then fail (.missingName (Text.ofString what)) 0
      else fail (.unterminatedName [.scalar terminator]) soFar.length
    | some t =>
      if t = [.scalar terminator] then
        if soFar.isEmpty then fail (.missingName (Text.ofString what)) 1 else return soFar
      else name terminator what fuel (soFar ++ t)

/-- Takes a name up to its terminator, whatever its length. -/
def nameUpTo (terminator : Char) (what : String) : Read Text := do
  name terminator what ((← get).tokens.length + 1) []

/-! ## Groups -/

/-- Opens a group and gives its number. -/
def openGroup (name : Option Text) : Read Nat := do
  let r ← get
  let number := r.widths.length
  match name with
  | none => modify fun r => { r with widths := r.widths ++ [none] }
  | some n =>
    match r.names.lookup n with
    | some old => fail (.redefinedGroup n number old) (n.length + 1)
    | none =>
      modify fun r => { r with widths := r.widths ++ [none], names := r.names ++ [(n, number)] }
  return number

/-- The widths of the groups closed so far. -/
def groupWidth (r : Reader) (n : Nat) : Nat × Nat := ((r.widths.getD n none).getD (0, 0))

/-- Closes a group. -/
def closeGroup (number : Nat) (body : List Item) : Read Unit :=
  modify fun r =>
    { r with widths := r.widths.set number (some (widthOf (groupWidth r) body)) }

/-- Whether a group is closed. -/
def isClosed (number : Nat) : Read Bool := do
  return ((← get).widths.getD number none).isSome

/-- Refuses references from a look-behind to groups that are open or inside it. -/
def checkBehind (number : Nat) : Read Unit := do
  match (← get).behind with
  | none => pure ()
  | some first =>
    if !(← isClosed number) then fail .openGroup 0
    if first ≤ number then fail .sameLookBehind 0

/-! ## Escapes -/

/-- The control characters with an escape of their own. -/
def control? : CodePoint → Option Nat
  | .scalar 'a' => some 7
  | .scalar 'b' => some 8
  | .scalar 'f' => some 12
  | .scalar 'n' => some 10
  | .scalar 'r' => some 13
  | .scalar 't' => some 9
  | .scalar 'v' => some 11
  | .scalar '\\' => some 0x5C
  | _ => none

/-- The classes of characters with an escape of their own. -/
def category? : CodePoint → Option SetItem
  | .scalar 'd' => some (.category .digit false)
  | .scalar 'D' => some (.category .digit true)
  | .scalar 's' => some (.category .blank false)
  | .scalar 'S' => some (.category .blank true)
  | .scalar 'w' => some (.category .word false)
  | .scalar 'W' => some (.category .word true)
  | _ => none

/-- The places with an escape of their own. -/
def placeEscape? : CodePoint → Option Place
  | .scalar 'A' => some .textStart
  | .scalar 'Z' => some .textEnd
  | .scalar 'b' => some .wordEdge
  | .scalar 'B' => some .notWordEdge
  | _ => none

/-- Whether a code point is a hexadecimal digit. -/
def isHexDigit (c : CodePoint) : Bool := c.hexDigit?.isSome

/-- Whether a code point is an octal digit. -/
def isOctal (c : CodePoint) : Bool := c.octalDigit?.isSome

/-- The value of digits in a base. -/
def valueOf (base : Nat) (digits : Text) : Nat :=
  Text.fromDigits base (digits.filterMap CodePoint.hexDigit?)

/-- Exactly `count` hexadecimal digits after an escape. -/
def hexEscape (escape : Text) (count : Nat) : Read Nat := do
  let digits ← takeWhile isHexDigit count
  let whole := escape ++ digits
  if digits.length ≠ count then fail (.incompleteEscape whole) whole.length
  let n := valueOf 16 digits
  if n < 0x110000 then return n
  else if n < 0x80000000 then fail (.badEscape whole) whole.length
  else throw .overflow

/-- A character by its name. Surrogates cannot even be looked for. -/
def namedEscape (escape : Text) : Read Nat := do
  if !(← takeIf '{') then fail .missingNameBrace 0
  let name ← nameUpTo '}' "character name"
  if name.any CodePoint.isSurrogate then fail (.badEscape escape) escape.length
  match (← get).characters name with
  | some c => return c.toNat
  | none => fail (.undefinedCharacter name) (name.length + 4)

/-- An escape that means one character whether it stands in a set or not, or none of these. -/
def commonEscape (escape : Text) (c : CodePoint) : Read (Option Nat) := do
  if c = .scalar 'x' then return some (← hexEscape escape 2)
  else if c = .scalar 'u' then return some (← hexEscape escape 4)
  else if c = .scalar 'U' then return some (← hexEscape escape 8)
  else if c = .scalar 'N' then return some (← namedEscape escape)
  else return none

/-- The last resort: a character that needs no escape; letters and digits are none. -/
def plainEscape (escape : Text) (c : CodePoint) : Read Nat := do
  if c.isAsciiLetter || c.isAsciiDigit then fail (.badEscape escape) escape.length
  else return c.toNat

/-- The meaning of an escape in a set. -/
def setEscape (escape : Text) (c : CodePoint) : Read SetItem := do
  if let some n := control? c then return .point n
  if let some item := category? c then return item
  if let some n ← commonEscape escape c then return .point n
  if isOctal c then
    let more ← takeWhile isOctal 2
    let whole := escape ++ more
    let n := valueOf 8 (c :: more)
    if 0o377 < n then fail (.octalRange whole) whole.length
    return .point n
  return .point (← plainEscape escape c)

/-- The meaning of an escape that starts with a digit: an octal number or a reference. -/
def digitEscape (escape : Text) (c : CodePoint) : Read Item := do
  if c = .scalar '0' then
    let more ← takeWhile isOctal 2
    return .point (valueOf 8 (c :: more))
  let second ← takeWhile CodePoint.isAsciiDigit 1
  let octal := isOctal c && second.any isOctal
  let third ← if octal then takeWhile isOctal 1 else pure []
  let whole := escape ++ second ++ third
  if !third.isEmpty then
    let n := valueOf 8 (c :: second ++ third)
    if 0o377 < n then fail (.octalRange whole) whole.length
    return .point n
  let group := valueOf 10 (c :: second)
  if group < (← get).widths.length then
    if !(← isClosed group) then fail .openGroup whole.length
    checkBehind group
    return .reference group
  fail (.invalidReference group) (whole.length - 1)

/-- The meaning of an escape outside sets. -/
def escape (token : Text) (c : CodePoint) : Read Item := do
  if let some p := placeEscape? c then return .place p
  if let some item := category? c then return .set false [item]
  if let some n := control? c then return .point n
  if let some n ← commonEscape token c then return .point n
  if c.isAsciiDigit then return ← digitEscape token c
  return .point (← plainEscape token c)

/-! ## Sets -/

/-- One end of a range, or a member by itself. -/
def setMember (token : Text) : Read SetItem :=
  match token with
  | [.scalar '\\', c] => setEscape token c
  | [c] => return .point c.toNat
  | _ => return .point 0

/-- The members of a set that was opened at `start`, up to its closing bracket. -/
def setMembers (start : Nat) : Nat → (soFar : List SetItem) → Read (List SetItem)
  | 0, soFar => return soFar
  | fuel + 1, soFar => do
    let unterminated : Read (List SetItem) := do fail .unterminatedSet ((← place) - start)
    match ← take with
    | none => unterminated
    | some token =>
      if token = [.scalar ']'] && !soFar.isEmpty then return soFar
      else
        let first ← setMember token
        if ← takeIf '-' then
          match ← take with
          | none => unterminated
          | some other =>
            if other = [.scalar ']'] then return soFar ++ [first, .point 0x2D]
            else
              let second ← setMember other
              let bad : Read (List SetItem) :=
                fail (.badRange token other) (token.length + 1 + other.length)
              match first, second with
              | .point low, .point high =>
                if high < low then bad else setMembers start fuel (soFar ++ [.range low high])
              | _, _ => bad
        else setMembers start fuel (soFar ++ [first])

/-! ## Switches -/

/-- What a letter that is no switch means. -/
def notAFlag {α : Type} (token : Text) (otherwise : Cause) : Read α :=
  match token with
  | [c] =>
    fail (if c.isAlphanumeric && !c.isDigit && !c.isNumeral then .unknownFlag else otherwise)
      token.length
  | _ => fail otherwise token.length

/-- The switch a token stands for. -/
def flagOf? (token : Text) : Option Flags :=
  match token with
  | [c] => Flags.ofLetter? c
  | _ => none

/-- Switches that are turned on, up to a closing parenthesis, a minus or a colon. -/
def flagsOn : Nat → Text → Flags → Read (Text × Flags)
  | 0, token, on => return (token, on)
  | fuel + 1, token, on => do
    if token = [.scalar 'L'] then fail .localeFlag 0
    let on := match flagOf? token with
      | some f => on.union f
      | none => on
    if on.ascii && on.unicode then fail .incompatibleFlags 0
    match ← take with
    | none => fail .missingFlagEnd 0
    | some next =>
      if next = [.scalar ')'] || next = [.scalar '-'] || next = [.scalar ':'] then return (next, on)
      if (flagOf? next).isNone && next ≠ [.scalar 'L'] then notAFlag next .missingFlagEnd
      flagsOn fuel next on

/-- Switches that are turned off, up to a colon. -/
def flagsOff : Nat → Text → Flags → Read Flags
  | 0, _, off => return off
  | fuel + 1, token, off => do
    let flag := (flagOf? token).getD .off
    if flag.ascii || flag.unicode || token = [.scalar 'L'] then fail .flagKindOff 0
    let off := off.union flag
    match ← take with
    | none => fail .missingColon 0
    | some next =>
      if next = [.scalar ':'] then return off
      if (flagOf? next).isNone && next ≠ [.scalar 'L'] then notAFlag next .missingColon
      flagsOff fuel next off

/-- Switches in a group's head: `none` if they hold for the whole expression. -/
def groupFlags (token : Text) : Read (Option (Flags × Flags)) := do
  let fuel := (← get).tokens.length + 1
  let (last, on) ← if token = [.scalar '-'] then pure (token, Flags.off) else flagsOn fuel token .off
  if last = [.scalar ')'] then
    modify fun r => { r with flags := r.flags.union on }
    return none
  if on.template then fail .globalFlagOn 1
  let off ← if last = [.scalar '-'] then do
      match ← take with
      | none => fail .missingFlag 0
      | some next =>
        if (flagOf? next).isNone && next ≠ [.scalar 'L'] then notAFlag next .missingFlag
        flagsOff fuel next .off
    else pure Flags.off
  if off.template then fail .globalFlagOff 1
  if on.meets off then fail .flagOnAndOff 1
  return some (on, off)

/-! ## Repetitions -/

/-- A bound written in decimal digits. -/
def bound (digits : Text) : Read Nat := do
  if Text.digitLimit < digits.length then throw (.oversizedNumber digits.length)
  let n := valueOf 10 digits
  if 4294967295 ≤ n then throw .overflow
  return n

/-- The bounds in braces after an item; `none` if the brace stands for itself. -/
def bounds (start : Nat) : Read (Option (Nat × Option Nat)) := do
  let before := (← get).tokens
  let fuel := before.length + 1
  let low ← takeWhile CodePoint.isAsciiDigit fuel
  let high ← if ← takeIf ',' then takeWhile CodePoint.isAsciiDigit fuel else pure low
  if !(← takeIf '}') then
    stand before
    return none
  let least ← bound low
  if high.isEmpty then return some (least, none)
  let most ← bound high
  if most < least then fail .repeatOrder ((← place) - start)
  return some (least, some most)

/-- Whether an item is a place, which nothing can repeat. -/
def isPlace : Item → Bool
  | .place _ => true
  | _ => false

/-- Whether an item is a repetition already. -/
def isRepeated : Item → Bool
  | .repeated .. => true
  | _ => false

/-- How often a repetition goes first, by the sign after it. -/
def repetition : Read Repetition := do
  if ← takeIf '?' then return .lazy
  if ← takeIf '+' then return .possessive
  return .greedy

/-- Repeats the last of the items; the sign began `length` places before `start`. -/
def repeatLast (start length : Nat) (least : Nat) (most : Option Nat) (items : List Item) :
    Read (List Item) := do
  match items.getLast? with
  | none => fail .nothingToRepeat ((← place) - start + length)
  | some item =>
    if isPlace item then fail .nothingToRepeat ((← place) - start + length)
    if isRepeated item then fail .multipleRepeat ((← place) - start + length)
    return items.dropLast ++ [.repeated (← repetition) least most [item]]

/-! ## Groups and sequences -/

/-- Whether a code point may stand around a number: the blanks, without the separators that are
control characters. -/
def isAroundNumber (c : CodePoint) : Bool :=
  c.isBlank && !(0x1C ≤ c.toNat && c.toNat ≤ 0x1F)

/-- The number a condition names a group by: digits of any script, with single underscores between
them, and perhaps a sign. Nothing below zero counts, and no number of too many digits. -/
def conditionNumber? (name : Text) : Option Nat :=
  let (negative, body) : Bool × Text := match Text.trim isAroundNumber name with
    | .scalar '+' :: t => (false, t)
    | .scalar '-' :: t => (true, t)
    | t => (false, t)
  let pieces := Text.splitOn (.scalar '_') body
  let digits := pieces.flatten
  if pieces.all (fun p => !p.isEmpty && p.all CodePoint.isDigit) &&
      digits.length ≤ Text.digitLimit then
    let n := Text.fromDigits 10 (digits.filterMap CodePoint.digitValue?)
    if negative && n != 0 then none else some n
  else none

/-- The number of groups that no expression can have. -/
def groupLimit : Nat := 1073741823

/-- The group a condition asks for. -/
def condition : Read Nat := do
  let name ← nameUpTo ')' "group name"
  let number ←
    if name.isName then
      match (← get).names.lookup name with
      | some n => pure n
      | none => fail (.unknownGroupName name) (name.length + 1)
    else
      match conditionNumber? name with
      | none => fail (.badGroupName name) (name.length + 1)
      | some 0 => fail .badGroupNumber (name.length + 1)
      | some n =>
        if groupLimit ≤ n then fail (.invalidReference n) (name.length + 1)
        let here := (← place) - name.length - 1
        modify fun r =>
          if (r.conditions.lookup n).isSome then r
          else { r with conditions := r.conditions ++ [(n, here)] }
        pure n
  checkBehind number
  return number

/-- A group's name up to its terminator. -/
def groupName (terminator : Char) : Read Text := do
  let name ← nameUpTo terminator "group name"
  if !name.isName then fail (.badGroupName name) (name.length + 1)
  return name

/-- Skips a comment in a group that was opened at `start`. -/
def skipComment (start : Nat) : Nat → Read Unit
  | 0 => pure ()
  | fuel + 1 => do
    match ← peek with
    | none => fail .unterminatedComment ((← place) - start)
    | some t =>
      let _ ← take
      if t ≠ [.scalar ')'] then skipComment start fuel

/-- Skips a comment up to the end of its line. -/
def skipLine : Nat → Read Unit
  | 0 => pure ()
  | fuel + 1 => do
    match ← take with
    | none => pure ()
    | some t => if t ≠ [.scalar '\n'] then skipLine fuel

/-- Takes the closing parenthesis of a group that was opened at `start`. -/
def closing (start : Nat) : Read Unit := do
  if !(← takeIf ')') then fail .unterminatedGroup ((← place) - start)

/-- What the head of a group says. -/
inductive Head where
  | group (name : Option Text) (capture : Bool) (on off : Flags)
  | atomic
  | done (items : List Item)
  | switches
  | look (behind negated : Bool)
  | conditional (group : Nat)

/-- The head of a group after its opening parenthesis at `start`. -/
def head (start : Nat) : Read Head := do
  if !(← takeIf '?') then return .group none true .off .off
  let fuel := (← get).tokens.length + 1
  match ← take with
  | none => fail .unexpectedEnd 0
  | some [.scalar 'P'] =>
    if ← takeIf '<' then return .group (some (← groupName '>')) true .off .off
    if ← takeIf '=' then
      let name ← groupName ')'
      match (← get).names.lookup name with
      | none => fail (.unknownGroupName name) (name.length + 1)
      | some n =>
        if !(← isClosed n) then fail .openGroup (name.length + 1)
        checkBehind n
        return .done [.reference n]
    match ← take with
    | none => fail .unexpectedEnd 0
    | some t => fail (.unknownExtension (.scalar 'P' :: t)) (t.length + 2)
  | some [.scalar ':'] => return .group none false .off .off
  | some [.scalar '#'] => skipComment start fuel; return .done []
  | some [.scalar '='] => return .look false false
  | some [.scalar '!'] => return .look false true
  | some [.scalar '<'] =>
    match ← take with
    | none => fail .unexpectedEnd 0
    | some [.scalar '='] => return .look true false
    | some [.scalar '!'] => return .look true true
    | some t => fail (.unknownExtension (.scalar '<' :: t)) (t.length + 2)
  | some [.scalar '('] => return .conditional (← condition)
  | some [.scalar '>'] => return .atomic
  | some t =>
    if (flagOf? t).isSome || t = [.scalar 'L'] || t = [.scalar '-'] then
      match ← groupFlags t with
      | none => return .switches
      | some (on, off) => return .group none false on off
    else fail (.unknownExtension t) (t.length + 1)

/-- Non-capturing groups without switches dissolve into the sequence around them. -/
def dissolve (items : List Item) : List Item :=
  items.flatMap fun i =>
    match i with
    | .group none on off body => if on = .off && off = .off then body else [i]
    | _ => [i]

mutual

/-- Reads a choice between sequences. -/
def choice : Nat → (verbose outermost : Bool) → Read (List Item)
  | 0, _, _ => return []
  | fuel + 1, verbose, outermost => do
    let first ← sequence fuel verbose outermost []
    let rest ← choices fuel verbose outermost
    match rest with
    | [] => return first
    | _ => return [.branch (first :: rest)]

/-- Reads the further sequences of a choice. -/
def choices : Nat → (verbose outermost : Bool) → Read (List (List Item))
  | 0, _, _ => return []
  | fuel + 1, verbose, outermost => do
    if ← takeIf '|' then
      let whole := (← get).flags.verbose
      let verbose := if outermost then whole else verbose
      let next ← sequence fuel verbose false []
      return next :: (← choices fuel verbose outermost)
    else return []

/-- Reads a sequence after the items `soFar`; `first` says that nothing stands in front of it. -/
def sequence : Nat → (verbose first : Bool) → (soFar : List Item) → Read (List Item)
  | 0, _, _, soFar => return soFar
  | fuel + 1, verbose, first, soFar => do
    match ← peek with
    | none => return dissolve soFar
    | some [.scalar '|'] | some [.scalar ')'] => return dissolve soFar
    | some token =>
      let start ← place
      let _ ← take
      let extend (item : Item) := sequence fuel verbose first (soFar ++ [item])
      match token with
      | [.scalar '\\', c] => extend (← escape token c)
      | [.scalar '['] =>
        let negated ← takeIf '^'
        let members ← setMembers start ((← get).tokens.length + 1) []
        extend (.set negated members)
      | [.scalar '?'] => sequence fuel verbose first (← repeatLast (start + 1) 1 0 (some 1) soFar)
      | [.scalar '*'] => sequence fuel verbose first (← repeatLast (start + 1) 1 0 none soFar)
      | [.scalar '+'] => sequence fuel verbose first (← repeatLast (start + 1) 1 1 none soFar)
      | [.scalar '{'] =>
        if (← peek) = some [.scalar '}'] then extend (.point 0x7B)
        else
          match ← bounds (start + 1) with
          | none => extend (.point 0x7B)
          | some (least, most) =>
            sequence fuel verbose first (← repeatLast (start + 1) 1 least most soFar)
      | [.scalar '.'] => extend .any
      | [.scalar '^'] => extend (.place .lineStart)
      | [.scalar '$'] => extend (.place .lineEnd)
      | [.scalar '('] =>
        match ← head start with
        | .done items => sequence fuel verbose first (soFar ++ items)
        | .switches =>
          if !first || !soFar.isEmpty then fail .lateFlags ((← place) - start)
          sequence fuel (← get).flags.verbose first soFar
        | .group name capture on off =>
          let number ← if capture then some <$> openGroup name else pure none
          let body ← choice fuel ((verbose || on.verbose) && !off.verbose) false
          closing start
          if let some n := number then closeGroup n body
          extend (.group number on off body)
        | .atomic =>
          let body ← choice fuel verbose false
          closing start
          extend (.atomic body)
        | .look behind negated =>
          let outer := (← get).behind
          if behind && outer.isNone then modify fun r => { r with behind := some r.widths.length }
          let body ← choice fuel verbose false
          if behind && outer.isNone then modify fun r => { r with behind := none }
          closing start
          extend (.look behind negated body)
        | .conditional group =>
          let yes ← sequence fuel verbose false []
          let no ←
            if ← takeIf '|' then
              let no ← sequence fuel verbose false []
              if (← peek) = some [.scalar '|'] then fail .tooManyBranches 0
              pure (some no)
            else pure none
          closing start
          extend (.conditional group yes no)
      | [c] => do
        if verbose && c.isAsciiBlank then sequence fuel verbose first soFar
        else if verbose && c = .scalar '#' then do
          skipLine ((← get).tokens.length + 1)
          sequence fuel verbose first soFar
        else extend (.point c.toNat)
      | _ => sequence fuel verbose first soFar

end

end Read

/-! ## Whole expressions -/

mutual

/-- The first fault in an item that shows only in the whole expression: a look-behind without a
fixed width, or one that reaches too far; with the switch for templates, any repetition. -/
def Item.lateFault? (groups : Nat → Nat × Nat) (template : Bool) : Item → Option Cause
  | .group _ _ _ body => lateFaultIn groups template body
  | .atomic body => lateFaultIn groups template body
  | .branch bodies => lateFaultInEach groups template bodies
  | .repeated how _ _ body =>
    if template then some (.templateRepetition how) else lateFaultIn groups template body
  | .conditional _ yes no =>
    (lateFaultIn groups template yes).or
      (match no with
      | some no => lateFaultIn groups template no
      | none => none)
  | .look behind _ body =>
    let (low, high) := widthOf groups body
    if behind && maxBehind < low then some .distantLookBehind
    else if behind && low != high then some .variableLookBehind
    else lateFaultIn groups template body
  | _ => none

/-- The first such fault in a sequence. -/
def lateFaultIn (groups : Nat → Nat × Nat) (template : Bool) : List Item → Option Cause
  | [] => none
  | i :: is => (i.lateFault? groups template).or (lateFaultIn groups template is)

/-- The first such fault in a choice. -/
def lateFaultInEach (groups : Nat → Nat × Nat) (template : Bool) :
    List (List Item) → Option Cause
  | [] => none
  | b :: bs => (lateFaultIn groups template b).or (lateFaultInEach groups template bs)

end

/-- Reads a whole expression. -/
def readWhole (size : Nat) : Read (List Item) := do
  Read.stand (← get).tokens
  let items ← Read.choice (4 * size + 8) false true
  let r ← get
  if r.flags.ascii && r.flags.unicode then throw .contradictoryFlags
  if r.tokens.head?.isSome then Read.fail .unbalanced 0
  match r.conditions.find? fun c => r.widths.length ≤ c.1 with
  | some (n, here) => throw (.malformed (.invalidReference n) (some here))
  | none => pure ()
  match lateFaultIn (Read.groupWidth r) r.flags.template items with
  | some cause => throw (.malformed cause none)
  | none => return items

end Localization.Regex

namespace Localization

/-- Reads a regular expression. -/
def Regex.compile (characters : Regex.CharacterNames) (pattern : Text) :
    Except Regex.Fault Regex := do
  let reader : Regex.Reader :=
    ⟨characters, Regex.tokenize 0 pattern, pattern.length, .off, [], [none], none, []⟩
  let (items, r) ← (Regex.readWhole pattern.length).run reader
  return ⟨pattern, r.flags, items, r.widths.map fun w => w.getD (0, 0)⟩

end Localization
