import Localization.Json.Basic
import Localization.Text.Digit

/-!
# Reading documents

The reader accepts JSON with three liberties: the words `NaN`, `Infinity` and `-Infinity` are
numbers, a repeated field name keeps its first place and its last value, and a pair of escaped
surrogates is one character while a single one stays a surrogate. A document that cannot be read is
reported by its first fault, with the fault's line, column and offset.
-/

namespace Localization.Json

/-- What is wrong at a place of a document. -/
inductive Fault where
  | byteOrderMark
  | expectedValue
  | expectedName
  | expectedColon
  | expectedComma
  | extraData
  | unterminatedString
  | controlCharacter
  | badEscape
  | badUnicodeEscape
  | oversizedInteger (digits : Nat)
  deriving DecidableEq

/-- The wording of a fault. -/
def Fault.message : Fault → Text
  | .byteOrderMark => "Unexpected UTF-8 BOM (decode using utf-8-sig)"
  | .expectedValue => "Expecting value"
  | .expectedName => "Expecting property name enclosed in double quotes"
  | .expectedColon => "Expecting ':' delimiter"
  | .expectedComma => "Expecting ',' delimiter"
  | .extraData => "Extra data"
  | .unterminatedString => "Unterminated string starting at"
  | .controlCharacter => "Invalid control character at"
  | .badEscape => "Invalid \\escape"
  | .badUnicodeEscape => "Invalid \\uXXXX escape"
  | .oversizedInteger digits => Text.tooManyDigits digits

/-- Whether a fault is one of the document's form; an integer of more digits than the reader takes
is well formed and still refused. -/
def Fault.isMalformed : Fault → Bool
  | .oversizedInteger _ => false
  | _ => true

/-- A fault and the offset at which it was found. -/
structure ReadFault where
  fault : Fault
  place : Nat
  deriving DecidableEq

/-- The report on a fault of a document: its wording, and for a fault of form its line, column and
offset. -/
def ReadFault.message (f : ReadFault) (document : Text) : Text :=
  if !f.fault.isMalformed then f.fault.message else
  let front := document.take f.place
  let line := front.count (.scalar '\n') + 1
  let column := (front.reverse.takeWhile (· ≠ .scalar '\n')).length + 1
  f.fault.message ++ ": line " ++ Text.ofNumber line ++ " column " ++ Text.ofNumber column ++
    " (char " ++ Text.ofNumber f.place ++ ")"

/-- The part of a document that is still to be read, and its offset. -/
structure Cursor where
  place : Nat
  rest : Text

/-- The cursor `n` code points further. -/
def Cursor.advance (c : Cursor) (n : Nat) : Cursor := ⟨c.place + n, c.rest.drop n⟩

/-- A fault at the cursor. -/
def Cursor.fail {α : Type} (c : Cursor) (fault : Fault) : Except ReadFault α :=
  .error ⟨fault, c.place⟩

/-- Blanks between tokens. -/
def isGap (c : CodePoint) : Bool :=
  c = .scalar ' ' || c = .scalar '\t' || c = .scalar '\n' || c = .scalar '\r'

/-- The cursor after any blanks. -/
def Cursor.skipGap (c : Cursor) : Cursor := c.advance (c.rest.takeWhile isGap).length

/-! ## Strings -/

/-- The character of a one-letter escape. -/
def simpleEscape? : CodePoint → Option CodePoint
  | .scalar '"' => some '"'
  | .scalar '\\' => some '\\'
  | .scalar '/' => some '/'
  | .scalar 'b' => some '\x08'
  | .scalar 'f' => some '\x0c'
  | .scalar 'n' => some '\n'
  | .scalar 'r' => some '\r'
  | .scalar 't' => some '\t'
  | _ => none

/-- The number of four hexadecimal digits at the start of a text. -/
def fourHex? (t : Text) : Option Nat :=
  if t.length < 4 then none
  else ((t.take 4).mapM CodePoint.hexDigit?).map (Text.fromDigits 16)

/-- Reads a string's body up to its closing quote: the text and the cursor after the quote. The
opening quote stood at `start`; the fuel bounds the number of code points read. -/
def readString (start : Nat) : Nat → Cursor → Except ReadFault (Text × Cursor)
  | 0, _ => .error ⟨.unterminatedString, start⟩
  | fuel + 1, cur =>
    match cur.rest with
    | [] => .error ⟨.unterminatedString, start⟩
    | .scalar '"' :: _ => .ok ([], cur.advance 1)
    | .scalar '\\' :: [] => .error ⟨.unterminatedString, start⟩
    | .scalar '\\' :: .scalar 'u' :: digits =>
      match fourHex? digits, decide (5 ≤ digits.length) with
      | some n, true =>
        let low? :=
          if 0xD800 ≤ n ∧ n < 0xDC00 ∧ 11 ≤ digits.length then
            Text.dropLead? "\\u" (digits.drop 4)
          else none
        match low? with
        | none => do
          let (t, next) ← readString start fuel (cur.advance 6)
          return (.ofNat n :: t, next)
        | some lowDigits =>
          match fourHex? lowDigits with
          | none => .error ⟨.badUnicodeEscape, cur.place + 7⟩
          | some m =>
            if 0xDC00 ≤ m ∧ m < 0xE000 then do
              let (t, next) ← readString start fuel (cur.advance 12)
              return (.ofNat (0x10000 + (n - 0xD800) * 0x400 + (m - 0xDC00)) :: t, next)
            else do
              let (t, next) ← readString start fuel (cur.advance 6)
              return (.ofNat n :: t, next)
      | _, _ => .error ⟨.badUnicodeEscape, cur.place + 1⟩
    | .scalar '\\' :: c :: _ =>
      match simpleEscape? c with
      | none => cur.fail .badEscape
      | some d => do
        let (t, next) ← readString start fuel (cur.advance 2)
        return (d :: t, next)
    | c :: _ =>
      if c.toNat < 0x20 then cur.fail .controlCharacter
      else do
        let (t, next) ← readString start fuel (cur.advance 1)
        return (c :: t, next)

/-! ## Numbers -/

/-- The values of the ASCII digits at the start of a text. -/
def leadingDigits (t : Text) : List Nat :=
  (t.takeWhile CodePoint.isAsciiDigit).filterMap CodePoint.asciiDigit?

/-- Reads a number: an optional sign, digits without a superfluous zero in front, then a fraction
and an exponent, each only if a digit follows. An integer has no more digits than
`Text.digitLimit`. -/
def readNumber (cur : Cursor) : Except ReadFault (Json × Cursor) :=
  let (negative, unsigned) : Bool × Text :=
    match cur.rest with
    | .scalar '-' :: t => (true, t)
    | t => (false, t)
  let whole := match leadingDigits unsigned with
    | 0 :: _ => [0]
    | ds => ds
  if whole.isEmpty then cur.fail .expectedValue
  else
    let afterWhole := unsigned.drop whole.length
    let part := match afterWhole with
      | .scalar '.' :: t => leadingDigits t
      | _ => []
    let partLength := if part.isEmpty then 0 else part.length + 1
    let afterPart := afterWhole.drop partLength
    let (expNegative, expDigits, expLength) : Bool × List Nat × Nat :=
      match afterPart with
      | .scalar 'e' :: t | .scalar 'E' :: t =>
        let (neg, body, sign) : Bool × Text × Nat :=
          match t with
          | .scalar '-' :: u => (true, u, 1)
          | .scalar '+' :: u => (false, u, 1)
          | u => (false, u, 0)
        let ds := leadingDigits body
        if ds.isEmpty then (false, [], 0) else (neg, ds, 1 + sign + ds.length)
      | _ => (false, [], 0)
    let length := (if negative then 1 else 0) + whole.length + partLength + expLength
    let next := cur.advance length
    if part.isEmpty && expDigits.isEmpty then
      if Text.digitLimit < whole.length then cur.fail (.oversizedInteger whole.length)
      else
        let n := Text.fromDigits 10 whole
        .ok (.int (if negative then -(n : Int) else (n : Int)), next)
    else
      let e : Int := Text.fromDigits 10 expDigits
      let exponent := (if expNegative then -e else e) - part.length
      .ok (.float (.ofDecimal negative (Text.fromDigits 10 (whole ++ part)) exponent), next)

/-! ## Values -/

/-- The words that are values by themselves. -/
def words : List (Text × Json) :=
  [("null", .null), ("true", .bool true), ("false", .bool false), ("NaN", .float .nan),
    ("Infinity", .float (.infinite false)), ("-Infinity", .float (.infinite true))]

mutual

/-- Reads the value at the cursor, which stands on no blank. -/
def readValue : Nat → Cursor → Except ReadFault (Json × Cursor)
  | 0, cur => cur.fail .expectedValue
  | fuel + 1, cur =>
    match cur.rest with
    | .scalar '"' :: t => do
      let (text, next) ← readString cur.place (t.length + 1) (cur.advance 1)
      return (.str text, next)
    | .scalar '[' :: _ =>
      let inner := (cur.advance 1).skipGap
      match inner.rest with
      | .scalar ']' :: _ => .ok (.arr [], inner.advance 1)
      | _ => do
        let (items, next) ← readItems fuel inner
        return (.arr items, next)
    | .scalar '{' :: _ =>
      let inner := (cur.advance 1).skipGap
      match inner.rest with
      | .scalar '}' :: _ => .ok (.obj [], inner.advance 1)
      | _ => do
        let (fields, next) ← readFields fuel [] inner
        return (.obj fields, next)
    | rest =>
      match words.find? fun w => rest.startsWith w.1 with
      | some (word, value) => .ok (value, cur.advance word.length)
      | none => readNumber cur

/-- Reads the items of an array up to its closing bracket. -/
def readItems : Nat → Cursor → Except ReadFault (List Json × Cursor)
  | 0, cur => cur.fail .expectedValue
  | fuel + 1, cur => do
    let (item, next) ← readValue fuel cur
    let next := next.skipGap
    match next.rest with
    | .scalar ']' :: _ => return ([item], next.advance 1)
    | .scalar ',' :: _ =>
      let (items, final) ← readItems fuel (next.advance 1).skipGap
      return (item :: items, final)
    | _ => next.fail .expectedComma

/-- Reads the fields of an object up to its closing brace, after the fields `done`. -/
def readFields : Nat → List (Text × Json) → Cursor → Except ReadFault (List (Text × Json) × Cursor)
  | 0, _, cur => cur.fail .expectedName
  | fuel + 1, done, cur =>
    match cur.rest with
    | .scalar '"' :: t => do
      let (name, next) ← readString cur.place (t.length + 1) (cur.advance 1)
      let next := next.skipGap
      match next.rest with
      | .scalar ':' :: _ =>
        let (value, next) ← readValue fuel (next.advance 1).skipGap
        let next := next.skipGap
        let done := Entries.set done name value
        match next.rest with
        | .scalar '}' :: _ => return (done, next.advance 1)
        | .scalar ',' :: _ => readFields fuel done (next.advance 1).skipGap
        | _ => next.fail .expectedComma
      | _ => next.fail .expectedColon
    | _ => cur.fail .expectedName

end

/-- Reads a whole document. -/
def read (document : Text) : Except ReadFault Json :=
  match document with
  | .scalar '\uFEFF' :: _ => .error ⟨.byteOrderMark, 0⟩
  | _ => do
    let start := (Cursor.mk 0 document).skipGap
    let (value, next) ← readValue (2 * document.length + 2) start
    let next := next.skipGap
    if next.rest.isEmpty then return value else next.fail .extraData

end Localization.Json
