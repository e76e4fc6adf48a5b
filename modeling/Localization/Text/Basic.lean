/-!
# Code points and texts

Texts of this library are lists of code points. A code point is a Unicode scalar value or a
surrogate: escapes such as `\ud83d` in a string literal put single surrogates into a text, two
of them beside each other stay two, and only writing the text out as bytes refuses them. The
functions here are the ones every other module shares: order by code point, literals, trimming
by a class, splitting and joining.
-/

namespace Localization

/-- A Unicode code point: a scalar value, or the surrogate `0xD800 + index`. -/
inductive CodePoint where
  | scalar (c : Char)
  | surrogate (index : Fin 2048)
  deriving DecidableEq

namespace CodePoint

/-- The number of a code point. -/
def toNat : CodePoint → Nat
  | .scalar c => c.toNat
  | .surrogate i => 0xD800 + i.val

/-- The code point of a number, if there is one. -/
def ofNat? (n : Nat) : Option CodePoint :=
  if h : n.isValidChar then some (.scalar (Char.ofNatAux n h))
  else if 0xD800 ≤ n ∧ n ≤ 0xDFFF then some (.surrogate (Fin.ofNat 2048 (n - 0xD800)))
  else none

/-- The code point of a number that is known to be small enough; the replacement character
stands for anything else. -/
def ofNat (n : Nat) : CodePoint := (ofNat? n).getD (.scalar '\uFFFD')

instance : Coe Char CodePoint := ⟨.scalar⟩

instance : Inhabited CodePoint := ⟨.scalar ' '⟩

/-- Code points are ordered by their numbers. -/
instance : LT CodePoint := ⟨fun a b => a.toNat < b.toNat⟩

instance (a b : CodePoint) : Decidable (a < b) := inferInstanceAs (Decidable (a.toNat < b.toNat))

/-- A code point that UTF-8 has no form for. -/
def isSurrogate : CodePoint → Bool
  | .scalar _ => false
  | .surrogate _ => true

/-- `p` of a scalar value; no surrogate satisfies it. -/
def is (p : Char → Bool) : CodePoint → Bool
  | .scalar c => p c
  | .surrogate _ => false

end CodePoint

/-- A text is the list of its code points. -/
abbrev Text := List CodePoint

namespace Text

/-- The text of a list of characters. -/
def ofChars (cs : List Char) : Text := cs.map .scalar

/-- The text of a string. -/
def ofString (s : String) : Text := ofChars s.toList

instance : Coe String Text := ⟨ofString⟩

/-- A number in decimal. -/
def ofNumber (n : Nat) : Text := ofChars (Nat.toDigits 10 n)

/-- An integer in decimal, with a minus sign below zero. -/
def ofInteger : Int → Text
  | .ofNat n => ofNumber n
  | .negSucc n => .scalar '-' :: ofNumber (n + 1)

/-- A text holds no surrogate, so it has a UTF-8 form. -/
def Encodable (t : Text) : Prop := ∀ c ∈ t, c.isSurrogate = false

/-- Whether one text comes strictly before another, comparing code point by code point. -/
def before : Text → Text → Bool
  | _, [] => false
  | [], _ :: _ => true
  | a :: s, b :: t => if a.toNat < b.toNat then true else if b.toNat < a.toNat then false
      else before s t

/-- Whether one text comes before another or equals it. -/
def notAfter (s t : Text) : Bool := !before t s

/-- The texts of a list in increasing order; equal ones keep their places. -/
def sort (ts : List Text) : List Text := ts.mergeSort notAfter

/-- `t` without the code points of a class at its start. -/
def trimStart (p : CodePoint → Bool) (t : Text) : Text := t.dropWhile p

/-- `t` without the code points of a class at its end. -/
def trimEnd (p : CodePoint → Bool) : Text → Text
  | [] => []
  | c :: t =>
    match trimEnd p t with
    | [] => if p c then [] else [c]
    | r => c :: r

/-- `t` without the code points of a class at either end. -/
def trim (p : CodePoint → Bool) (t : Text) : Text := trimEnd p (trimStart p t)

/-- The pieces of `t` between the occurrences of `sep`; there is always at least one piece. -/
def splitOn (sep : CodePoint) : Text → List Text
  | [] => [[]]
  | c :: t =>
    if c = sep then [] :: splitOn sep t
    else
      match splitOn sep t with
      | [] => [[c]]
      | piece :: rest => (c :: piece) :: rest

/-- The maximal runs of code points outside a class. -/
def wordsBy (p : CodePoint → Bool) : Text → List Text
  | [] => []
  | c :: t =>
    if p c then wordsBy p t
    else
      match t with
      | [] => [[c]]
      | d :: _ =>
        if p d then [c] :: wordsBy p t
        else
          match wordsBy p t with
          | [] => [[c]]
          | word :: rest => (c :: word) :: rest

/-- The texts of a list with `sep` between neighbours. -/
def join (sep : Text) (ts : List Text) : Text := sep.intercalate ts

/-- What follows `lead` at the start of `t`. -/
def dropLead? : (lead t : Text) → Option Text
  | [], t => some t
  | _ :: _, [] => none
  | a :: lead, b :: t => if a = b then dropLead? lead t else none

/-- Whether `t` starts with `lead`. -/
def startsWith (t lead : Text) : Bool := (dropLead? lead t).isSome

/-- Whether `t` ends with `tail`. -/
def endsWith (t tail : Text) : Bool := startsWith t.reverse tail.reverse

/-- Whether `part` occurs in `t`. -/
def holds (t part : Text) : Bool :=
  startsWith t part ||
    match t with
    | [] => false
    | _ :: rest => holds rest part

/-- `t` with every occurrence of the code point `c` replaced by `new`. -/
def replaceAll (c : CodePoint) (new : Text) (t : Text) : Text :=
  t.flatMap fun d => if d = c then new else [d]

end Text

end Localization
