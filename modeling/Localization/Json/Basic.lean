import Localization.Entries
import Localization.Number.Binary64

/-!
# Documents

Catalogs and configurations are JSON documents. Fields keep the order in which their names first
occurred, and integers are kept apart from numbers with a fraction or an exponent. Two values are
the same when they denote the same thing: numbers by value, truth values as the numbers zero and
one, objects whatever the order of their fields.
-/

namespace Localization

/-- A JSON value. -/
inductive Json where
  | null
  | bool (value : Bool)
  | int (value : Int)
  | float (value : Binary64)
  | str (text : Text)
  | arr (items : List Json)
  | obj (fields : List (Text × Json))

namespace Json

instance : Inhabited Json := ⟨.null⟩

instance : Coe Text Json := ⟨.str⟩

instance : Coe String Json := ⟨fun s => .str (Text.ofString s)⟩

/-- The value of a field; anything but an object has none. -/
def field? (j : Json) (name : Text) : Option Json :=
  match j with
  | .obj fields => Entries.get? fields name
  | _ => none

/-- The text of a string value. -/
def text? : Json → Option Text
  | .str t => some t
  | _ => none

/-- Whether a value is an object. -/
def isObject : Json → Bool
  | .obj _ => true
  | _ => false

/-- Whether a value is a string. -/
def isText : Json → Bool
  | .str _ => true
  | _ => false

/-- The word for the kind of a value in messages. -/
def kindName : Json → Text
  | .null => "NoneType"
  | .bool _ => "bool"
  | .int _ => "int"
  | .float _ => "float"
  | .str _ => "str"
  | .arr _ => "list"
  | .obj _ => "dict"

/-- Whether a value counts as something: not null, false, zero or empty. -/
def isTruthy : Json → Bool
  | .null => false
  | .bool b => b
  | .int n => n != 0
  | .float x => !x.isZero
  | .str t => !t.isEmpty
  | .arr items => !items.isEmpty
  | .obj fields => !fields.isEmpty

/-- The number a value denotes when it is compared with other numbers. -/
inductive Quantity where
  | whole (n : Int)
  | other (x : Binary64)
  deriving DecidableEq

/-- The number a value denotes; truth values count as zero and one. -/
def quantity? : Json → Option Quantity
  | .bool b => some (.whole (if b then 1 else 0))
  | .int n => some (.whole n)
  | .float x =>
    match x.toInt? with
    | some n => some (.whole n)
    | none => some (.other x)
  | _ => none

/-- Whether two numbers are equal; the number that is not a number equals nothing. -/
def Quantity.same : Quantity → Quantity → Bool
  | .whole a, .whole b => a == b
  | .other .nan, _ => false
  | .other a, .other b => a == b
  | _, _ => false

mutual

/-- Whether two values denote the same thing. -/
def same : Json → Json → Bool
  | .null, .null => true
  | .str a, .str b => a == b
  | .arr a, .arr b => sameItems a b
  | .obj a, .obj b => a.length == b.length && sameFields a b
  | .bool a, b => ofQuantity (.bool a) b
  | .int a, b => ofQuantity (.int a) b
  | .float a, b => ofQuantity (.float a) b
  | _, _ => false
where
  ofQuantity (a b : Json) : Bool :=
    match a.quantity?, b.quantity? with
    | some x, some y => x.same y
    | _, _ => false

/-- Whether two lists hold the same values in the same order. -/
def sameItems : List Json → List Json → Bool
  | [], [] => true
  | a :: as, b :: bs => same a b && sameItems as bs
  | _, _ => false

/-- Whether every field of the first object has the same value in the second. -/
def sameFields : List (Text × Json) → List (Text × Json) → Bool
  | [], _ => true
  | (k, a) :: rest, other =>
    (match Entries.get? other k with
      | some b => same a b
      | none => false) && sameFields rest other

end

end Json

end Localization
