import Localization.Syntax.Grammar
import Localization.Syntax.Reading

/-!
# Parsing source files

A file is read as a list of statements after an optional line that names its interpreter. Reading
never fails: what is no statement becomes a region of error.
-/

namespace Localization.Syntax

/-- The line in front of a file that names its interpreter. -/
def hashBang? : List Char → Option Nat
  | '#' :: '!' :: cs => some (2 + runLength (fun c => !isLineEnd c) cs)
  | _ => none

/-- The tree of a source file. -/
def parse (dialect : Dialect) (source : Source) : Tree :=
  let text := source.chars
  let size := source.bytes.length
  let start :=
    match hashBang? text with
    | some n => (Reading.start text).takeRaw .hashBang n
    | none => Reading.start text
  let fuel := 200 * (text.length + 10)
  match read (grammar dialect) fuel true (.rule .program) start with
  | .ok r => .node .program none ⟨0, size⟩ (r.comments ++ r.out).reverse
  | .error _ => .node .program none ⟨0, size⟩ [.node .error none ⟨0, size⟩ []]

end Localization.Syntax
