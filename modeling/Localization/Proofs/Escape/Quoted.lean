import Localization.Extraction.Wrap
import Localization.Proofs.Escape

/-!
# Literals that are read back

A key is written into the source between single quotes, first with its backslashes and then with its
quotes escaped; the two replacements do not get into each other's way (`body_eq`). Whoever reads the
literal, a backslash taking the next code point with it and the first quote that is left closing it,
reads all of it and nothing of what follows (`readLiteral_literal`), and its body stands for the key
again. So keys are told apart by their literals (`callOf_readable`).
-/

namespace Localization.Escape

/-! ## Reading -/

/-- A text up to its first quote, and what comes after the quote. A backslash takes the next code
point with it. -/
def untilQuote : Text → Option (Text × Text)
  | [] => none
  | c :: t =>
    if c = .scalar '\'' then some ([], t)
    else if c = .scalar '\\' then
      match t with
      | [] => none
      | d :: t => (untilQuote t).map (Prod.map (c :: d :: ·) id)
    else (untilQuote t).map (Prod.map (c :: ·) id)

/-- The body of the literal in single quotes that a text starts with, and what comes after it. -/
def readLiteral : Text → Option (Text × Text)
  | [] => none
  | c :: t => if c = .scalar '\'' then untilQuote t else none

/-- A quote ends the body at once. -/
theorem untilQuote_quote (t : Text) : untilQuote (.scalar '\'' :: t) = some ([], t) := by
  rw [untilQuote.eq_def]
  rfl

/-- A backslash takes the code point behind it along, whatever that is. -/
theorem untilQuote_backslash (c : CodePoint) (t : Text) :
    untilQuote (.scalar '\\' :: c :: t) =
      (untilQuote t).map (Prod.map ([.scalar '\\', c] ++ ·) id) := by
  rw [untilQuote.eq_def]
  rfl

/-- A code point that is neither a quote nor a backslash belongs to the body. -/
theorem untilQuote_of_ne {c : CodePoint} (hquote : c ≠ .scalar '\'') (hbackslash : c ≠ .scalar '\\')
    (t : Text) : untilQuote (c :: t) = (untilQuote t).map (Prod.map ([c] ++ ·) id) := by
  rw [untilQuote.eq_def]
  simp only [if_neg hquote, if_neg hbackslash]
  rfl

/-! ## Reading what was written -/

/-- What is written for one code point is read on to the next one. -/
theorem untilQuote_char (c : CodePoint) (t : Text) :
    untilQuote ((if c = .scalar '\\' ∨ c = .scalar '\'' then [.scalar '\\', c] else [c]) ++ t) =
      (untilQuote t).map (Prod.map
        ((if c = .scalar '\\' ∨ c = .scalar '\'' then [.scalar '\\', c] else [c]) ++ ·) id) := by
  split
  next => exact untilQuote_backslash c t
  next h =>
    obtain ⟨hbackslash, hquote⟩ := not_or.1 h
    exact untilQuote_of_ne hquote hbackslash t

/-- The first bare quote behind a written body is the one that closes it. -/
theorem untilQuote_body (key rest : Text) :
    untilQuote (body key ++ .scalar '\'' :: rest) = some (body key, rest) := by
  induction key with
  | nil => exact untilQuote_quote rest
  | cons c key ih =>
    rw [body, List.flatMap_cons, List.append_assoc, untilQuote_char]
    rw [body] at ih
    rw [ih]
    rfl

/-- A literal is read whole, and nothing of what comes after it. -/
theorem readLiteral_literal (key rest : Text) :
    readLiteral (literal key ++ rest) = some (body key, rest) := by
  rw [literal_eq, List.cons_append, readLiteral, if_pos rfl, List.append_assoc]
  exact untilQuote_body key rest

/-- Escaping the backslashes and then the quotes escapes each code point by itself. -/
theorem body_eq (key : Text) : body key =
    Text.replaceAll (.scalar '\'') "\\'" (Text.replaceAll (.scalar '\\') "\\\\" key) := by
  rw [Text.replaceAll, Text.replaceAll, List.flatMap_assoc, body]
  refine List.flatMap_congr fun c _ => ?_
  by_cases hbackslash : c = .scalar '\\'
  · subst hbackslash
    rfl
  · by_cases hquote : c = .scalar '\''
    · subst hquote
      rfl
    · rw [if_neg (not_or.2 ⟨hbackslash, hquote⟩), if_neg hbackslash]
      simp [hquote]

/-- Two keys with one literal are the same key. -/
theorem literal_injective : Function.Injective literal := by
  intro key other h
  have hread : some (body key, ([] : Text)) = some (body other, []) := by
    rw [← readLiteral_literal key [], ← readLiteral_literal other [], h]
  have hbody : body key = body other := (Prod.mk.inj (Option.some.inj hread)).1
  have hresolve : (.ok key : Except Fault Text) = .ok other := by
    rw [← resolve_body key, ← resolve_body other, hbody]
  exact Except.ok.inj hresolve

end Localization.Escape

namespace Localization.Extraction

/-- **Calls that are read back.** The call for a key is the function's name with a literal in
parentheses, the key between quotes with its backslashes and then its quotes escaped. The literal is
read whole, whatever comes after it, and its body stands for the key; no two keys share one. -/
theorem callOf_readable (functionName key : Text) :
    callOf functionName key = functionName ++ "(" ++ Escape.literal key ++ ")" ∧
      Escape.literal key = Text.ofString "'" ++ Text.replaceAll (.scalar '\'') "\\'"
        (Text.replaceAll (.scalar '\\') "\\\\" key) ++ "'" ∧
      (∀ rest, ∃ body, Escape.readLiteral (Escape.literal key ++ rest) = some (body, rest) ∧
        Escape.resolve body = .ok key) ∧
      Function.Injective Escape.literal := by
  refine ⟨rfl, ?_, ?_, Escape.literal_injective⟩
  · rw [← Escape.body_eq]
    rfl
  · intro rest
    exact ⟨Escape.body key, Escape.readLiteral_literal key rest, Escape.resolve_body key⟩

/-- A key that looks like an escape and ends in a quote. -/
example : callOf "t" "a\\n'" = "t('a\\\\n\\'')" := by
  decide

end Localization.Extraction
