import Mathlib.Data.List.Lex
import Mathlib.Data.List.Sort
import Localization.Proofs.Entries

/-!
# The order of texts

Texts are ordered by the numbers of their code points, and no two texts have the same numbers. So
entries with different keys stand in one order only, however they came in, and sorting them goes
along with dropping some of them and with changing their values.
-/

namespace Localization

/-- A code point is known by its number. -/
theorem CodePoint.ofNat_toNat (c : CodePoint) : CodePoint.ofNat c.toNat = c := by
  cases c with
  | scalar c =>
    have hvalid : c.toNat.isValidChar := c.valid
    have hof : CodePoint.ofNat c.toNat = .scalar (Char.ofNatAux c.toNat hvalid) := by
      rw [CodePoint.ofNat, ofNat?, dif_pos hvalid, Option.getD_some]
    have hchar : Char.ofNatAux c.toNat hvalid = c := by
      have hback := Char.ofNat_toNat c
      rwa [Char.ofNat, dif_pos hvalid] at hback
    rw [toNat, hof, hchar]
  | surrogate i =>
    have hlt := i.isLt
    have hvalid : ¬ (0xD800 + i.val).isValidChar := by
      unfold Nat.isValidChar
      omega
    have hrange : 0xD800 ≤ 0xD800 + i.val ∧ 0xD800 + i.val ≤ 0xDFFF := by omega
    rw [toNat, CodePoint.ofNat, ofNat?, dif_neg hvalid, if_pos hrange, Option.getD_some,
      Nat.add_sub_cancel_left]
    exact congrArg surrogate (Fin.ext (Nat.mod_eq_of_lt hlt))

/-- A table of ASCII characters has the values of a function that has none for other characters, if
it has them for the first code points. -/
theorem CodePoint.mem_table_iff {f : CodePoint → Option Nat} {table : List (CodePoint × Nat)}
    (hsmall : ∀ c v, f c = some v → c.toNat < 0x80) (htable : ∀ p ∈ table, f p.1 = some p.2)
    (hall : ∀ n < 0x80, ∀ v ∈ f (ofNat n), (ofNat n, v) ∈ table) {c : CodePoint} {v : Nat} :
    (c, v) ∈ table ↔ f c = some v := by
  refine ⟨htable (c, v), fun h => ?_⟩
  have hpoint := hall c.toNat (hsmall c v h) v
  rw [CodePoint.ofNat_toNat] at hpoint
  exact hpoint h

/-- A code point is told by its number. -/
theorem CodePoint.toNat_injective : Function.Injective CodePoint.toNat :=
  Function.LeftInverse.injective CodePoint.ofNat_toNat

namespace Text

/-- Texts come before each other as the lists of their numbers do. -/
theorem before_iff {s t : Text} :
    before s t = true ↔ s.map CodePoint.toNat < t.map CodePoint.toNat := by
  induction s generalizing t with
  | nil => cases t <;> simp [before]
  | cons a s ih =>
    cases t with
    | nil => simp [before]
    | cons b t =>
      rw [before, List.map_cons, List.map_cons, List.cons_lt_cons_iff, ← ih]
      split
      next hlt => simp [hlt]
      next hge =>
        split
        next hgt => simp [hge, hgt.ne']
        next hle =>
          have heq : a.toNat = b.toNat := by omega
          simp [heq]

/-- A text is not after another when its numbers are not, in the lexicographic order. -/
theorem notAfter_iff {s t : Text} :
    notAfter s t = true ↔ s.map CodePoint.toNat ≤ t.map CodePoint.toNat := by
  rw [notAfter, Bool.not_eq_true', ← Bool.not_eq_true, before_iff, not_lt]

/-- Not being after is transitive. -/
theorem notAfter_trans {s t u : Text} (h : notAfter s t = true) (h' : notAfter t u = true) :
    notAfter s u = true :=
  notAfter_iff.2 ((notAfter_iff.1 h).trans (notAfter_iff.1 h'))

/-- Of two texts one is not after the other. -/
theorem notAfter_total (s t : Text) : (notAfter s t || notAfter t s) = true := by
  rw [Bool.or_eq_true, notAfter_iff, notAfter_iff]
  exact le_total _ _

/-- Two texts of which neither is after the other are equal. -/
theorem notAfter_antisymm {s t : Text} (h : notAfter s t = true) (h' : notAfter t s = true) :
    s = t :=
  CodePoint.toNat_injective.list_map ((notAfter_iff.1 h).antisymm (notAfter_iff.1 h'))

end Text

namespace Entries

variable {α β : Type}

/-- Sorted entries are in the order of their keys. -/
theorem pairwise_sorted (e : Entries α) :
    (sorted e).Pairwise fun a b => Text.notAfter a.1 b.1 = true := by
  unfold sorted
  apply List.pairwise_mergeSort
  · intro a b c hab hbc
    exact Text.notAfter_trans hab hbc
  · intro a b
    exact Text.notAfter_total a.1 b.1

/-- Entries with different keys have one order. -/
theorem eq_sorted {e e' : Entries α} (hn : e.keys.Nodup) (hperm : e'.Perm e)
    (h : e'.Pairwise fun a b => Text.notAfter a.1 b.1 = true) : e' = sorted e := by
  refine List.Perm.eq_of_pairwise (fun a b ha hb hab hba => ?_) h (pairwise_sorted e)
    (hperm.trans (perm_sorted e))
  have hkey := Text.notAfter_antisymm hab hba
  exact List.inj_on_of_nodup_map hn (hperm.subset ha) ((perm_sorted e).symm.subset hb) hkey

/-- Entries with different keys have one sorted form exactly if they are read alike. -/
theorem sorted_eq_sorted_iff {e e' : Entries α} (hn : e.keys.Nodup) (hn' : e'.keys.Nodup) :
    sorted e = sorted e' ↔ ∀ key, e.get? key = e'.get? key := by
  constructor
  · intro h key
    rw [← get?_of_perm hn (perm_sorted e), h, get?_of_perm hn' (perm_sorted e')]
  · intro h
    exact eq_sorted hn' ((perm_sorted e).symm.trans (perm_of_get? hn hn' h)) (pairwise_sorted e)

/-- Dropping keys and sorting go together. -/
theorem filter_sorted {e : Entries α} (hn : e.keys.Nodup) (p : Text × α → Bool) :
    (sorted e).filter p = sorted (e.filter p) :=
  eq_sorted ((List.filter_sublist.map _).nodup hn) ((perm_sorted e).symm.filter p)
    ((pairwise_sorted e).filter p)

/-- Changing values and sorting go together. -/
theorem map_sorted (e : Entries α) (f : Text × α → β) :
    (sorted e).map (fun a => (a.1, f a)) = sorted (e.map fun a => (a.1, f a)) :=
  List.map_mergeSort fun _ _ _ _ => rfl

end Entries

end Localization
