import Localization.Reference.Table

/-!
# What the table of names holds

Resolving relies on three facts about every entry: a name has at least two code points, it holds no
blank or control character, and the characters it stands for can be encoded. They are checked line
by line, and hold of every name that is looked up (`sound_of_named?`).
-/

namespace Localization.Reference

/-- What resolving relies on: the name is long enough to be looked for as a beginning, it has no
code point up to the space, and it stands for characters only. -/
structure Sound (e : Text × Text) : Prop where
  two_le : 2 ≤ e.1.length
  visible : ∀ c ∈ e.1, 0x20 < c.toNat
  encodable : ∀ c ∈ e.2, c.isSurrogate = false

instance (e : Text × Text) : Decidable (Sound e) :=
  decidable_of_iff
    (2 ≤ e.1.length ∧ (∀ c ∈ e.1, 0x20 < c.toNat) ∧ ∀ c ∈ e.2, c.isSurrogate = false)
    ⟨fun h => ⟨h.1, h.2.1, h.2.2⟩, fun h => ⟨h.two_le, h.visible, h.encodable⟩⟩

/-- Every entry of a line is sound. -/
def SoundLine (line : String) : Prop := ∀ e ∈ lineEntries (Text.ofString line), Sound e

/-- A line is checked on its characters, which a literal gives at once. -/
theorem soundLine_ofList {cs : List Char} (h : ∀ e ∈ lineEntries (Text.ofChars cs), Sound e) :
    SoundLine (String.ofList cs) := by
  rw [SoundLine, Text.ofString, String.toList_ofList]
  exact h

/-- Every line of the table is sound. -/
theorem soundLine_of_mem : ∀ line ∈ tableLines, SoundLine line := by
  simp only [tableLines, List.forall_mem_append]
  and_intros
  all_goals
    simp only [upperAToG, upperHToN, upperOToZ, lowerAToD, lowerEToK, lowerLToN, lowerOToR,
      lowerSToZ, List.forall_mem_cons]
    and_intros
  all_goals first | apply soundLine_ofList | nofun
  all_goals decide +kernel

/-- **Every name that is looked up is sound.** -/
theorem sound_of_named? {name value : Text} (h : named? name = some value) :
    Sound (name, value) := by
  obtain ⟨before, after, hnamed, -⟩ := List.lookup_eq_some_iff.1 h
  have hmem : (name, value) ∈ named := by
    rw [hnamed]
    simp
  obtain ⟨line, hline, he⟩ := List.mem_flatMap.1 hmem
  exact soundLine_of_mem line hline _ he

end Localization.Reference
