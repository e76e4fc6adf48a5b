import Mathlib.Data.List.Basic
import Localization.Key.Registry
import Localization.Proofs.Results

/-!
# Who shares a key

A registry is asked for keys, and to reserve keys, in any order. `History` is such a sequence of
requests with the keys that were given on the way. A text is given its plain key, and holds it from
then on, or its plain key with its mark behind it (`History.given_cases`). Plain keys are told
apart: a plain key is given to nobody but its holder, and a holder never changes.

A marked key is given without a look at who holds it. So two texts can share a key, and do in some
sequence of requests, exactly if the marked key of one of them is the plain or the marked key of the
other (`exists_shared_iff`): a text may itself read like another text with its mark behind it, and
marks have six digits only.
-/

namespace Localization.Key

/-- The key of a text with its mark behind it. -/
def marked (text file lead : Text) : Except Utf8.EncodeFault Text := do
  let plain ← generate text file lead
  return plain ++ "_" ++ (← shortMark text)

/-- A marked key is the text's plain key with its short mark behind an underscore. -/
theorem marked_eq_ok {text file lead key : Text} : marked text file lead = .ok key ↔
    ∃ plain mark, generate text file lead = .ok plain ∧ shortMark text = .ok mark ∧
      plain ++ "_" ++ mark = key := by
  simp only [marked, bind_eq_ok, pure, Except.pure, Except.ok.injEq]
  constructor
  · rintro ⟨plain, hplain, mark, hmark, hkey⟩
    exact ⟨plain, mark, hplain, hmark, hkey⟩
  · rintro ⟨plain, mark, hplain, hmark, hkey⟩
    exact ⟨plain, hplain, mark, hmark, hkey⟩

/-- A marked key is longer than the plain one. -/
theorem marked_ne_plain {text file lead plain key : Text}
    (hplain : generate text file lead = .ok plain) (hkey : marked text file lead = .ok key) :
    key ≠ plain := by
  obtain ⟨plain', mark, hplain', -, rfl⟩ := marked_eq_ok.1 hkey
  rw [hplain] at hplain'
  cases hplain'
  intro heq
  have hlength := congrArg List.length heq
  have hunderscore : (Text.ofString "_").length = 1 := rfl
  simp only [List.length_append, hunderscore] at hlength
  omega

namespace Registry

variable {r r' : Registry} {key other text : Text}

/-! ## One request -/

/-- A key is free for a text when nothing holds it or that text does. -/
theorem isTaken_eq_false : r.isTaken key text = false ↔
    r.holders.get? key = none ∨ r.holders.get? key = some (some text) := by
  unfold isTaken
  cases r.holders.get? key with
  | none => simp
  | some holder => simp

/-- A text is given its plain key if nobody else has it, and else its marked key; it then holds that
key, unless another text does. -/
theorem keyFor_eq_ok : r.keyFor text = .ok (key, r') ↔
    r' = r.hold key text ∧ ∃ plain, generate text r.file r.lead = .ok plain ∧
      (r.isTaken plain text = false ∧ key = plain ∨
        r.isTaken plain text = true ∧ marked text r.file r.lead = .ok key) := by
  unfold keyFor
  rw [bind_eq_ok]
  constructor
  · rintro ⟨plain, hplain, h⟩
    dsimp only at h
    split at h
    next htaken =>
      obtain ⟨mark, hmark, h⟩ := bind_eq_ok.1 h
      cases h
      exact ⟨rfl, plain, hplain, .inr ⟨htaken, marked_eq_ok.2 ⟨plain, mark, hplain, hmark, rfl⟩⟩⟩
    next hfree =>
      cases h
      exact ⟨rfl, key, hplain, .inl ⟨Bool.eq_false_iff.2 hfree, rfl⟩⟩
  · rintro ⟨rfl, plain, hplain, ⟨hfree, rfl⟩ | ⟨htaken, hmarked⟩⟩
    · refine ⟨key, hplain, ?_⟩
      rw [hfree]
      rfl
    · obtain ⟨plain', mark, hplain', hmark, rfl⟩ := marked_eq_ok.1 hmarked
      rw [hplain] at hplain'
      cases hplain'
      refine ⟨plain, hplain, ?_⟩
      rw [htaken, if_pos rfl, hmark]
      rfl

@[simp] theorem file_hold : (r.hold key text).file = r.file := by
  unfold hold
  split <;> rfl

@[simp] theorem lead_hold : (r.hold key text).lead = r.lead := by
  unfold hold
  split <;> rfl

@[simp] theorem file_reserve : (r.reserve key).file = r.file := by
  unfold reserve
  split <;> rfl

@[simp] theorem lead_reserve : (r.reserve key).lead = r.lead := by
  unfold reserve
  split <;> rfl

/-- Holding a key changes nothing for another key. -/
theorem get?_hold_of_ne (h : key ≠ other) :
    (r.hold key text).holders.get? other = r.holders.get? other := by
  unfold hold
  split
  · rfl
  · exact Entries.get?_set_of_ne _ _ h

/-- Reserving a key changes nothing for another key. -/
theorem get?_reserve_of_ne (h : key ≠ other) :
    (r.reserve key).holders.get? other = r.holders.get? other := by
  unfold reserve
  split
  · rfl
  · exact Entries.get?_set_of_ne _ _ h

/-- A key that nobody has is reserved without a holder. -/
theorem get?_reserve_self (h : r.holders.get? key = none) :
    (r.reserve key).holders.get? key = some none := by
  unfold reserve
  rw [Entries.has, h]
  exact Entries.get?_set_self _ _ _

/-- A key that no other text has is held by the text that asks for it. -/
theorem get?_hold_of_not_isTaken (h : r.isTaken key text = false) :
    (r.hold key text).holders.get? key = some (some text) := by
  rcases isTaken_eq_false.1 h with hnone | hself
  · simp [hold, hnone]
  · simp [hold, hself]

/-! ## Holders stay -/

/-- A key that is in use, be it held or reserved, stays so whatever is reserved. -/
theorem get?_reserve_of_some {holder : Option Text} (h : r.holders.get? key = some holder)
    (other : Text) : (r.reserve other).holders.get? key = some holder := by
  by_cases heq : other = key
  · subst heq
    simp [reserve, Entries.has, h]
  · rw [get?_reserve_of_ne heq, h]

/-- Whoever holds a key holds it after a key was given. -/
theorem holder_keyFor (h : r.holders.get? key = some (some text)) {other asked : Text}
    (hgiven : r.keyFor asked = .ok (other, r')) : r'.holders.get? key = some (some text) := by
  obtain ⟨rfl, -⟩ := keyFor_eq_ok.1 hgiven
  by_cases heq : other = key
  · subst heq
    simp [hold, h]
  · rw [get?_hold_of_ne heq, h]

end Registry

/-! ## Sequences of requests -/

/-- A registry that a sequence of requests led to, with the texts that asked and the keys they were
given, in order. A request that fails, because its text has no UTF-8 form, leaves the registry as it
was. -/
inductive History (file lead : Text) : List (Text × Text) → Registry → Prop where
  | empty : History file lead [] (.empty file lead)
  | reserve {given : List (Text × Text)} {r : Registry} (key : Text) :
    History file lead given r → History file lead given (r.reserve key)
  | keyFor {given : List (Text × Text)} {r r' : Registry} {text key : Text} :
    History file lead given r → r.keyFor text = .ok (key, r') →
      History file lead (given ++ [(text, key)]) r'

namespace History

variable {file lead : Text} {given : List (Text × Text)} {r : Registry} {text other key : Text}

/-- A registry keeps the file and the lead that it began with. -/
theorem file_eq (h : History file lead given r) : r.file = file ∧ r.lead = lead := by
  induction h with
  | empty => exact ⟨rfl, rfl⟩
  | reserve key _ ih => simpa using ih
  | keyFor _ hkey ih =>
    obtain ⟨rfl, -⟩ := Registry.keyFor_eq_ok.1 hkey
    simpa using ih

/-- Whoever was given a key holds it as its plain key, or was given it as its marked key. -/
theorem given_cases (h : History file lead given r) (hgiven : (text, key) ∈ given) :
    generate text file lead = .ok key ∧ r.holders.get? key = some (some text) ∨
      marked text file lead = .ok key := by
  induction h with
  | empty => cases hgiven
  | reserve other _ ih =>
    exact (ih hgiven).imp_left fun hplain =>
      ⟨hplain.1, Registry.get?_reserve_of_some hplain.2 other⟩
  | @keyFor given r r' asked answer hbefore hkey ih =>
    rcases List.mem_append.1 hgiven with hgiven | hlast
    · exact (ih hgiven).imp_left fun hplain =>
        ⟨hplain.1, Registry.holder_keyFor hplain.2 hkey⟩
    · obtain ⟨rfl, rfl⟩ := Prod.mk.injEq .. ▸ List.mem_singleton.1 hlast
      obtain ⟨hfile, hlead⟩ := hbefore.file_eq
      obtain ⟨rfl, plain, hplain, ⟨hfree, rfl⟩ | ⟨-, hmarked⟩⟩ := Registry.keyFor_eq_ok.1 hkey
      · rw [hfile, hlead] at hplain
        exact .inl ⟨hplain, Registry.get?_hold_of_not_isTaken hfree⟩
      · rw [hfile, hlead] at hmarked
        exact .inr hmarked

end History

/-- The marked key of one of two texts is the plain or the marked key of the other. -/
def Clash (file lead text other : Text) : Prop :=
  ∃ key, marked text file lead = .ok key ∧ marked other file lead = .ok key ∨
    marked text file lead = .ok key ∧ generate other file lead = .ok key ∨
    generate text file lead = .ok key ∧ marked other file lead = .ok key

namespace History

variable {file lead : Text} {given : List (Text × Text)} {r : Registry} {text other key : Text}

/-- Two texts that were given one key clash. -/
theorem clash_of_shared (h : History file lead given r) (hne : text ≠ other)
    (htext : (text, key) ∈ given) (hother : (other, key) ∈ given) :
    Clash file lead text other := by
  rcases h.given_cases htext with ⟨hplain, hholder⟩ | hmarked
  · rcases h.given_cases hother with ⟨-, hholder'⟩ | hmarked'
    · rw [hholder] at hholder'
      exact absurd (Option.some.inj (Option.some.inj hholder')) hne
    · exact ⟨key, .inr (.inr ⟨hplain, hmarked'⟩)⟩
  · rcases h.given_cases hother with ⟨hplain', -⟩ | hmarked'
    · exact ⟨key, .inr (.inl ⟨hmarked, hplain'⟩)⟩
    · exact ⟨key, .inl ⟨hmarked, hmarked'⟩⟩

/-- A text whose plain key is reserved is given its marked key. -/
theorem keyFor_reserved (h : History file lead given r) {plain : Text}
    (hplain : generate text file lead = .ok plain) (hmarked : marked text file lead = .ok key)
    (hreserved : r.holders.get? plain = some none) :
    History file lead (given ++ [(text, key)]) (r.hold key text) := by
  obtain ⟨hfile, hlead⟩ := h.file_eq
  have htaken : r.isTaken plain text = true := by simp [Registry.isTaken, hreserved]
  rw [← hfile, ← hlead] at hplain hmarked
  exact h.keyFor (Registry.keyFor_eq_ok.2 ⟨rfl, plain, hplain, .inr ⟨htaken, hmarked⟩⟩)

/-- Two texts with one marked key are both given it once their plain keys are reserved. -/
theorem shared_of_marked (htext : marked text file lead = .ok key)
    (hother : marked other file lead = .ok key) :
    ∃ given r, History file lead given r ∧ (text, key) ∈ given ∧ (other, key) ∈ given := by
  obtain ⟨plain, -, hplain, -⟩ := marked_eq_ok.1 htext
  obtain ⟨plain', -, hplain', -⟩ := marked_eq_ok.1 hother
  have hreserved : History file lead []
      (((Registry.empty file lead).reserve plain).reserve plain') :=
    (empty.reserve plain).reserve plain'
  have hfree : ∀ k, (Registry.empty file lead).holders.get? k = none := fun _ => rfl
  have hget : (((Registry.empty file lead).reserve plain).reserve plain').holders.get? plain =
      some none := Registry.get?_reserve_of_some (Registry.get?_reserve_self (hfree plain)) plain'
  have hget' : (((Registry.empty file lead).reserve plain).reserve plain').holders.get? plain' =
      some none := by
    by_cases heq : plain = plain'
    · exact heq ▸ hget
    · exact Registry.get?_reserve_self ((Registry.get?_reserve_of_ne heq).trans (hfree plain'))
  have hfirst := hreserved.keyFor_reserved hplain htext hget
  have hne : key ≠ plain' := marked_ne_plain hplain' hother
  have hsecond := hfirst.keyFor_reserved hplain' hother
    ((Registry.get?_hold_of_ne hne).trans hget')
  exact ⟨_, _, hsecond, by simp, by simp⟩

/-- A text that asks first for a plain key shares it with a text whose marked key it is, once that
text's plain key is reserved. -/
theorem shared_of_plain (htext : marked text file lead = .ok key)
    (hother : generate other file lead = .ok key) :
    ∃ given r, History file lead given r ∧ (text, key) ∈ given ∧ (other, key) ∈ given := by
  obtain ⟨plain, -, hplain, -⟩ := marked_eq_ok.1 htext
  have hgiven : (Registry.empty file lead).keyFor other =
      .ok (key, (Registry.empty file lead).hold key other) :=
    Registry.keyFor_eq_ok.2 ⟨rfl, key, hother, .inl ⟨rfl, rfl⟩⟩
  have hfirst := (empty.keyFor hgiven).reserve plain
  have hne : key ≠ plain := marked_ne_plain hplain htext
  have hsecond := hfirst.keyFor_reserved hplain htext
    (Registry.get?_reserve_self (Registry.get?_hold_of_ne hne))
  exact ⟨_, _, hsecond, by simp, by simp⟩

end History

/-- **Who shares a key.** Two different texts are given one key by some sequence of requests exactly
if they clash; texts that do not are told apart by every sequence of requests. -/
theorem exists_shared_iff (file lead : Text) {text other : Text} (hne : text ≠ other) :
    (∃ given r key, History file lead given r ∧ (text, key) ∈ given ∧ (other, key) ∈ given) ↔
      Clash file lead text other := by
  constructor
  · rintro ⟨given, r, key, h, htext, hother⟩
    exact h.clash_of_shared hne htext hother
  · rintro ⟨key, ⟨htext, hother⟩ | ⟨htext, hother⟩ | ⟨htext, hother⟩⟩
    · obtain ⟨given, r, h, hshared⟩ := History.shared_of_marked htext hother
      exact ⟨given, r, key, h, hshared⟩
    · obtain ⟨given, r, h, hshared⟩ := History.shared_of_plain htext hother
      exact ⟨given, r, key, h, hshared⟩
    · obtain ⟨given, r, h, hshared⟩ := History.shared_of_plain hother htext
      exact ⟨given, r, key, h, hshared.symm⟩

/-- A text that reads like another one with its mark behind it, if it asks first, shares its key
with that one. -/
theorem shared_key_hi :
    ∃ given r, History "App.tsx" [] given r ∧
      given = [(Text.ofString "Hi c0a0ad", Text.ofString "App_hi_c0a0ad"),
        (Text.ofString "Hi", Text.ofString "App_hi"),
        (Text.ofString "Hi!", Text.ofString "App_hi_c0a0ad")] ∧
      Text.ofString "Hi c0a0ad" ≠ Text.ofString "Hi!" := by
  have hlong : generate "Hi c0a0ad" "App.tsx" [] = .ok "App_hi_c0a0ad" :=
    eq_ok_of_toOption (by decide +kernel)
  have hshort : generate "Hi" "App.tsx" [] = .ok "App_hi" := eq_ok_of_toOption (by decide +kernel)
  have hloud : generate "Hi!" "App.tsx" [] = .ok "App_hi" := eq_ok_of_toOption (by decide +kernel)
  have hmarked : marked "Hi!" "App.tsx" [] = .ok "App_hi_c0a0ad" :=
    eq_ok_of_toOption (by decide +kernel)
  have hfirst : History "App.tsx" [] _ _ :=
    History.empty.keyFor (Registry.keyFor_eq_ok.2 ⟨rfl, _, hlong, .inl ⟨rfl, rfl⟩⟩)
  have hsecond := hfirst.keyFor
    (Registry.keyFor_eq_ok.2 ⟨rfl, _, hshort, .inl ⟨by decide +kernel, rfl⟩⟩)
  have hthird := hsecond.keyFor
    (Registry.keyFor_eq_ok.2 ⟨rfl, _, hloud, .inr ⟨by decide +kernel, hmarked⟩⟩)
  exact ⟨_, _, hthird, rfl, by decide⟩

/-- Two texts with one plain key and marks of their own are told apart by every sequence of
requests. -/
theorem exists_shared_iff_helloWorld :
    Text.ofString "Hello World" ≠ Text.ofString "Hello, World!" ∧
      ¬ ∃ given r key, History "App.tsx" [] given r ∧ (Text.ofString "Hello World", key) ∈ given ∧
        (Text.ofString "Hello, World!", key) ∈ given := by
  have hne : Text.ofString "Hello World" ≠ Text.ofString "Hello, World!" := by decide
  refine ⟨hne, fun h => ?_⟩
  have hplain : generate "Hello World" "App.tsx" [] = .ok "App_hello_world" :=
    eq_ok_of_toOption (by decide +kernel)
  have hplain' : generate "Hello, World!" "App.tsx" [] = .ok "App_hello_world" :=
    eq_ok_of_toOption (by decide +kernel)
  have hmarked : marked "Hello World" "App.tsx" [] = .ok "App_hello_world_0a4d55" :=
    eq_ok_of_toOption (by decide +kernel)
  have hmarked' : marked "Hello, World!" "App.tsx" [] = .ok "App_hello_world_0a0a9f" :=
    eq_ok_of_toOption (by decide +kernel)
  obtain ⟨key, hclash⟩ := (exists_shared_iff "App.tsx" [] hne).1 h
  simp only [hplain, hplain', hmarked, hmarked', Except.ok.injEq] at hclash
  rcases hclash with ⟨rfl, heq⟩ | ⟨rfl, heq⟩ | ⟨rfl, heq⟩
  · exact absurd heq (by decide)
  · exact absurd heq (by decide)
  · exact absurd heq (by decide)

end Localization.Key
