import Localization.Proofs.Catalog.Merge
import Localization.Proofs.Store.Documents

/-!
# Forbidden names in what a locale's catalog becomes

A stored catalog may hold forbidden names, since saving keeps them, and so may a file that was
written by hand. What comes in is cleaned, so the result of a merge has a forbidden name only where
a part of the stored catalog is taken over as it is: below a path at which nothing is merged. Where
existing values are not kept, there is none.
-/

namespace Localization.Store

/-- What becomes of the catalog that was loaded, if there is one, when new keys come in. -/
def mergedWith (incoming : Json) (keepExisting : Bool) : Option LocaleFile → Catalog
  | some ⟨_, .obj existing, _, _, _⟩ =>
    if keepExisting then Catalog.merge existing (Catalog.clean true incoming)
    else Catalog.clean true incoming
  | _ => Catalog.clean true incoming

/-- Merging gives a result if loading does, and does to the disk what loading does. -/
theorem run_mergeWith {s : Store} {locale : Json} {d d' : Disk} {held : Option LocaleFile}
    (h : (s.load locale).run.run d = (.ok held, d')) (incoming : Json) (keepExisting : Bool) :
    (s.mergeWith locale incoming keepExisting).run.run d =
      (.ok (mergedWith incoming keepExisting held), d') := by
  unfold mergeWith
  rw [run_bind_of_ok h]
  cases held with
  | none => rfl
  | some file =>
    obtain ⟨_, data, _, _, _⟩ := file
    cases data <;> rfl

/-- **Forbidden names in a merged catalog.** Let what comes in be a mapping. Whatever the files are,
if the locale can be loaded or counts as not there, merging gives a result. It has a forbidden name
at some depth exactly if existing values are kept and the stored catalog has one below a path at
which no object comes in. -/
theorem mergeWith_holdsForbidden_iff {s : Store} {locale incoming : Json} {d d' : Disk}
    {held : Option LocaleFile} (hd : Catalog.DistinctAt incoming)
    (h : (s.load locale).run.run d = (.ok held, d')) (keepExisting : Bool) :
    ∃ merged, (s.mergeWith locale incoming keepExisting).run.run d = (.ok merged, d') ∧
      (merged.HoldsForbidden ↔ keepExisting = true ∧
        ∃ (file : LocaleFile) (existing : Catalog), held = some file ∧ file.data = .obj existing ∧
          ∃ (path : KeyPath) (name : Text), (∀ m ∈ path, Catalog.isForbidden m = false) ∧
            Catalog.isForbidden name = true ∧ existing.at? (path ++ [name]) ≠ none ∧
            ¬ (Catalog.clean true incoming).HasObject path) := by
  have hfree := Catalog.not_holdsForbidden_clean incoming
  have hnone : ∀ {p : Prop}, ¬ p → ((Catalog.clean true incoming).HoldsForbidden ↔ p) :=
    fun hp => iff_of_false hfree hp
  refine ⟨_, run_mergeWith h incoming keepExisting, ?_⟩
  unfold mergedWith
  split
  next locale existing hash lastUpdated hashes =>
    cases keepExisting with
    | false => exact hnone fun hkeep => absurd hkeep.1 (by decide)
    | true =>
      rw [if_pos rfl, Catalog.holdsForbidden_merge_iff (Catalog.distinct_clean true hd) hfree]
      constructor
      · intro hplace
        exact ⟨rfl, _, existing, rfl, rfl, hplace⟩
      · rintro ⟨-, file, existing', hfile, hdata, hplace⟩
        cases hfile
        cases hdata
        exact hplace
  next hother =>
    refine hnone ?_
    rintro ⟨-, ⟨locale, data, hash, lastUpdated, hashes⟩, existing, rfl, rfl, -⟩
    exact hother _ _ _ _ _ rfl

/-- A locale whose file has a forbidden name in an object. -/
def nestedForbidden : Disk :=
  ⟨.folder [("locales", .folder [("en.json", .file (Utf8.encodeChars
    "\x7b\"data\": \x7b\"menu\": \x7b\"constructor\": \"Build\"\x7d\x7d\x7d".toList))])], []⟩

/-- The store in that folder. -/
def nestedStore : Store := ⟨⟨.root, ["locales"]⟩⟩

/-- Merging nothing at all into that locale gives a catalog with the forbidden name. -/
theorem mergeWith_nestedForbidden :
    ¬ ∀ (s : Store) (locale incoming : Json) (keepExisting : Bool) (d d' : Disk) (merged : Catalog),
      (s.mergeWith locale incoming keepExisting).run.run d = (.ok merged, d') →
        ¬ merged.HoldsForbidden := by
  intro hall
  have hread : ((nestedStore.mergeWith "en" (.obj []) true).run.run nestedForbidden).1.toOption.map
      (fun merged => (merged.at? ["menu", "constructor"]).isSome) = some true := by
    decide +kernel
  obtain ⟨⟨result, d'⟩, hrun⟩ : ∃ y,
      (nestedStore.mergeWith "en" (.obj []) true).run.run nestedForbidden = y := ⟨_, rfl⟩
  rw [hrun] at hread
  obtain ⟨merged, hmerged, hat⟩ := Option.map_eq_some_iff.1 hread
  obtain rfl : result = .ok merged := eq_ok_of_toOption hmerged
  refine hall _ _ _ _ _ _ _ hrun ⟨["menu"], "constructor", by decide, ?_⟩
  exact Option.isSome_iff_ne_none.1 hat

/-- The forbidden name stays when a text comes in beside its object, and goes when existing values
are not kept. -/
theorem mergeWith_holdsForbidden_iff_title :
    ∃ held d' merged replaced, (nestedStore.load "en").run.run nestedForbidden = (.ok held, d') ∧
      (nestedStore.mergeWith "en" (.obj [("title", "New")]) true).run.run nestedForbidden =
        (.ok merged, d') ∧ merged.HoldsForbidden ∧
      (nestedStore.mergeWith "en" (.obj [("title", "New")]) false).run.run nestedForbidden =
        (.ok replaced, d') ∧ ¬ replaced.HoldsForbidden := by
  have hread : ((nestedStore.load "en").run.run nestedForbidden).1.toOption.map
      (fun held => held.map fun file => (file.data.isObject,
        (Catalog.valueAt file.data ["menu", "constructor"]).isSome)) =
      some (some (true, true)) := by
    decide +kernel
  obtain ⟨⟨result, d'⟩, hload⟩ : ∃ y, (nestedStore.load "en").run.run nestedForbidden = y :=
    ⟨_, rfl⟩
  rw [hload] at hread
  obtain ⟨held, hheld, hfile⟩ := Option.map_eq_some_iff.1 hread
  obtain rfl : result = .ok held := eq_ok_of_toOption hheld
  obtain ⟨⟨locale, data, hash, lastUpdated, hashes⟩, rfl, hdata⟩ := Option.map_eq_some_iff.1 hfile
  obtain ⟨hobject, hat⟩ := Prod.mk.inj hdata
  obtain ⟨existing, rfl⟩ : ∃ existing, data = .obj existing := by
    cases data with
    | obj existing => exact ⟨existing, rfl⟩
    | null | bool _ | int _ | float _ | str _ | arr _ => cases hobject
  have hd : Catalog.DistinctAt (.obj [("title", "New")]) := ⟨by decide, trivial, trivial⟩
  obtain ⟨merged, hmerged, hiff⟩ := mergeWith_holdsForbidden_iff hd hload true
  obtain ⟨replaced, hreplaced, hiff'⟩ := mergeWith_holdsForbidden_iff hd hload false
  refine ⟨_, d', merged, replaced, hload, hmerged, hiff.2 ⟨rfl, _, existing, rfl, rfl, ["menu"],
    "constructor", by decide, by decide, Option.isSome_iff_ne_none.1 hat, ?_⟩, hreplaced,
    fun hholds => absurd (hiff'.1 hholds).1 (by decide)⟩
  rintro ⟨fields, hfields⟩
  cases hfields

end Localization.Store
