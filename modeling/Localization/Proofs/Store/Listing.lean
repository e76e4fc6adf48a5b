import Localization.Proofs.Contents
import Localization.Proofs.Store.Documents
import Localization.Proofs.Store.Names

/-!
# The locales that are listed

The listing tells by the names of files what the other operations tell by the names of locales. A
file is listed if its name is that of a locale which does not start with a dot and has no two dots
in a row (`isListed_iff`), and it is listed under that locale (`stemOf_fileName`), so no locale is
listed twice (`exists_list`). So apart from hidden ones the listing has the locales that are
accepted and have a file. Loading all of them reads one file after another, and each of them gives
what loading it alone gives (`run_loadEach`).
-/

namespace Localization.Store

open FileTree

/-! ## Names of files and of locales -/

section

variable {s : Store} {d : Disk} {l : Text} {ls : List Text}

/-- The document of a locale has an integer with too many digits. -/
def Oversized (s : Store) (d : Disk) (l : Text) : Prop :=
  ∃ bytes digits place document, d.files.at? (s.base.child (fileName l)) = .ok (.file bytes) ∧
    documentOf bytes = .error (.malformed ⟨.oversizedInteger digits, place⟩ document)

/-- Only reading a document finds a fault of its form. -/
theorem documentOf_of_malformed {path : Path} {t : FileTree} {f : Json.ReadFault} {document : Text}
    (h : heldBy l path t = .error (.malformed f document)) :
    ∃ bytes, t = .file bytes ∧ documentOf bytes = .error (.malformed f document) := by
  cases t with
  | folder es => cases h
  | file bytes =>
    refine ⟨bytes, rfl, ?_⟩
    rw [heldBy] at h
    cases hdocument : documentOf bytes with
    | error fault =>
      rw [hdocument, error_bind] at h
      cases h
      rfl
    | ok j =>
      rw [hdocument, ok_bind] at h
      unfold ofDocument at h
      split at h
      · split at h
        · dsimp only at h
          split at h
          · cases h
          · split at h <;> cases h
        · cases h
      · cases h

/-- Whatever is loaded among some locales is what its own file gives. -/
theorem loading_of_mem_loadEach {d' : Disk} {loaded : Entries LocaleFile}
    (h : (s.loadEach ls).run.run d = (.ok loaded, d')) {p : Text × LocaleFile} (hp : p ∈ loaded) :
    (loading p.1 (s.base.child (fileName p.1)) (d.files.at? (s.base.child (fileName p.1)))).1 =
      .ok (some p.2) := by
  induction ls generalizing d loaded with
  | nil =>
    cases h
    cases hp
  | cons l ls ih =>
    obtain ⟨held, d₁, hload, hrest⟩ := run_bind_eq_ok.1 h
    rcases localeName_cases (.str l) with ⟨_, ⟨rfl⟩, -, hname⟩ | ⟨-, message, hname⟩
    · rw [run_load s hname d rfl, Prod.mk.injEq] at hload
      obtain ⟨hheld, rfl⟩ := hload
      cases held with
      | none =>
        have hlater := ih hrest hp
        exact hlater
      | some f =>
        obtain ⟨more, d₂, hmore, hdone⟩ := run_bind_eq_ok.1 hrest
        cases hdone
        rcases List.mem_cons.1 hp with rfl | hp
        · exact hheld
        · have hlater := ih hmore hp
          exact hlater
    · rw [(run_of_refused hname d).2.1] at hload
      cases hload

/-- Whatever is loaded of all locales is what its own file gives. -/
theorem loading_of_mem_loadAll {d' : Disk} {loaded : Entries LocaleFile}
    (h : s.loadAll.run.run d = (.ok loaded, d')) {p : Text × LocaleFile} (hp : p ∈ loaded) :
    (loading p.1 (s.base.child (fileName p.1)) (d.files.at? (s.base.child (fileName p.1)))).1 =
      .ok (some p.2) := by
  obtain ⟨ls, d₁, hlist, hloaded⟩ := run_bind_eq_ok.1 h
  unfold list at hlist
  rw [run_bind_of_ok (x := files) (s := d) rfl] at hlist
  have hsame : d₁ = d := by
    cases hentries : d.files.listing s.base with
    | ok entries =>
      rw [hentries] at hlist
      exact (Prod.mk.inj hlist).2.symm
    | error f =>
      rw [hentries] at hlist
      exact (Prod.mk.inj hlist).2.symm
  rw [hsame] at hloaded
  exact loading_of_mem_loadEach hloaded hp

/-- No locale is loaded in two ways. -/
theorem get?_of_mem_loadAll {d' : Disk} {loaded : Entries LocaleFile}
    (h : s.loadAll.run.run d = (.ok loaded, d')) {p : Text × LocaleFile} (hp : p ∈ loaded) :
    Entries.get? loaded p.1 = some p.2 := by
  cases hget : Entries.get? loaded p.1 with
  | none => exact absurd hget (Entries.get?_ne_none (List.mem_map_of_mem hp))
  | some f =>
    have hloading := loading_of_mem_loadAll h (Entries.mem_of_get? hget)
    rw [loading_of_mem_loadAll h hp] at hloading
    exact (Except.ok.inj hloading).symm

/-- A locale, a folder in the place of another one, and a hidden locale. -/
def mixedEntries : Entries FileTree :=
  [("en.json", .file (Utf8.encodeChars "\x7b\"data\": \x7b\x7d\x7d".toList)),
    ("de.json", .folder []), (".fr.json", .file [])]

end

end Localization.Store
