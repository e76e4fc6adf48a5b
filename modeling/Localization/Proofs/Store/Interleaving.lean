import Mathlib.Logic.Relation
import Localization.Proofs.Store.Documents

/-!
# Saving and loading side by side

Any number of calls save and load locales in one storage folder at the same time. Each takes its
steps when it is its turn, and it may stop for good after any of them. A call that saves makes a new
file, writes its document to it piece by piece, and lets the new file take the place of the locale's
file; a call that loads looks for the locale's file and then reads it.

What is kept all along (`Intact`): a call that is writing has a new file of its own, which holds
what it has written so far and which no other call touches, and under every other name the folder
has what it had at the start or, for a locale's file, the whole document of a call that is done.
What a single step can change is said once (`Task.Effect`).
-/

namespace Localization.Store

open FileTree Relation

/-! ## Tasks and their steps -/

/-- A call at work: it saves a locale, or it loads one. -/
inductive Task where
  | save (now : Text) (locale data : Json) (hashes : Entries Json)
  | load (locale : Json)

/-- How far a task has got. -/
inductive Phase where
  | waiting
  /-- There is a new file, with a part of the document. -/
  | writing (scratch : Text) (soFar : List UInt8)
  | saved
  | failed
  /-- There is a file for the locale, which is still to be read. -/
  | looked
  | loaded (result : Except Failure (Option LocaleFile) × List Text)

/-- The document that a task is to store, and the locale it is for. -/
inductive Task.Stores : Task → Text → LocaleFile → Prop
  | intro {now name hash : Text} {locale data : Json} {hashes : Entries Json}
      (hname : localeName locale = .ok name)
      (hhash : Catalog.digest (.obj (Catalog.clean false data)) = .ok hash) :
      Stores (.save now locale data hashes) name (savedFile name now data hash hashes)

/-- The bytes of the document that a task is to store. -/
def Task.Writes (task : Task) (name : Text) (bytes : List UInt8) : Prop :=
  ∃ file, task.Stores name file ∧ Utf8.encode (documentText file) = .ok bytes

/-- What a task that has looked makes of what it finds when it reads: a file that is gone by then is
one that cannot be read. -/
def reading (name : Text) (path : Path) :
    Except FileFault FileTree → Except Failure (Option LocaleFile) × List Text
  | .ok t => loading name path (.ok t)
  | .error f => (.ok none,
      ["Failed to load locale " ++ name ++ ": " ++ (LoadFault.unreadable f path.toText).message])

/-- The steps of a task, on the files and on how far it has got. -/
inductive Task.Step (s : Store) : Task → FileTree × Phase → FileTree × Phase → Prop
  /-- A new file is made, under a name that nothing has. -/
  | make {task : Task} {name scratch : Text} {file : LocaleFile} {t t' : FileTree}
      (hstores : task.Stores name file)
      (hscratch : IsScratch (s.base.child (fileName name)).stem scratch)
      (hfree : t.at? (s.base.child scratch) = .error .notFound)
      (hmake : t.writeBytes (s.base.child scratch) [] = .ok t') :
      Step s task (t, .waiting) (t', .writing scratch [])
  /-- The next piece of the document is written to the new file. -/
  | write {task : Task} {name scratch : Text} {bytes soFar piece : List UInt8} {t t' : FileTree}
      (hwrites : task.Writes name bytes) (hpiece : soFar ++ piece <+: bytes)
      (hwrite : t.writeBytes (s.base.child scratch) (soFar ++ piece) = .ok t') :
      Step s task (t, .writing scratch soFar) (t', .writing scratch (soFar ++ piece))
  /-- The new file has the whole document and takes the place of the locale's file. -/
  | rename {task : Task} {name scratch : Text} {bytes : List UInt8} {t t' : FileTree}
      (hwrites : task.Writes name bytes)
      (hrename : replaceFile (s.base.child scratch) (s.base.child (fileName name)) t = .ok t') :
      Step s task (t, .writing scratch bytes) (t', .saved)
  /-- After a fault the new file is removed again. -/
  | drop {task : Task} {scratch : Text} {soFar : List UInt8} {t t' : FileTree}
      (hremove : removeFile (s.base.child scratch) t = .ok t') :
      Step s task (t, .writing scratch soFar) (t', .failed)
  /-- There is a fault before there is a new file. -/
  | fail {now : Text} {locale data : Json} {hashes : Entries Json} {t : FileTree} :
      Step s (.save now locale data hashes) (t, .waiting) (t, .failed)
  | refuse {locale : Json} {e : Failure} {t : FileTree} (hname : localeName locale = .error e) :
      Step s (.load locale) (t, .waiting) (t, .loaded (.error e, []))
  | miss {locale : Json} {name : Text} {f : FileFault} {t : FileTree}
      (hname : localeName locale = .ok name)
      (hfound : t.at? (s.base.child (fileName name)) = .error f) :
      Step s (.load locale) (t, .waiting)
        (t, .loaded (loading name (s.base.child (fileName name)) (.error f)))
  | look {locale : Json} {name : Text} {t u : FileTree} (hname : localeName locale = .ok name)
      (hfound : t.at? (s.base.child (fileName name)) = .ok u) :
      Step s (.load locale) (t, .waiting) (t, .looked)
  /-- The file is read that stands there now. No task writes to a file under a locale's name, so it
  does not matter how long reading takes. -/
  | read {locale : Json} {name : Text} {t : FileTree} (hname : localeName locale = .ok name) :
      Step s (.load locale) (t, .looked) (t, .loaded
        (reading name (s.base.child (fileName name)) (t.at? (s.base.child (fileName name)))))

/-- The files, and how far each task has got. -/
structure Scene (ι : Type) where
  files : FileTree
  phase : ι → Phase

/-- Nothing was done yet. -/
def Scene.start (ι : Type) (t : FileTree) : Scene ι := ⟨t, fun _ => .waiting⟩

/-- One of the tasks takes a step. -/
inductive Scene.Step {ι : Type} [DecidableEq ι] (s : Store) (tasks : ι → Task) :
    Scene ι → Scene ι → Prop
  | intro {t t' : FileTree} {phase : ι → Phase} {p : Phase} (i : ι)
      (h : (tasks i).Step s (t, phase i) (t', p)) :
      Step s tasks ⟨t, phase⟩ ⟨t', Function.update phase i p⟩

/-! ## The folder by its names -/

section

variable {s : Store} {t t' : FileTree} {view : Text → Option FileTree} {name : Text}

/-- The storage folder is there, and this is what its names stand for. -/
def Shows (s : Store) (t : FileTree) (view : Text → Option FileTree) : Prop :=
  ∃ es, t.find s.base.names = .ok (.folder es) ∧ Entries.get? es = view

/-- What is found where a name stands for something or for nothing. -/
def found (name : Text) (content : Option FileTree) : Except FileFault FileTree :=
  if isTooLong name then .error .nameTooLong
  else
    match content with
    | some t => .ok t
    | none => .error .notFound

/-- Nothing is found under a name that is too long. -/
theorem found_of_isTooLong (h : isTooLong name = true) (content : Option FileTree) :
    found name content = .error .nameTooLong := by
  unfold found
  rw [if_pos h]

/-- What is found under a name is what it stands for. -/
theorem eq_some_of_found {content : Option FileTree} {u : FileTree}
    (h : found name content = .ok u) : content = some u := by
  unfold found at h
  split at h
  · cases h
  · cases content with
    | none => cases h
    | some v => exact congrArg some (Except.ok.inj h)

/-- Where nothing is found the name stands for nothing. -/
theorem eq_none_of_found {content : Option FileTree} (h : found name content = .error .notFound) :
    content = none := by
  unfold found at h
  split at h
  · cases h
  · cases content with
    | none => rfl
    | some v => cases h

/-- Setting an entry changes what its name stands for and nothing else. -/
theorem get?_set (es : Entries FileTree) (name : Text) (t : FileTree) :
    Entries.get? (Entries.set es name t) = Function.update (Entries.get? es) name (some t) := by
  funext m
  by_cases hm : m = name
  · rw [hm, Entries.get?_set_self, Function.update_self]
  · rw [Entries.get?_set_of_ne _ _ (Ne.symm hm), Function.update_of_ne hm]

/-- Taking an entry out leaves its name standing for nothing and changes nothing else. -/
theorem get?_filter_ne (es : Entries FileTree) (name : Text) :
    Entries.get? (es.filter (·.1 ≠ name)) = Function.update (Entries.get? es) name none := by
  funext m
  rw [Entries.get?_filter _ (fun k => k ≠ name)]
  by_cases hm : m = name
  · rw [if_neg (by simp [hm]), hm, Function.update_self]
  · rw [if_pos (by simpa using hm), Function.update_of_ne hm]

/-- What stands at a child of the folder is what the view has under its name. -/
theorem Shows.at? (h : s.Shows t view) (hbase : s.base.Plain) (hdots : name ≠ Text.ofString "..") :
    t.at? (s.base.child name) = found name (view name) := by
  obtain ⟨es, hfind, rfl⟩ := h
  exact at?_child hbase hfind hdots

/-- What was written stands at its name. -/
theorem Shows.write (h : s.Shows t view) (hbase : s.base.Plain) (hdots : name ≠ Text.ofString "..")
    {bytes : List UInt8} (hwrite : t.writeBytes (s.base.child name) bytes = .ok t') :
    s.Shows t' (Function.update view name (some (.file bytes))) := by
  obtain ⟨es, hfind, rfl⟩ := h
  obtain ⟨hname, hfree⟩ := fits_of_writeBytes hbase hfind hdots hwrite
  obtain ⟨u, hu, hfind'⟩ := writeBytes_child hbase hfind hdots hname hfree bytes
  obtain rfl : t' = u := Except.ok.inj (hwrite.symm.trans hu)
  exact ⟨_, hfind', get?_set es name _⟩

/-- Removing a file of the folder removes its name from the view. -/
theorem Shows.remove (h : s.Shows t view) {content : FileTree} (hname : view name = some content)
    (hremove : t.remove (s.base.child name).names = .ok t') :
    s.Shows t' (Function.update view name none) := by
  obtain ⟨es, hfind, rfl⟩ := h
  have hhas : Entries.has es name = true := by rw [Entries.has, hname]; rfl
  obtain ⟨u, hu, hfind'⟩ := remove_child hfind hhas
  obtain rfl : t' = u := Except.ok.inj (hremove.symm.trans hu)
  exact ⟨_, hfind', get?_filter_ne es name⟩

/-- A file that was removed is gone. -/
theorem Shows.removeFile (h : s.Shows t view) {content : FileTree}
    (hname : view name = some content) (hremove : removeFile (s.base.child name) t = .ok t') :
    s.Shows t' (Function.update view name none) := by
  obtain ⟨u, -, hremove⟩ := bind_eq_ok.1 hremove
  cases u with
  | folder below => cases hremove
  | file bytes => exact h.remove hname hremove

/-- A file that took the place of another one stands there, and at its old name no more. -/
theorem Shows.replaceFile (h : s.Shows t view) (hbase : s.base.Plain) {source target : Text}
    (hsource : source ≠ Text.ofString "..") (htarget : target ≠ Text.ofString "..")
    (hne : source ≠ target) {bytes : List UInt8} (hfile : view source = some (.file bytes))
    (hreplace : replaceFile (s.base.child source) (s.base.child target) t = .ok t') :
    s.Shows t'
      (Function.update (Function.update view target (some (.file bytes))) source none) := by
  obtain ⟨bytes', hread, hreplace⟩ := bind_eq_ok.1 hreplace
  obtain ⟨u, hwrite, hremove⟩ := bind_eq_ok.1 hreplace
  obtain rfl : bytes' = bytes := by
    obtain ⟨v, hv, hread⟩ := bind_eq_ok.1 hread
    rw [h.at? hbase hsource] at hv
    obtain rfl := Option.some.inj (hfile.symm.trans (eq_some_of_found hv))
    exact Except.ok.inj hread.symm
  have hkept : Function.update view target (some (.file bytes')) source = some (.file bytes') := by
    rw [Function.update_of_ne hne, hfile]
  exact (h.write hbase htarget hwrite).remove hkept hremove

end

/-! ## What a step changes -/

section

variable {s : Store} {t t' : FileTree} {view view' : Text → Option FileTree} {task : Task}
  {p p' : Phase}

/-- What a step of a task may do to the storage folder. -/
structure Task.Effect (s : Store) (task : Task) (p p' : Phase)
    (view view' : Text → Option FileTree) : Prop where
  unsaved : p ≠ .saved
  /-- The task's new file holds what the task has written, and it was made for the task. -/
  made : ∀ scratch soFar, p' = .writing scratch soFar → view' scratch = some (.file soFar) ∧
    ((∃ before, p = .writing scratch before) ∨
      view scratch = none ∧ (∃ stem, IsScratch stem scratch) ∧ ∃ name file, task.Stores name file)
  gone : ∀ scratch soFar, p = .writing scratch soFar →
    (∃ after, p' = .writing scratch after) ∨ view' scratch = none
  /-- No other name is touched, but for the file of the locale when the task is done. -/
  frame : ∀ name, (∀ soFar, p ≠ .writing name soFar) → (∀ soFar, p' ≠ .writing name soFar) →
    view' name = view name ∨ ∃ l bytes, name = fileName l ∧ p' = .saved ∧ task.Writes l bytes ∧
      view' name = some (.file bytes)
  looked : ∀ locale name, task = .load locale → localeName locale = .ok name → p' = .looked →
    ∃ u, found (fileName name) (view (fileName name)) = .ok u
  loaded : ∀ locale name result, task = .load locale → localeName locale = .ok name →
    p' = .loaded result → result = loading name (s.base.child (fileName name))
      (found (fileName name) (view (fileName name)))

/-- What a task relies on in its next step: its new file is as it left it, and the file that it has
found is still there. -/
structure Task.Ready (task : Task) (p : Phase) (view : Text → Option FileTree) : Prop where
  own : ∀ scratch soFar, p = .writing scratch soFar →
    view scratch = some (.file soFar) ∧ ∃ stem, IsScratch stem scratch
  there : ∀ locale name, task = .load locale → localeName locale = .ok name → p = .looked →
    ∃ u, found (fileName name) (view (fileName name)) = .ok u

/-- A step does no more than that. -/
theorem Task.Step.effect (h : task.Step s (t, p) (t', p')) (hbase : s.base.Plain)
    (hshows : s.Shows t view) (hready : task.Ready p view) :
    ∃ view', s.Shows t' view' ∧ task.Effect s p p' view view' := by
  cases h with
  | @make _ name scratch file _ _ hstores hscratch hfree hmake =>
    refine ⟨_, hshows.write hbase hscratch.ne_dots hmake, ⟨nofun, ?_, nofun, ?_, nofun, nofun⟩⟩
    · rintro _ _ ⟨⟩
      refine ⟨Function.update_self _ _ _, .inr ⟨?_, ⟨_, hscratch⟩, name, file, hstores⟩⟩
      rw [hshows.at? hbase hscratch.ne_dots] at hfree
      exact eq_none_of_found hfree
    · intro m _ hm
      refine .inl (Function.update_of_ne ?_ _ _)
      rintro rfl
      exact hm [] rfl
  | @write _ name scratch bytes soFar piece _ _ hwrites hpiece hwrite =>
    obtain ⟨-, stem, hscratch⟩ := hready.own _ _ rfl
    refine ⟨_, hshows.write hbase hscratch.ne_dots hwrite, ⟨nofun, ?_, ?_, ?_, nofun, nofun⟩⟩
    · rintro _ _ ⟨⟩
      exact ⟨Function.update_self _ _ _, .inl ⟨soFar, rfl⟩⟩
    · rintro _ _ ⟨⟩
      exact .inl ⟨_, rfl⟩
    · intro m hm _
      refine .inl (Function.update_of_ne ?_ _ _)
      rintro rfl
      exact hm soFar rfl
  | @rename _ name scratch bytes _ _ hwrites hrename =>
    obtain ⟨hfile, stem, hscratch⟩ := hready.own _ _ rfl
    refine ⟨_, hshows.replaceFile hbase hscratch.ne_dots (fileName_ne_dots name)
      (hscratch.ne_fileName name) hfile hrename, ⟨nofun, nofun, ?_, ?_, nofun, nofun⟩⟩
    · rintro _ _ ⟨⟩
      exact .inr (Function.update_self _ _ _)
    · intro m hm _
      have hne : m ≠ scratch := by
        rintro rfl
        exact hm bytes rfl
      rw [Function.update_of_ne hne]
      by_cases hname : m = fileName name
      · refine .inr ⟨name, bytes, hname, rfl, hwrites, ?_⟩
        rw [hname, Function.update_self]
      · exact .inl (Function.update_of_ne hname _ _)
  | @drop _ scratch soFar _ _ hremove =>
    obtain ⟨hfile, -⟩ := hready.own _ _ rfl
    refine ⟨_, hshows.removeFile hfile hremove, ⟨nofun, nofun, ?_, ?_, nofun, nofun⟩⟩
    · rintro _ _ ⟨⟩
      exact .inr (Function.update_self _ _ _)
    · intro m hm _
      refine .inl (Function.update_of_ne ?_ _ _)
      rintro rfl
      exact hm soFar rfl
  | fail => exact ⟨view, hshows, nofun, nofun, nofun, fun _ _ _ => .inl rfl, nofun, nofun⟩
  | refuse hname =>
    refine ⟨view, hshows, nofun, nofun, nofun, fun _ _ _ => .inl rfl, nofun, ?_⟩
    rintro _ _ _ ⟨⟩ hname' -
    rw [hname] at hname'
    cases hname'
  | miss hname hfound =>
    refine ⟨view, hshows, nofun, nofun, nofun, fun _ _ _ => .inl rfl, nofun, ?_⟩
    rintro _ _ _ ⟨⟩ hname' ⟨⟩
    obtain rfl := Except.ok.inj (hname.symm.trans hname')
    rw [← hshows.at? hbase (fileName_ne_dots _), hfound]
  | look hname hfound =>
    refine ⟨view, hshows, nofun, nofun, nofun, fun _ _ _ => .inl rfl, ?_, nofun⟩
    rintro _ _ ⟨⟩ hname' -
    obtain rfl := Except.ok.inj (hname.symm.trans hname')
    rw [← hshows.at? hbase (fileName_ne_dots _)]
    exact ⟨_, hfound⟩
  | read hname =>
    refine ⟨view, hshows, nofun, nofun, nofun, fun _ _ _ => .inl rfl, nofun, ?_⟩
    rintro _ _ _ ⟨⟩ hname' ⟨⟩
    obtain rfl := Except.ok.inj (hname.symm.trans hname')
    obtain ⟨u, hu⟩ := hready.there _ _ rfl hname rfl
    rw [hshows.at? hbase (fileName_ne_dots _), hu]
    rfl

end

/-! ## What is kept all along -/

section

variable {ι : Type} {tasks : ι → Task} {phase : ι → Phase} {s : Store} {l : Text}
  {before view view' : Text → Option FileTree}

/-- What a locale's file may be: what it was before, or the whole document of a task for that locale
that is done. -/
def Stood (tasks : ι → Task) (before : Text → Option FileTree) (phase : ι → Phase) (l : Text)
    (content : Option FileTree) : Prop :=
  content = before (fileName l) ∨
    ∃ i bytes, phase i = .saved ∧ (tasks i).Writes l bytes ∧ content = some (.file bytes)

/-- No task gets into the way of another one. -/
structure Intact (s : Store) (tasks : ι → Task) (before view : Text → Option FileTree)
    (phase : ι → Phase) : Prop where
  /-- The new file of a task was not there before, and it holds what the task has written. -/
  own : ∀ i scratch soFar, phase i = .writing scratch soFar → view scratch = some (.file soFar) ∧
    before scratch = none ∧ (∃ stem, IsScratch stem scratch) ∧ ∃ l file, (tasks i).Stores l file
  apart : ∀ i j scratch soFar soFar', phase i = .writing scratch soFar →
    phase j = .writing scratch soFar' → i = j
  rest : ∀ name, (∀ i soFar, phase i ≠ .writing name soFar) →
    view name = before name ∨ ∃ l, name = fileName l ∧ Stood tasks before phase l (view name)
  looked : ∀ i locale name, tasks i = .load locale → localeName locale = .ok name →
    phase i = .looked → ∃ u, found (fileName name) (view (fileName name)) = .ok u
  loaded : ∀ i locale name result, tasks i = .load locale → localeName locale = .ok name →
    phase i = .loaded result → ∃ content, Stood tasks before phase name content ∧
      result = loading name (s.base.child (fileName name)) (found (fileName name) content)

/-- At the start no task is in another one's way. -/
theorem Intact.start (s : Store) (tasks : ι → Task) (before : Text → Option FileTree) :
    Intact s tasks before before (fun _ => .waiting) where
  own := nofun
  apart := nofun
  rest _ _ := .inl rfl
  looked := nofun
  loaded := nofun

/-- No task writes to a locale's file. -/
theorem Intact.not_writing_fileName (h : Intact s tasks before view phase) (l : Text) (i : ι)
    (soFar : List UInt8) : phase i ≠ .writing (fileName l) soFar := by
  intro hwriting
  obtain ⟨-, -, ⟨stem, hscratch⟩, -⟩ := h.own i _ soFar hwriting
  exact hscratch.ne_fileName l rfl

/-- A locale's file is what it was or a document of a task that is done. -/
theorem Intact.stood (h : Intact s tasks before view phase) (l : Text) :
    Stood tasks before phase l (view (fileName l)) := by
  rcases h.rest (fileName l) (h.not_writing_fileName l) with hsame | ⟨l', hl', hstood⟩
  · exact .inl hsame
  · obtain rfl := fileName_injective hl'
    exact hstood

/-- A task finds the new file that it is writing. -/
theorem Intact.ready (h : Intact s tasks before view phase) (i : ι) :
    (tasks i).Ready (phase i) view where
  own scratch soFar hwriting := by
    obtain ⟨hfile, -, hscratch, -⟩ := h.own i scratch soFar hwriting
    exact ⟨hfile, hscratch⟩
  there := h.looked i

/-- What is done stays done. -/
theorem Stood.update [DecidableEq ι] {content : Option FileTree}
    (h : Stood tasks before phase l content) {i : ι} (hi : phase i ≠ .saved) (p : Phase) :
    Stood tasks before (Function.update phase i p) l content := by
  rcases h with hsame | ⟨j, bytes, hj, hwrites, hcontent⟩
  · exact .inl hsame
  · refine .inr ⟨j, bytes, ?_, hwrites, hcontent⟩
    have hne : j ≠ i := by
      rintro rfl
      exact hi hj
    rw [Function.update_of_ne hne, hj]

namespace Task.Effect

variable {i : ι} {p : Phase} (e : (tasks i).Effect s (phase i) p view view')
  (h : Intact s tasks before view phase)

include e h

/-- A task has no new file under a name that is another task's. -/
theorem not_writing {j : ι} (hj : j ≠ i) {scratch : Text} {soFar : List UInt8}
    (hwriting : phase j = .writing scratch soFar) (soFar' : List UInt8) :
    p ≠ .writing scratch soFar' := by
  intro hp
  obtain ⟨-, ⟨soFar'', hi⟩ | ⟨hnone, -⟩⟩ := e.made scratch soFar' hp
  · exact hj (h.apart j i _ _ _ hwriting hi)
  · rw [(h.own j _ _ hwriting).1] at hnone
    cases hnone

/-- The new file of a task has a name that no locale's file has and that was free before. -/
theorem fresh {scratch : Text} {soFar : List UInt8} (hp : p = .writing scratch soFar) :
    before scratch = none ∧ (∃ stem, IsScratch stem scratch) ∧
      ∃ l file, (tasks i).Stores l file := by
  obtain ⟨-, ⟨soFar', hi⟩ | ⟨hnone, ⟨stem, hscratch⟩, hstores⟩⟩ := e.made scratch soFar hp
  · exact (h.own i _ _ hi).2
  · refine ⟨?_, ⟨stem, hscratch⟩, hstores⟩
    have hfree : ∀ j soFar', phase j ≠ .writing scratch soFar' := by
      intro j soFar' hj
      rw [(h.own j _ _ hj).1] at hnone
      cases hnone
    rcases h.rest scratch hfree with hsame | ⟨l, hl, -⟩
    · rw [← hsame, hnone]
    · exact absurd hl (hscratch.ne_fileName l)

/-- A locale's file is left alone or gets the whole document. -/
theorem fileName_cases (l : Text) : view' (fileName l) = view (fileName l) ∨
    ∃ bytes, view' (fileName l) = some (.file bytes) := by
  have hp : ∀ soFar, p ≠ .writing (fileName l) soFar := by
    intro soFar hp
    obtain ⟨-, ⟨stem, hscratch⟩, -⟩ := e.fresh h hp
    exact hscratch.ne_fileName l rfl
  rcases e.frame _ (h.not_writing_fileName l i) hp with hsame | ⟨-, bytes, -, -, -, hfile⟩
  · exact .inl hsame
  · exact .inr ⟨bytes, hfile⟩

/-- A file that was found is found again. -/
theorem found_again {u : FileTree} (hu : found (fileName l) (view (fileName l)) = .ok u) :
    ∃ u', found (fileName l) (view' (fileName l)) = .ok u' := by
  rcases e.fileName_cases h l with hsame | ⟨bytes, hfile⟩
  · exact ⟨u, by rw [hsame, hu]⟩
  · refine ⟨.file bytes, ?_⟩
    rw [eq_some_of_found hu] at hu
    unfold found at hu ⊢
    split at hu
    · cases hu
    · rw [hfile, if_neg ‹_›]

/-- **What is kept is kept by every step.** -/
theorem intact [DecidableEq ι] : Intact s tasks before view' (Function.update phase i p) where
  own j scratch soFar hj := by
    by_cases hji : j = i
    · subst hji
      rw [Function.update_self] at hj
      exact ⟨(e.made scratch soFar hj).1, e.fresh h hj⟩
    · rw [Function.update_of_ne hji] at hj
      obtain ⟨hfile, hfresh⟩ := h.own j scratch soFar hj
      have hi : ∀ soFar', phase i ≠ .writing scratch soFar' :=
        fun _ hi => hji (h.apart j i _ _ _ hj hi)
      rcases e.frame scratch hi (e.not_writing h hji hj) with hsame | ⟨l, _, hl, -⟩
      · exact ⟨hsame.trans hfile, hfresh⟩
      · obtain ⟨-, ⟨stem, hscratch⟩, -⟩ := hfresh
        exact absurd hl (hscratch.ne_fileName l)
  apart j k scratch soFar soFar' hj hk := by
    by_cases hji : j = i
    · by_cases hki : k = i
      · rw [hji, hki]
      · rw [hji, Function.update_self] at hj
        rw [Function.update_of_ne hki] at hk
        exact absurd hj (e.not_writing h hki hk soFar)
    · rw [Function.update_of_ne hji] at hj
      by_cases hki : k = i
      · rw [hki, Function.update_self] at hk
        exact absurd hk (e.not_writing h hji hj soFar')
      · rw [Function.update_of_ne hki] at hk
        exact h.apart j k _ _ _ hj hk
  rest name hname := by
    have hp : ∀ soFar, p ≠ .writing name soFar := by
      intro soFar hp
      exact hname i soFar (by rw [Function.update_self, hp])
    by_cases hi : ∃ soFar, phase i = .writing name soFar
    · obtain ⟨soFar, hi⟩ := hi
      rcases e.gone name soFar hi with ⟨soFar', hp'⟩ | hnone
      · exact absurd hp' (hp soFar')
      · exact .inl (by rw [hnone, (h.own i _ _ hi).2.1])
    · have hfree : ∀ j soFar, phase j ≠ .writing name soFar := by
        intro j soFar hj
        by_cases hji : j = i
        · exact hi ⟨soFar, hji ▸ hj⟩
        · exact hname j soFar (by rw [Function.update_of_ne hji, hj])
      rcases e.frame name (hfree i) hp with hsame | ⟨l, bytes, hl, hsaved, hwrites, hfile⟩
      · rw [hsame]
        exact (h.rest name hfree).imp_right fun ⟨l, hl, hstood⟩ =>
          ⟨l, hl, hstood.update e.unsaved p⟩
      · refine .inr ⟨l, hl, .inr ⟨i, bytes, ?_, hwrites, hfile⟩⟩
        rw [Function.update_self, hsaved]
  looked j locale name htask hname hj := by
    by_cases hji : j = i
    · subst hji
      rw [Function.update_self] at hj
      obtain ⟨u, hu⟩ := e.looked locale name htask hname hj
      exact e.found_again h hu
    · rw [Function.update_of_ne hji] at hj
      obtain ⟨u, hu⟩ := h.looked j locale name htask hname hj
      exact e.found_again h hu
  loaded j locale name result htask hname hj := by
    by_cases hji : j = i
    · subst hji
      rw [Function.update_self] at hj
      exact ⟨_, (h.stood name).update e.unsaved p, e.loaded locale name result htask hname hj⟩
    · rw [Function.update_of_ne hji] at hj
      obtain ⟨content, hstood, hresult⟩ := h.loaded j locale name result htask hname hj
      exact ⟨content, hstood.update e.unsaved p, hresult⟩

end Task.Effect

/-- **What is kept is kept by every run.** -/
theorem exists_intact [DecidableEq ι] (hbase : s.base.Plain) {t : FileTree}
    (hshows : s.Shows t before) {σ : Scene ι}
    (hrun : ReflTransGen (Scene.Step s tasks) (.start ι t) σ) :
    ∃ view, s.Shows σ.files view ∧ Intact s tasks before view σ.phase := by
  induction hrun with
  | refl => exact ⟨before, hshows, .start s tasks before⟩
  | tail _ hstep ih =>
    obtain ⟨view, hview, hintact⟩ := ih
    cases hstep with
    | intro i h =>
      obtain ⟨view', hview', e⟩ := h.effect hbase hview (hintact.ready i)
      exact ⟨view', hview', e.intact hintact⟩

end

/-! ## Saving and loading take these steps -/

section

variable {s : Store} {d d' : Disk} {es : Entries FileTree} {task : Task} {name : Text}
  {file : LocaleFile}

/-- Writing a file as a whole takes the steps of a task that saves, and it ends well exactly if the
task is done at the end. -/
theorem Task.Stores.steps (hstores : task.Stores name file) (hbase : s.base.Plain)
    (h : d.files.find s.base.names = .ok (.folder es)) {r : Except Failure Unit}
    (hrun : (s.writeWhole (s.base.child (fileName name)) (documentText file)).run.run d = (r, d')) :
    ∃ p, ReflTransGen (task.Step s) (d.files, .waiting) (d'.files, p) ∧
      (p = .saved ↔ r = .ok ()) := by
  obtain ⟨m, hfirst, hfresh⟩ := exists_freshName hbase h (s.base.child (fileName name)).stem
  have hscratch := isScratch_scratchName (s.base.child (fileName name)).stem m
  have hnone : Entries.get? es (scratchName (s.base.child (fileName name)).stem m) = none :=
    Option.not_isSome_iff_eq_none.1 (by simpa [Entries.has] using hfirst.1)
  generalize scratchName (s.base.child (fileName name)).stem m = scratch at *
  unfold writeWhole at hrun
  rw [name_child] at hrun
  rcases hnamed : checkName (fileName name) with e | ⟨⟩
  · rw [hnamed, run_bind_of_error (run_liftM (.error e) d)] at hrun
    cases hrun
    cases hstores with
    | intro hname hhash => exact ⟨.failed, .single .fail, by simp⟩
  rw [hnamed, run_bind_of_ok (run_liftM (.ok ()) d),
    run_bind_of_ok (x := files) (s := d) rfl] at hrun
  simp only [hfresh] at hrun
  cases hmake : d.files.writeBytes (s.base.child scratch) [] with
  | error e =>
    rw [run_bind_of_error (run_change_of_error hmake)] at hrun
    cases hrun
    cases hstores with
    | intro hname hhash => exact ⟨.failed, .single .fail, by simp⟩
  | ok t₁ =>
    rw [run_bind_of_ok (run_change_of_ok hmake)] at hrun
    have hfree : d.files.at? (s.base.child scratch) = .error .notFound := by
      obtain ⟨hlong, -⟩ := fits_of_writeBytes hbase h hscratch.ne_dots hmake
      rw [at?_child hbase h hscratch.ne_dots, entry, if_neg (by simp [hlong]), hnone]
    have hmade : ReflTransGen (task.Step s) (d.files, .waiting) (t₁, .writing scratch []) :=
      .single (.make hstores hscratch hfree hmake)
    cases hbytes : Utf8.encode (documentText file) with
    | error e =>
      rw [mapError_eq_error.2 ⟨e, hbytes, rfl⟩, run_bind_of_error (run_liftM (.error _) _)] at hrun
      cases hrun
      exact ⟨_, hmade, by simp⟩
    | ok bytes =>
      rw [mapError_eq_ok.2 hbytes, run_bind_of_ok (run_liftM (.ok bytes) _)] at hrun
      have hwrites : task.Writes name bytes := ⟨file, hstores, hbytes⟩
      cases hfill : t₁.writeBytes (s.base.child scratch) bytes with
      | error e =>
        rw [run_bind_of_error (run_change_of_error hfill)] at hrun
        cases hrun
        exact ⟨_, hmade, by simp⟩
      | ok t₂ =>
        rw [run_bind_of_ok (run_change_of_ok hfill), run_bind_of_ok (x := files) rfl] at hrun
        have hfilled := hmade.tail (.write hwrites (List.prefix_refl bytes) hfill)
        cases hreplace : replaceFile (s.base.child scratch) (s.base.child (fileName name)) t₂ with
        | ok t₃ =>
          simp only [hreplace] at hrun
          cases hrun
          exact ⟨.saved, hfilled.tail (.rename hwrites hreplace), by simp⟩
        | error e =>
          simp only [hreplace] at hrun
          cases hremove : removeFile (s.base.child scratch) t₂ with
          | error e' =>
            rw [run_bind_of_error (run_change_of_error hremove)] at hrun
            cases hrun
            exact ⟨_, hfilled, by simp⟩
          | ok t₃ =>
            rw [run_bind_of_ok (run_change_of_ok hremove)] at hrun
            cases hrun
            exact ⟨.failed, hfilled.tail (.drop hremove), by simp⟩

/-- Saving takes the steps of its task. -/
theorem steps_of_save (hbase : s.base.Plain) (h : d.files.find s.base.names = .ok (.folder es))
    {now : Text} {locale data : Json} {hashes : Entries Json} {r : Except Failure LocaleFile}
    (hrun : (s.save now locale data hashes).run.run d = (r, d')) :
    ∃ p, ReflTransGen ((Task.save now locale data hashes).Step s) (d.files, .waiting)
        (d'.files, p) ∧ (p = .saved ↔ ∃ file, r = .ok file) := by
  unfold save at hrun
  cases hname : localeName locale with
  | error e =>
    rw [hname, run_bind_of_error (run_liftM (.error e) d)] at hrun
    cases hrun
    exact ⟨.failed, .single .fail, by simp⟩
  | ok name =>
    rw [hname, run_bind_of_ok (run_liftM (.ok name) d)] at hrun
    dsimp only at hrun
    cases hhash : Catalog.digest (.obj (Catalog.clean false data)) with
    | error e =>
      rw [mapError_eq_error.2 ⟨e, hhash, rfl⟩, run_bind_of_error (run_liftM (.error _) d)] at hrun
      cases hrun
      exact ⟨.failed, .single .fail, by simp⟩
    | ok hash =>
      rw [mapError_eq_ok.2 hhash, run_bind_of_ok (run_liftM (.ok hash) d)] at hrun
      obtain ⟨⟨r', d''⟩, hwrite⟩ : ∃ y, (s.writeWhole (s.base.child (fileName name))
        (documentText (savedFile name now data hash hashes))).run.run d = y := ⟨_, rfl⟩
      have hstores : (Task.save now locale data hashes).Stores name
        (savedFile name now data hash hashes) := .intro hname hhash
      obtain ⟨p, hsteps, hsaved⟩ := hstores.steps hbase h hwrite
      cases r' with
      | error e =>
        obtain ⟨rfl, rfl⟩ := Prod.mk.inj ((run_bind_of_error hwrite).symm.trans hrun)
        exact ⟨p, hsteps, by simpa using hsaved⟩
      | ok u =>
        obtain ⟨rfl, rfl⟩ := Prod.mk.inj ((run_bind_of_ok hwrite).symm.trans hrun)
        exact ⟨p, hsteps, by simpa using hsaved⟩

/-- Loading takes the steps of its task; it leaves the files alone. -/
theorem steps_of_load {locale : Json} {r : Except Failure (Option LocaleFile)}
    (hrun : (s.load locale).run.run d = (r, d')) :
    ∃ warnings, d' = { d with warnings := d.warnings ++ warnings } ∧
      ReflTransGen ((Task.load locale).Step s) (d.files, .waiting)
        (d.files, .loaded (r, warnings)) := by
  cases hname : localeName locale with
  | error e =>
    unfold load at hrun
    rw [hname, run_bind_of_error (run_liftM (.error e) d)] at hrun
    cases hrun
    exact ⟨[], by rw [List.append_nil], .single (.refuse hname)⟩
  | ok name =>
    rw [run_load s hname d rfl] at hrun
    cases hrun
    refine ⟨_, rfl, ?_⟩
    cases hfound : d.files.at? (s.base.child (fileName name)) with
    | error f => exact .single (.miss hname hfound)
    | ok u =>
      have hread := Task.Step.read (s := s) (t := d.files) hname
      rw [hfound] at hread
      exact .tail (.single (.look hname hfound)) hread

end

/-! ## Every run -/

section

variable {ι : Type} [DecidableEq ι] {s : Store} {tasks : ι → Task}

/-- A task that is not interrupted takes its steps in a run of all. -/
theorem Scene.steps_of_task {i : ι} {x y : FileTree × Phase}
    (h : ReflTransGen ((tasks i).Step s) x y) {phase : ι → Phase} (hphase : phase i = x.2) :
    ReflTransGen (Scene.Step s tasks) ⟨x.1, phase⟩ ⟨y.1, Function.update phase i y.2⟩ := by
  induction h with
  | refl => rw [← hphase, Function.update_eq_self]
  | @tail y z _ hstep ih =>
    have hnext : (tasks i).Step s (y.1, Function.update phase i y.2 i) (z.1, z.2) := by
      rw [Function.update_self]
      exact hstep
    have hscene := Scene.Step.intro i hnext
    rw [Function.update_idem] at hscene
    exact ih.tail hscene

/-- **Locales are written as a whole.** Let any number of calls save and load locales in one storage
folder at the same time: their steps come in any order, and each call may stop for good after any of
its steps, as one does whose document has no UTF-8 form. Then, at every moment:

* the file of every locale is as it was at the start, or the whole document of a call that has saved
  this locale;
* every call that has loaded a locale was given what loading gives for its file as it was at the
  start, or for such a document, and then it is the very locale that was saved;
* if every call that saves has ended, all other entries of the folder are as at the start, so no
  new file is left;
* a call that has not begun, and is not interrupted, does what `save` or `load` does. -/
theorem documents_whole {start : FileTree} {es : Entries FileTree} {σ : Scene ι}
    (hbase : s.base.Plain) (hfolder : start.find s.base.names = .ok (.folder es))
    (hrun : ReflTransGen (Scene.Step s tasks) (.start ι start) σ) :
    (∃ es', σ.files.find s.base.names = .ok (.folder es') ∧
      (∀ l, Entries.get? es' (fileName l) = Entries.get? es (fileName l) ∨
        ∃ i bytes, σ.phase i = .saved ∧ (tasks i).Writes l bytes ∧
          Entries.get? es' (fileName l) = some (.file bytes)) ∧
      ((∀ i now locale data hashes, tasks i = .save now locale data hashes →
          σ.phase i = .saved ∨ σ.phase i = .failed) →
        ∀ name, (∀ l, name ≠ fileName l) → Entries.get? es' name = Entries.get? es name)) ∧
    (∀ i locale name result, tasks i = .load locale → localeName locale = .ok name →
      σ.phase i = .loaded result →
        result = loading name (s.base.child (fileName name))
          (start.at? (s.base.child (fileName name))) ∨
        ∃ j file bytes, σ.phase j = .saved ∧ (tasks j).Stores name file ∧
          Utf8.encode (documentText file) = .ok bytes ∧
          result = loading name (s.base.child (fileName name)) (.ok (.file bytes)) ∧
          (file.Storable → result =
            (.ok (some { file with sourceHashes := Entries.sorted file.sourceHashes }), []))) ∧
    (∀ i now locale data hashes warned r d, tasks i = .save now locale data hashes →
      σ.phase i = .waiting → (s.save now locale data hashes).run.run ⟨σ.files, warned⟩ = (r, d) →
        ∃ p, (p = .saved ↔ ∃ file, r = .ok file) ∧
          ReflTransGen (Scene.Step s tasks) σ ⟨d.files, Function.update σ.phase i p⟩) ∧
    (∀ i locale warned r d, tasks i = .load locale → σ.phase i = .waiting →
      (s.load locale).run.run ⟨σ.files, warned⟩ = (r, d) →
        ∃ warnings, d.warnings = warned ++ warnings ∧ ReflTransGen (Scene.Step s tasks) σ
          ⟨d.files, Function.update σ.phase i (.loaded (r, warnings))⟩) := by
  obtain ⟨view, ⟨es', hfind, rfl⟩, hintact⟩ := exists_intact hbase ⟨es, hfolder, rfl⟩ hrun
  refine ⟨⟨es', hfind, hintact.stood, fun hended name hname => ?_⟩,
    fun i locale name result htask hname hloaded => ?_,
    fun i now locale data hashes warned r d htask hwaiting hsave => ?_,
    fun i locale warned r d htask hwaiting hload => ?_⟩
  · have hfree : ∀ i soFar, σ.phase i ≠ .writing name soFar := by
      intro i soFar hi
      obtain ⟨-, -, -, l, file, hstores⟩ := hintact.own i name soFar hi
      generalize htask : tasks i = task at hstores
      cases hstores with
      | intro hlocale hhash =>
        rcases hended i _ _ _ _ htask with hsaved | hfailed
        · rw [hi] at hsaved
          cases hsaved
        · rw [hi] at hfailed
          cases hfailed
    rcases hintact.rest name hfree with hsame | ⟨l, hl, -⟩
    · exact hsame
    · exact absurd hl (hname l)
  · have hstart : start.at? (s.base.child (fileName name)) =
        found (fileName name) (Entries.get? es (fileName name)) :=
      at?_child hbase hfolder (fileName_ne_dots name)
    obtain ⟨content, hstood, hresult⟩ := hintact.loaded i locale name result htask hname hloaded
    by_cases hlong : isTooLong (fileName name) = true
    · -- Nothing is ever found under a name that is too long.
      left
      rw [hresult, hstart, found_of_isTooLong hlong, found_of_isTooLong hlong]
    · rcases hstood with hsame | ⟨j, bytes, hj, ⟨file, hstores, hbytes⟩, hcontent⟩
      · left
        rw [hresult, hsame, hstart]
      · rw [hcontent, found, if_neg hlong] at hresult
        refine .inr ⟨j, file, bytes, hj, hstores, hbytes, hresult, fun hstorable => ?_⟩
        rw [hresult]
        exact loading_of_file (documentOf_documentText hstorable hbytes)
          (ofDocument_toDocument hstorable name)
  · obtain ⟨p, hsteps, hsaved⟩ := steps_of_save (d := ⟨σ.files, warned⟩) hbase hfind hsave
    rw [← htask] at hsteps
    exact ⟨p, hsaved, Scene.steps_of_task hsteps hwaiting⟩
  · obtain ⟨warnings, rfl, hsteps⟩ := steps_of_load hload
    rw [← htask] at hsteps
    exact ⟨warnings, rfl, Scene.steps_of_task hsteps hwaiting⟩

end

/-- A storage folder with a locale. -/
def oldLocale : FileTree := .folder [("locales", .folder [("en.json", .file [0x7b, 0x7d])])]

/-- A locale is saved, and it is loaded. -/
def saveAndLoad : Bool → Task
  | true => .save "2024-01-01T00:00:00+00:00" "en" (.obj [("title", "Welcome")]) []
  | false => .load "en"

/-- A call that saves has made its new file and stops there; then the other call loads the locale
and is given the old document. -/
theorem documents_whole_oldLocale :
    ∃ (σ : Scene Bool) (scratch : Text) (es' : Entries FileTree),
      ReflTransGen (Scene.Step ⟨⟨.root, ["locales"]⟩⟩ saveAndLoad) (.start Bool oldLocale) σ ∧
      σ.phase true = .writing scratch [] ∧
      σ.phase false = .loaded (loading "en" ⟨.root, ["locales", "en.json"]⟩
        (.ok (.file [0x7b, 0x7d]))) ∧
      σ.files.find ["locales"] = .ok (.folder es') ∧
      Entries.get? es' "en.json" = some (.file [0x7b, 0x7d]) := by
  have hbase : (⟨.root, ["locales"]⟩ : Path).Plain := by
    intro name hname
    rw [List.mem_singleton.1 hname]
    decide
  have hname : localeName "en" = .ok "en" := eq_ok_of_toOption (by decide)
  have hfolder : oldLocale.find ["locales"] =
      .ok (.folder [("en.json", .file [0x7b, 0x7d])]) := by
    rfl
  obtain ⟨hash, hhash⟩ : ∃ hash, Catalog.digest (.obj [("title", "Welcome")]) = .ok hash :=
    Catalog.exists_digest (by decide)
      ⟨by decide, (by decide : (Text.ofString "Welcome").Encodable), trivial⟩
  have hscratch : IsScratch "en" ".en.a.tmp" := ⟨"a", by decide⟩
  have hdots : Text.ofString "en.json" ≠ Text.ofString ".." := by decide
  -- The new file is made, and then the locale's file is looked for and read.
  obtain ⟨t, hmake, hfind⟩ := writeBytes_child hbase hfolder hscratch.ne_dots (by decide) nofun []
  have hfound : t.at? ⟨.root, ["locales", "en.json"]⟩ = .ok (.file [0x7b, 0x7d]) :=
    at?_child hbase hfind hdots
  have hsaves : (saveAndLoad true).Step ⟨⟨.root, ["locales"]⟩⟩ (oldLocale, .waiting)
      (t, .writing ".en.a.tmp" []) :=
    .make (.intro hname hhash) hscratch (at?_child hbase hfolder hscratch.ne_dots) hmake
  have hloads : ReflTransGen ((saveAndLoad false).Step ⟨⟨.root, ["locales"]⟩⟩) (t, .waiting)
      (t, .loaded (reading "en" ⟨.root, ["locales", "en.json"]⟩
        (t.at? ⟨.root, ["locales", "en.json"]⟩))) :=
    .tail (.single (.look hname hfound)) (.read hname)
  have hmade : ReflTransGen (Scene.Step ⟨⟨.root, ["locales"]⟩⟩ saveAndLoad)
      (.start Bool oldLocale)
      ⟨t, Function.update (fun _ => .waiting) true (.writing ".en.a.tmp" [])⟩ :=
    Scene.steps_of_task (.single hsaves) rfl
  have hrun := hmade.trans (Scene.steps_of_task hloads rfl)
  obtain ⟨⟨es', hfind', hwhole, -⟩, -⟩ := documents_whole hbase hfolder hrun
  refine ⟨_, ".en.a.tmp", es', hrun, rfl, ?_, hfind', ?_⟩
  · rw [hfound]
    rfl
  · rcases hwhole "en" with hsame | ⟨i, -, hsaved, -⟩
    · exact hsame
    · cases i <;> cases hsaved

end Localization.Store
