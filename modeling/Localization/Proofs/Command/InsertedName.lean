import Mathlib.Data.List.Basic
import Localization.Command.Wrap
import Localization.Proofs.Command.Translate
import Localization.Proofs.Config.Usable
import Localization.Proofs.Extraction.DryRun
import Localization.Proofs.Extraction.ImportPlace

/-!
# The name that is put in

A configuration is accepted only if the name of its function is an identifier, but for a line feed
at its end (`isNameWith_iff`). A name that is given with the command takes its place after that, and
is not checked. Wrapping rewrites files one after another by edits that put in calls and imports of
one name (`marked_wrapFiles`). So all that a wrap puts in has the name that was given, whatever it
is, or else the configured name, which is an identifier exactly if it does not end in a line feed
(`wrapTexts_inserts`).
-/

namespace Localization

open Syntax Extraction

/-! ## Identifiers -/

namespace Config

/-- Identifiers: a letter of ASCII, an underscore or a dollar sign comes first, and all that follows
are characters of words and dollar signs. -/
def IsIdentifier (t : Text) : Prop :=
  ∃ first rest, t = first :: rest ∧ startsFunction first = true ∧
    ∀ d ∈ rest, Filter.isCodePoint d = true

section
variable {t : Text}

/-- What the check of a function's name lets through: identifiers, and identifiers with a line feed
behind them. -/
theorem isNameWith_iff : isNameWith startsFunction t = true ↔
    IsIdentifier t ∨ ∃ u, IsIdentifier u ∧ t = u ++ [.scalar '\n'] := by
  cases t with
  | nil => simp [isNameWith, IsIdentifier]
  | cons first rest =>
    simp only [isNameWith, Bool.and_eq_true, Bool.or_eq_true, List.all_eq_true, beq_iff_eq]
    constructor
    · rintro ⟨hfirst, hrest | ⟨hlast, hrest⟩⟩
      · exact .inl ⟨first, rest, rfl, hfirst, hrest⟩
      · refine .inr ⟨first :: rest.dropLast, ⟨first, _, rfl, hfirst, hrest⟩, ?_⟩
        rw [List.cons_append, List.dropLast_append_getLast? _ hlast]
    · rintro (⟨_, _, heq, hfirst, hrest⟩ | ⟨_, ⟨_, middle, rfl, hfirst, hmiddle⟩, heq⟩)
      · cases heq
        exact ⟨hfirst, .inl hrest⟩
      · obtain ⟨rfl, rfl⟩ := List.cons.inj heq
        exact ⟨hfirst, .inr ⟨by simp, by simpa using hmiddle⟩⟩

/-- No identifier ends in a line feed. -/
theorem IsIdentifier.getLast?_ne (h : IsIdentifier t) : t.getLast? ≠ some (.scalar '\n') := by
  obtain ⟨first, rest, rfl, hfirst, hrest⟩ := h
  have hfeed : startsFunction (.scalar '\n') = false ∧
      Filter.isCodePoint (.scalar '\n') = false := by
    decide
  intro hlast
  rcases List.mem_cons.1 (List.mem_of_getLast? hlast) with rfl | hmem
  · rw [hfeed.1] at hfirst
    cases hfirst
  · rw [hrest _ hmem] at hfeed
    cases hfeed.2

/-- Of what the check lets through, identifiers are known by their last character. -/
theorem isIdentifier_iff (h : isNameWith startsFunction t = true) :
    IsIdentifier t ↔ t.getLast? ≠ some (.scalar '\n') := by
  refine ⟨IsIdentifier.getLast?_ne, fun hlast => ?_⟩
  rcases isNameWith_iff.1 h with hname | ⟨u, -, rfl⟩
  · exact hname
  · exact absurd List.getLast?_concat hlast

/-- The function's name of a configuration without faults passed the check. -/
theorem exists_name_of_faults {characters : Regex.CharacterNames} {c : Config}
    (h : c.faults characters = .ok []) :
    ∃ t, c.functionName = .str t ∧ isNameWith startsFunction t = true := by
  obtain ⟨isListed, -, h⟩ := bind_eq_ok.1 h
  obtain ⟨functionFaults, hfunction, h⟩ := bind_eq_ok.1 h
  obtain ⟨componentFaults, -, h⟩ := bind_eq_ok.1 h
  obtain ⟨isShort, -, h⟩ := bind_eq_ok.1 h
  obtain ⟨js, -, h⟩ := bind_eq_ok.1 h
  obtain ⟨patterns, -, h⟩ := bind_eq_ok.1 h
  have hnone : functionFaults = [] := by
    have hnil := Except.ok.inj h
    simp only [List.append_eq_nil_iff] at hnil
    exact hnil.1.1.1.2
  obtain ⟨t, ht, hfaults⟩ := bind_eq_ok.1 hfunction
  rw [hnone] at hfaults
  cases hvalue : c.functionName with
  | str t' =>
    rw [hvalue] at ht
    cases ht
    refine ⟨t, rfl, ?_⟩
    cases hname : isNameWith startsFunction t with
    | true => rfl
    | false =>
      rw [hname] at hfaults
      cases hfaults
  | null | bool _ | int _ | float _ | arr _ | obj _ =>
    rw [hvalue] at ht
    cases ht

end

end Config

/-! ## What edits put in -/

namespace Extraction

/-- An edit puts in a call of a function, with or without braces, or a statement that imports or
requires it. -/
inductive Inserts (name module : Text) (e : Edit) : Prop where
  | call {key : Text} : e.replacement = callOf name key → Inserts name module e
  | braces {key : Text} : e.replacement = braced (callOf name key) → Inserts name module e
  | first : e.replacement = importLine name module ++ "\n" → Inserts name module e
  | imported : e.replacement = "\n" ++ importLine name module → Inserts name module e
  | required : e.Requires name module → Inserts name module e

/-- Files are rewritten one after another, each by edits that put in calls and imports of one
function. -/
inductive Marked (name module : Text) : FileTree → FileTree → Prop where
  | done {t : FileTree} : Marked name module t t
  | file {t u t' : FileTree} {p : Path} {old : List UInt8} {chars new : List Char}
      {edits : List Edit} : t.readBytes p = .ok old → Utf8.decode old = .ok chars →
      (∀ e ∈ edits, Inserts name module e) → edited (.ofChars chars) edits = .ok new →
      t.writeBytes p (Utf8.encodeChars new) = .ok u → Marked name module u t' →
      Marked name module t t'

section
variable {o : WrapOptions} {parser : Parser} {source : Source} {root : Tree} {name module : Text}
  {t u t' : FileTree}

/-- Files that are rewritten in two stretches are rewritten one after another. -/
theorem Marked.trans (h : Marked name module t u) (h' : Marked name module u t') :
    Marked name module t t' := by
  induction h with
  | done => exact h'
  | file hread hdecode hedits hedited hwrite _ ih =>
    exact .file hread hdecode hedits hedited hwrite (ih h')

/-- The edit for an import puts in an import, wherever it goes. -/
theorem inserts_importEdit (source : Source) (name module : Text) (root : Tree) :
    Inserts name module (importEdit source name module root) := by
  rcases importEdit_cases source name module root with
    ⟨s, -, hedit⟩ | ⟨-, ⟨s, -, hedit⟩ | ⟨-, ⟨s, -, hedit⟩ | ⟨-, hedit⟩⟩⟩
  · exact hedit ▸ .imported rfl
  · exact hedit ▸ .required rfl
  · exact hedit ▸ .imported rfl
  · exact hedit ▸ .first rfl

/-- An edit that is reported puts in a call of the function. -/
theorem Reports.inserts {e : Edit} {w : Wrapped} (h : Reports o source e w) :
    Inserts o.markers.functionName o.module e := by
  obtain ⟨position, hreplacement, -⟩ := h.replacement
  split at hreplacement
  · exact .call hreplacement
  · exact .braces hreplacement

/-- All edits of a file put in the one function of the options. -/
theorem inserts_fileEdits {file : Text} {pass : Pass}
    (hpass : record o source file root = .ok pass) (importAdded : Bool) :
    ∀ e ∈ fileEdits o source root importAdded pass.edits,
      Inserts o.markers.functionName o.module e := by
  have hrecorded : ∀ e ∈ pass.edits, Inserts o.markers.functionName o.module e :=
    ((List.forall₂_and_left _ _).1 ((record_extends hpass).1.imp fun e w h => ⟨h.inserts, h⟩)).1
  unfold fileEdits
  split
  · intro e he
    rcases List.mem_append.1 he with he | he
    · exact hrecorded e he
    · exact List.mem_singleton.1 he ▸ inserts_importEdit ..
  · exact hrecorded

/-- Wrapping one file marks it, or leaves all as it is. -/
theorem marked_wrapFile (o : WrapOptions) (parser : Parser) (t : FileTree) (p : Path) :
    Marked o.markers.functionName o.module t (wrapFile o parser false t p).2 := by
  unfold wrapFile
  split
  next => exact .done
  next chars hcontent =>
    obtain ⟨old, hold, hchars⟩ := bind_eq_ok.1 hcontent
    dsimp only
    split
    next new hnew =>
      rw [if_neg Bool.false_ne_true, writeBack]
      cases hparse : parser p.toText (.ofChars chars) with
      | error reason =>
        rw [wrapContent, hparse] at hnew
        cases hnew
      | ok root =>
        obtain ⟨pass, hpass, -, hedited⟩ := wrapContent_newSource hparse hnew
        split
        next u hwrite =>
          exact .file (mapError_eq_ok.1 hold) (mapError_eq_ok.1 hchars)
            (inserts_fileEdits hpass _) hedited hwrite .done
        next => exact .done
    next => exact .done

/-- Wrapping files one after another marks them with the one function of the options. -/
theorem marked_wrapFiles (o : WrapOptions) (parser : Parser) (checks : Checks) (t : FileTree)
    (files : List Path) :
    Marked o.markers.functionName o.module t (wrapFiles o parser false checks t files).2 := by
  induction files generalizing checks t with
  | nil => exact .done
  | cons p files ih =>
    rw [wrapFiles]
    cases checks.step with
    | none => exact .done
    | some checks => exact (marked_wrapFile o parser t p).trans (ih checks _)

end

end Extraction

/-! ## Commands that leave the files alone -/

namespace Command

section
variable {σ α β : Type} {x : Running σ α} {f : α → Running σ β} {s : Session σ}

/-- A command leaves the files alone, whether it comes to its end or not. -/
def KeepsFiles (x : Running σ α) : Prop := ∀ s, (x.run.run s).2.disk.files = s.disk.files

/-- What holds after a sequence of two, the first of which leaves the files alone: it holds where
the first one stops, or it holds after the second one. -/
theorem KeepsFiles.bind_post {P : Session σ → Prop} (hx : KeepsFiles x)
    (hstop : ∀ s', s'.disk.files = s.disk.files → P s')
    (hgo : ∀ a s', x.run.run s = (.ok a, s') → s'.disk.files = s.disk.files →
      P ((f a).run.run s').2) : P ((x >>= f).run.run s).2 := by
  have hfiles := hx s
  obtain ⟨⟨r, s'⟩, hrun⟩ : ∃ y, x.run.run s = y := ⟨_, rfl⟩
  rw [hrun] at hfiles
  cases r with
  | error e =>
    rw [run_bind_of_error hrun]
    exact hstop s' hfiles
  | ok a =>
    rw [run_bind_of_ok hrun]
    exact hgo a s' hrun hfiles

namespace KeepsFiles

/-- A sequence of two leaves the files alone if both do. -/
theorem bind (hx : KeepsFiles x) (hf : ∀ a, KeepsFiles (f a)) : KeepsFiles (x >>= f) :=
  fun s => hx.bind_post (P := fun s' => s'.disk.files = s.disk.files) (fun _ h => h)
    fun a s' _ h => (hf a s').trans h

/-- Giving a value leaves the files alone. -/
theorem pure (a : α) : KeepsFiles (Pure.pure a : Running σ α) := fun _ => rfl

/-- Going on with a value, or failing, leaves the files alone. -/
theorem orFail (y : Except Failure α) : KeepsFiles (orFail y : Running σ α) := by
  cases y with
  | error e => exact fun _ => rfl
  | ok a => exact fun _ => rfl

/-- Keeping records leaves the files alone. -/
theorem keepRecords (y : Logged α) : KeepsFiles (keepRecords y : Running σ α) :=
  bind (fun _ => rfl) fun _ => orFail y.result

/-- Showing something leaves the files alone. -/
theorem present (shown : Shown) : KeepsFiles (present shown : Running σ Unit) := fun _ => rfl

/-- Showing a line leaves the files alone. -/
theorem say (line : Text) : KeepsFiles (say line : Running σ Unit) := fun _ => rfl

/-- Showing lines leaves the files alone. -/
theorem sayEach (line : Text → Text) (ts : List Text) :
    KeepsFiles (sayEach line ts : Running σ Unit) :=
  fun s => by rw [run_sayEach]

/-- Looking at the session leaves the files alone. -/
theorem get : KeepsFiles (get : Running σ (Session σ)) := fun _ => rfl

/-- Taking a line that was typed leaves the files alone. -/
theorem nextLine : KeepsFiles (nextLine : Running σ (Option Text)) := by
  refine bind get fun s => ?_
  split
  · exact pure none
  · exact bind (fun _ => rfl) fun _ => pure _

/-- Asking a question leaves the files alone, however often it has to be asked. -/
theorem askFor (question : Text) (n : Nat) : KeepsFiles (askFor question n : Running σ Bool) := by
  induction n with
  | zero => exact fun _ => rfl
  | succ n ih =>
    refine bind (fun _ => rfl) fun _ => bind nextLine fun line => ?_
    cases line with
    | none => exact fun _ => rfl
    | some line =>
      refine bind (fun _ => rfl) fun _ => ?_
      split
      · exact pure _
      · exact bind (fun _ => rfl) fun _ => ih

/-- Asking a question until it is answered leaves the files alone. -/
theorem ask (question : Text) : KeepsFiles (ask question : Running σ Bool) :=
  bind get fun _ => askFor question _

/-- Refusing faults leaves the files alone. -/
theorem refuseFaults (faults : List Text) : KeepsFiles (refuseFaults faults : Running σ Unit) := by
  unfold Command.refuseFaults
  split
  · exact pure ()
  · exact bind (say _) fun _ => bind (sayEach _ _) fun _ => fun _ => rfl

/-- Loading a configuration leaves the files alone. -/
theorem loadConfig (h : Host σ) (chosen : Option Text) : KeepsFiles (loadConfig h chosen) := by
  refine bind (fun _ => rfl) fun t => bind (keepRecords _) fun found => bind (orFail _) fun c =>
    bind (orFail _) fun faults => bind (refuseFaults faults) fun _ => ?_
  split
  · exact bind (say _) fun _ => pure c
  · exact pure c

/-- Showing what would be marked leaves the files alone. -/
theorem showPreview (r : FolderResult) : KeepsFiles (showPreview r : Running σ Unit) := by
  refine bind (sayEach _ _) fun _ => ?_
  dsimp only
  split
  · refine bind (present _) fun _ => ?_
    split
    · exact say _
    · exact pure ()
  · split
    · exact say _
    · exact pure ()

end KeepsFiles

/-- A configuration that is loaded has no faults. -/
theorem faults_of_loadConfig {h : Host σ} {chosen : Option Text} {c : Config} {s' : Session σ}
    (hload : (loadConfig h chosen).run.run s = (.ok c, s')) : c.faults h.characters = .ok [] := by
  obtain ⟨t, s₁, -, hload⟩ := run_bind_eq_ok.1 hload
  obtain ⟨found, s₂, -, hload⟩ := run_bind_eq_ok.1 hload
  obtain ⟨c', -, hload⟩ := run_orFail_bind_eq_ok.1 hload
  obtain ⟨faults, hfaults, hload⟩ := run_orFail_bind_eq_ok.1 hload
  obtain ⟨_, s₃, hrefuse, hload⟩ := run_bind_eq_ok.1 hload
  have hc : c' = c := by
    split at hload
    · obtain ⟨_, s₄, -, hload⟩ := run_bind_eq_ok.1 hload
      cases hload
      rfl
    · cases hload
      rfl
  rw [← hc, hfaults, (run_refuseFaults_eq_ok.1 hrefuse).1]

/-! ## Wrapping a project -/

/-- What holds after a project was wrapped: it holds where nothing was written, or it holds with the
files that wrapping leaves. -/
theorem wrapProject_post {h : Host σ} {c : Config} {o : WrapOptions} {dryRun : Bool}
    {P : Session σ → Prop} (hstop : ∀ s', s'.disk.files = s.disk.files → P s')
    (hgo : ∀ paths s', s'.disk.files =
      (wrapFiles o h.parser dryRun none s.disk.files paths).2 → P s') :
    P ((wrapProject h c o dryRun).run.run s).2 := by
  refine (KeepsFiles.orFail _).bind_post hstop fun source s₁ _ h₁ => ?_
  refine (KeepsFiles.orFail _).bind_post (fun s' h => hstop s' (h.trans h₁)) fun walk s₂ _ h₂ => ?_
  have hfiles : (files : Running σ FileTree).run.run s₂ = (.ok s₂.disk.files, s₂) := rfl
  rw [run_bind_of_ok hfiles]
  refine (KeepsFiles.keepRecords _).bind_post
    (fun s' h => hstop s' (h.trans (h₂.trans h₁))) fun r s₃ hr h₃ => ?_
  obtain ⟨paths, hpaths⟩ := walk.exists_files s₂.disk.files source
  have hresult := (run_keepRecords_eq_ok.1 hr).1
  rw [result_wrapFolder hpaths] at hresult
  cases hresult
  refine hgo paths _ ?_
  rw [h₂.trans h₁]
  rfl

/-- A wrap that is only shown leaves the files alone. -/
theorem KeepsFiles.wrapProject (h : Host σ) (c : Config) (o : WrapOptions) :
    KeepsFiles (wrapProject h c o true) := by
  intro s
  refine wrapProject_post (P := fun s' => s'.disk.files = s.disk.files) (fun _ h => h) ?_
  intro paths s' hs'
  rw [hs', wrapFiles_true]

/-- Wrapping a project marks files with the one function of the options. -/
theorem marked_wrapProject (h : Host σ) (c : Config) (o : WrapOptions) (s : Session σ) :
    Marked o.markers.functionName o.module s.disk.files
      ((wrapProject h c o false).run.run s).2.disk.files := by
  refine wrapProject_post
    (P := fun s' => Marked o.markers.functionName o.module s.disk.files s'.disk.files) ?_ ?_
  · intro s' hs'
    rw [hs']
    exact .done
  · intro paths s' hs'
    rw [hs']
    exact marked_wrapFiles o h.parser none _ paths

/-- A session has given files, or merging keys into the default locale led to it from one that
has. -/
def Follows (h : Host σ) (c : Config) (t : FileTree) (s' : Session σ) : Prop :=
  s'.disk.files = t ∨
    ∃ keys s, s.disk.files = t ∧ s' = ((updateDefault h c keys).run.run s).2

/-- Applying a wrap marks files and then merges the new keys. -/
theorem exists_marked_applyWrap (h : Host σ) (c : Config) (o : WrapOptions) (s : Session σ) :
    ∃ t, Marked o.markers.functionName o.module s.disk.files t ∧
      Follows h c t ((applyWrap h c o).run.run s).2 := by
  have hmarked := marked_wrapProject h c o s
  obtain ⟨⟨r, s₁⟩, hrun⟩ : ∃ y, (wrapProject h c o false).run.run s = y := ⟨_, rfl⟩
  rw [hrun] at hmarked
  refine ⟨s₁.disk.files, hmarked, ?_⟩
  unfold applyWrap
  cases r with
  | error e =>
    rw [run_bind_of_error hrun]
    exact .inl rfl
  | ok r =>
    rw [run_bind_of_ok hrun]
    refine (KeepsFiles.sayEach _ _).bind_post (fun s' hs' => .inl hs') fun _ s₂ _ h₂ => ?_
    refine (KeepsFiles.say _).bind_post (fun s' hs' => .inl (hs'.trans h₂)) fun _ s₃ _ h₃ => ?_
    split
    · exact .inr ⟨r.newKeys, s₃, h₃.trans h₂, rfl⟩
    · exact .inl (h₃.trans h₂)

/-- The name that is given with a command; an empty one counts as none. -/
def givenName (function : Option Text) : Option Text := function.filter fun name => !name.isEmpty

/-- The name that a wrap puts in: the given one, or else the configured one. -/
def insertedName (function : Option Text) (c : Config) : Text :=
  (givenName function).getD c.functionName.bare

/-- Another function changes nothing else of a configuration. -/
theorem withFunction (function : Option Text) {c₁ c : Config}
    (hfunction : c₁.functionName = c.functionName) (himport : c₁.importSource = c.importSource) :
    let c' := match function with
      | some name => if name.isEmpty then c₁ else { c₁ with functionName := .str name }
      | none => c₁
    c'.functionName.bare = insertedName function c ∧ c'.importSource = c.importSource :=
  match function with
  | none | some [] => ⟨congrArg Json.bare hfunction, himport⟩
  | some (_ :: _) => ⟨rfl, himport⟩

/-- The configuration of a wrap has the name that it puts in and the module of the loaded one. -/
theorem withSource_eq_ok {h : Host σ} {source function : Option Text} {c c' : Config}
    (hsource : withSource h source function c = .ok c') :
    c'.functionName.bare = insertedName function c ∧ c'.importSource = c.importSource := by
  cases source with
  | none =>
    cases hsource
    exact withFunction function rfl rfl
  | some given =>
    obtain ⟨c₁, hc₁, hsource⟩ := bind_eq_ok.1 hsource
    obtain ⟨p, -, rfl⟩ := map_eq_ok.1 hc₁
    cases hsource
    exact withFunction function rfl rfl

/-- The options of a wrap have the name that it puts in. -/
theorem markers_of_withSource {h : Host σ} {source function : Option Text} {c c' : Config}
    {o : WrapOptions} (hsource : withSource h source function c = .ok c')
    (hoptions : wrapOptionsOf h.characters c' = .ok o) :
    o.markers.functionName = insertedName function c ∧ o.module = c.importSource.bare := by
  obtain ⟨hname, himport⟩ := withSource_eq_ok hsource
  obtain ⟨filter, -, ho⟩ := bind_eq_ok.1 hoptions
  cases ho
  exact ⟨hname, congrArg Json.bare himport⟩

/-- Without a given name, the name of a configuration without faults is put in. -/
theorem insertedName_of_faults {characters : Regex.CharacterNames} {function : Option Text}
    {c : Config} (hfaults : c.faults characters = .ok []) (hgiven : givenName function = none) :
    Config.isNameWith Config.startsFunction (insertedName function c) = true := by
  obtain ⟨t, ht, hname⟩ := Config.exists_name_of_faults hfaults
  rw [insertedName, hgiven, ht]
  exact hname

/-- A wrap rewrote files: it loaded a configuration without faults, all its edits put in calls and
imports of one name, and after that it did nothing but merge the new keys into the default
locale. -/
structure Wrote (h : Host σ) (config source function : Option Text) (s s' : Session σ)
    (c : Config) : Prop where
  loaded : ∃ s₁, (loadConfig h config).run.run s = (.ok c, s₁)
  faultless : c.faults h.characters = .ok []
  marked : ∃ c' t, withSource h source function c = .ok c' ∧
    Marked (insertedName function c) c.importSource.bare s.disk.files t ∧ Follows h c' t s'

/-- A wrap leaves the files alone or rewrites files with one name. -/
theorem wrapTexts_cases (h : Host σ) (config source function : Option Text) (dryRun yes : Bool)
    (s : Session σ) :
    ((wrapTexts h config source function dryRun yes).run.run s).2.disk.files = s.disk.files ∨
    ∃ c, Wrote h config source function s
      ((wrapTexts h config source function dryRun yes).run.run s).2 c := by
  let P (s' : Session σ) : Prop :=
    s'.disk.files = s.disk.files ∨ ∃ c, Wrote h config source function s s' c
  have hkept : ∀ {s₀ : Session σ}, s₀.disk.files = s.disk.files →
      ∀ s', s'.disk.files = s₀.disk.files → P s' := fun h₀ s' hs' => .inl (hs'.trans h₀)
  refine (KeepsFiles.loadConfig h config).bind_post (P := P) (hkept rfl) fun c s₁ hload h₁ => ?_
  refine (KeepsFiles.orFail _).bind_post (hkept h₁) fun c' s₂ hc' h₂ => ?_
  have hsource := (run_orFail_eq_ok.1 hc').1
  replace h₂ := h₂.trans h₁
  refine (KeepsFiles.orFail _).bind_post (hkept h₂) fun o s₃ ho h₃ => ?_
  obtain ⟨hname, hmodule⟩ := markers_of_withSource hsource (run_orFail_eq_ok.1 ho).1
  replace h₃ := h₃.trans h₂
  refine (KeepsFiles.orFail _).bind_post (hkept h₃) fun place s₄ _ h₄ => ?_
  replace h₄ := h₄.trans h₃
  refine (KeepsFiles.say _).bind_post (hkept h₄) fun _ s₅ _ h₅ => ?_
  replace h₅ := h₅.trans h₄
  refine (KeepsFiles.wrapProject h c' o).bind_post (hkept h₅) fun preview s₆ _ h₆ => ?_
  replace h₆ := h₆.trans h₅
  refine (KeepsFiles.showPreview preview).bind_post (hkept h₆) fun _ s₇ _ h₇ => ?_
  replace h₇ := h₇.trans h₆
  -- The files are written only after the user agreed.
  have happly : ∀ s₈ : Session σ, s₈.disk.files = s.disk.files →
      P ((applyWrap h c' o).run.run s₈).2 := by
    intro s₈ h₈
    obtain ⟨t, hmarked, hfollows⟩ := exists_marked_applyWrap h c' o s₈
    rw [hname, hmodule, h₈] at hmarked
    exact .inr ⟨c, ⟨s₁, hload⟩, faults_of_loadConfig hload, c', t, hsource, hmarked, hfollows⟩
  split
  · exact hkept h₇ _ (KeepsFiles.say _ s₇)
  split
  · exact hkept h₇ _ (KeepsFiles.say _ s₇)
  split
  · exact happly s₇ h₇
  · refine (KeepsFiles.ask _).bind_post (hkept h₇) fun agreed s₈ _ h₈ => ?_
    replace h₈ := h₈.trans h₇
    cases agreed with
    | true => exact happly s₈ h₈
    | false => exact hkept h₈ _ (KeepsFiles.say _ s₈)

/-- **What a wrap puts in.** For every host, all options of the command and every state of the
files, and whether the command comes to its end or not: the files are as they were, or files were
rewritten by edits that all put in calls and imports of one name. The name is the one that was given
with the command, whatever it is. If none was given, it is the one of a configuration without
faults: an identifier, or one with a line feed behind it. -/
theorem wrapTexts_inserts (h : Host σ) (config source function : Option Text) (dryRun yes : Bool)
    (s : Session σ) :
    ((wrapTexts h config source function dryRun yes).run.run s).2.disk.files = s.disk.files ∨
    ∃ c, Wrote h config source function s
        ((wrapTexts h config source function dryRun yes).run.run s).2 c ∧
      (∀ name, givenName function = some name → insertedName function c = name) ∧
      (givenName function = none →
        (Config.IsIdentifier (insertedName function c) ∨
          ∃ u, Config.IsIdentifier u ∧ insertedName function c = u ++ [.scalar '\n']) ∧
        (Config.IsIdentifier (insertedName function c) ↔
          (insertedName function c).getLast? ≠ some (.scalar '\n'))) := by
  refine (wrapTexts_cases h config source function dryRun yes s).imp_right ?_
  rintro ⟨c, hwrote⟩
  refine ⟨c, hwrote, fun name hgiven => ?_, fun hgiven => ?_⟩
  · rw [insertedName, hgiven]
    rfl
  · have hname := insertedName_of_faults hwrote.faultless hgiven
    exact ⟨Config.isNameWith_iff.1 hname, Config.isIdentifier_iff hname⟩

end

/-! ## A name that is not checked -/

/-- The configuration of a project at the root that sets nothing. -/
def rootConfig : Config := .standard ⟨.root, []⟩

/-- The file `<p>Hello</p>`. -/
def helloSource : Source := .ofChars "<p>Hello</p>".toList

/-- The options of a wrap that was given two words for a name. -/
def twoWords : WrapOptions := ⟨⟨"a b", "T"⟩, [], ⟨2, []⟩, "lokal-react"⟩

/-- The tree of the file. -/
def helloTree : Tree := Syntax.parse (dialectOf "A.tsx") helloSource

/-- The edits of the file with this name, the last place first. -/
def twoWordsEdits : List Edit :=
  [⟨3, 8, "\x7ba b('A_hello')\x7d"⟩, ⟨0, 0, importLine "a b" "lokal-react" ++ "\n"⟩]

/-- A call and an import of the two words are put in. -/
theorem importAdded_twoWords :
    (wrapContent twoWords standardParser "A.tsx" helloSource).importAdded = true := by
  have hrecord : ((record twoWords helloSource "A.tsx" helloTree).toOption.map fun pass =>
      (pass.edits, declares helloSource twoWords.markers.functionName helloTree pass.edits)) =
        some (twoWordsEdits.take 1, false) := by
    decide +kernel
  have himport : importEdit helloSource twoWords.markers.functionName twoWords.module helloTree =
      ⟨0, 0, importLine "a b" "lokal-react" ++ "\n"⟩ := by
    decide +kernel
  have hordered : Edit.ordered (twoWordsEdits.take 1 ++
      [importEdit helloSource twoWords.markers.functionName twoWords.module helloTree]) =
        twoWordsEdits := by
    rw [himport]
    exact List.mergeSort_of_pairwise (by decide)
  exact (importAdded_of_ordered rfl hrecord rfl hordered (by decide +kernel)).2

/-- A configuration without faults and the options of the command do not make sure that an
identifier is put in. -/
theorem inserts_twoWords : ¬ ∀ (h : Host Unit) (source function : Option Text) (c c' : Config)
    (o : WrapOptions) (file : Text) (new : List Char) (content : Source),
      c.faults h.characters = .ok [] → withSource h source function c = .ok c' →
      wrapOptionsOf h.characters c' = .ok o →
      (wrapContent o h.parser file content).newSource = some new →
      Config.IsIdentifier o.markers.functionName := by
  intro hall
  obtain ⟨new, hnew⟩ := newSource_of_importAdded importAdded_twoWords
  have hfaults : rootConfig.faults .unnamed = .ok [] := eq_ok_of_toOption (by decide)
  have hname := hall (hostAt "2024") none (some "a b") rootConfig
    { rootConfig with functionName := .str "a b" } twoWords "A.tsx" new helloSource hfaults rfl rfl
    hnew
  obtain ⟨first, rest, heq, -, hrest⟩ := hname
  obtain ⟨-, rfl⟩ := List.cons.inj heq
  exact absurd (hrest (.scalar ' ') (.head _)) (by decide)

end Command

end Localization
