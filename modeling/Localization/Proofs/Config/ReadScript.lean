import Localization.Proofs.Config.WrittenScript

/-!
# Reading back what a script writes out

In a script without its comments all colons stand behind names of settings, so a search passes over
every line but the one of the setting that is looked for (`passes_line`), and there it reads what
is written (`found_line`). The section for the service is searched in the same way for the settings
in it (`textSetting?_writtenEntries`). So the script is read as the settings that it was written
from, whatever the order of its lines and whatever its comments say (`read_written`).
-/

namespace Localization.Script

variable {n v t u rest : Text} {w : Bool} {opens : CodePoint → Bool} {search : Text → Option Text}

/-! ## Passing over entries and lines -/

/-- A text without a colon may stand in front of a closed one. -/
theorem Closed.append_left (ht : .scalar ':' ∉ t) (hu : Closed u) : Closed (t ++ u) := by
  obtain ⟨c, hlast, hc⟩ := hu.ends
  have hne : u ≠ [] := by
    rintro rfl
    cases hlast
  refine ⟨?_, c, ?_, hc⟩
  · simp [ht, hu.no_colon]
  · rw [List.getLast?_append_of_ne_nil _ hne, hlast]

/-- A search for a name goes on behind an indent. -/
theorem passes_indent (hn : IsName n) (h : IsIndent t) : Passes n t := by
  by_cases hne : t = []
  · exact hne ▸ .nil n
  · have hlast := CodePoint.isWord_of_isBlank (h _ (List.getLast_mem hne)).1
    have hcolon : .scalar ':' ∉ t := fun hmem => absurd (h _ hmem).1 (by decide)
    exact Closed.passes ⟨hcolon, t.getLast hne, List.getLast?_eq_some_getLast hne, hlast⟩ hn

/-- A space is closed. -/
theorem closed_blank : Closed " " := ⟨by decide, .scalar ' ', rfl, by decide⟩

/-- A comma with a space behind it is closed. -/
theorem closed_separator : Closed ", " := ⟨by decide, .scalar ' ', rfl, by decide⟩

/-- The line that opens the object is closed. -/
theorem closed_header : Closed "module.exports = \x7b\n" :=
  ⟨by decide, .scalar '\n', rfl, by decide⟩

/-- A quoted value with a space in front is closed. -/
theorem closed_quoted (hv : Plain v) : Closed (" " ++ quoted v) := by
  have hcolon : CodePoint.scalar ':' ∉ Text.ofString " " ++ (Text.ofString "'" ++ v) := by
    have hmem := hv.not_mem (c := .scalar ':') (by decide)
    have hlead : CodePoint.scalar ':' ∉ Text.ofString " " ++ Text.ofString "'" := by decide
    simp only [List.mem_append] at hlead ⊢
    tauto
  have hclose : Closed (Text.ofString "'") := ⟨by decide, .scalar '\'', rfl, by decide⟩
  have hquoted := hclose.append_left hcolon
  rwa [List.append_assoc] at hquoted

/-- A search for one name goes on behind the entry of another. -/
theorem passes_entry (hn : n ∈ settingNames) {e : Text × Text} (he : e.1 ∈ settingNames)
    (hplain : Plain e.2) (hne : n ≠ e.1) : Passes n (writtenEntry e) :=
  (passes_name (isName_of_mem hn) (isName_of_mem he) (not_suffix_of_ne hn he hne)).append
    ((closed_quoted hplain).passes (isName_of_mem hn))

/-- A search for another name passes over the section for the service. -/
theorem passes_writtenEntries (hn : n ∈ settingNames) {values : ServiceName → Option Text}
    (hvalues : ∀ m, ∀ v ∈ values m, Plain v)
    (hne : ∀ m, values m ≠ none → n ≠ Text.ofString m.spelled) :
    Passes n (writtenEntries values) := by
  have hname := isName_of_mem hn
  have hblank := closed_blank.passes hname
  refine (hblank.append (.join (closed_separator.passes hname) ?_)).append hblank
  intro t ht
  obtain ⟨e, he, rfl⟩ := List.mem_map.1 ht
  obtain ⟨m, hm, hspelled⟩ := mem_entriesOf.1 he
  exact passes_entry hn (hspelled ▸ m.spelled_mem) (hvalues m _ hm)
    (hspelled ▸ hne m (by simp [hm]))

/-- A search for a setting that is none of the service's passes over the values of all settings. -/
theorem passes_value (hn : n ∈ settingNames)
    (hother : ∀ m : ServiceName, n ≠ Text.ofString m.spelled) {s : Setting} (hs : s.Plain) :
    Passes n (" " ++ (s.value ++ ",\n")) := by
  have hname := isName_of_mem hn
  have hend : Closed (Text.ofString ",\n") := ⟨by decide, .scalar '\n', rfl, by decide⟩
  cases s with
  | locales ls =>
    have hitems : CodePoint.scalar ':' ∉ Text.join ", " (ls.map quoted) := by
      refine not_mem_join (by decide) fun t ht => ?_
      obtain ⟨v, hv, rfl⟩ := List.mem_map.1 ht
      exact (hs v hv).not_mem_quoted (by decide) (by decide)
    have hopen : CodePoint.scalar ':' ∉ Text.ofString "[" := by decide
    have hclose : CodePoint.scalar ':' ∉ Text.ofString "]" := by decide
    refine (Closed.append_left (by decide) (hend.append_left ?_)).passes hname
    simp [Setting.value, hopen, hclose, hitems]
  | text m v =>
    have hvalue := ((closed_quoted hs).passes hname).append (hend.passes hname)
    rwa [List.append_assoc] at hvalue
  | service values =>
    have hopen : Closed (Text.ofString " \x7b") :=
      ⟨by decide, .scalar '\x7b', rfl, by decide⟩
    have hclose : Closed (Text.ofString "\x7d,\n") :=
      ⟨by decide, .scalar '\n', rfl, by decide⟩
    have hvalue := ((hopen.passes hname).append
      (passes_writtenEntries hn hs fun m _ => hother m)).append (hclose.passes hname)
    have heq : Text.ofString " " ++ (Setting.value (.service values) ++ Text.ofString ",\n") =
        Text.ofString " \x7b" ++ writtenEntries values ++ Text.ofString "\x7d,\n" := by
      rw [Setting.value]
      simp only [List.append_assoc]
      rfl
    rwa [heq]

/-- A search for a setting passes over the lines of all others. -/
theorem passes_line (hn : n ∈ settingNames)
    (hother : ∀ m : ServiceName, n ≠ Text.ofString m.spelled) {l : Line} (hclean : l.Clean)
    (hplain : ∀ s ∈ l.setting?, s.Plain) (hne : ∀ s ∈ l.setting?, n ≠ s.name) :
    Passes n (l.cleared ++ [.scalar '\n']) := by
  have hname := isName_of_mem hn
  cases l with
  | setting indent s =>
    have hspelled := passes_name hname (isName_of_mem s.name_mem)
      (not_suffix_of_ne hn s.name_mem (hne s rfl))
    have hvalue := passes_value hn hother (hplain s rfl)
    have hline := (passes_indent hname hclean).append (hspelled.append hvalue)
    have heq : Line.cleared (.setting indent s) ++ [.scalar '\n'] =
        indent ++ (s.name ++ [.scalar ':'] ++
          (Text.ofString " " ++ (s.value ++ Text.ofString ",\n"))) := by
      rw [Line.cleared, Line.text]
      simp only [List.append_assoc]
      rfl
    rwa [heq]
  | comment indent t =>
    have hfeed : Closed [.scalar '\n'] := ⟨by decide, .scalar '\n', rfl, by decide⟩
    exact hfeed.passes hname

/-! ## Finding a setting -/

/-- The entry of a setting of the service is found behind all others. -/
theorem found_entry (hn : n ∈ settingNames) {es : List (Text × Text)}
    (hes : ∀ e ∈ es, e.1 ∈ settingNames ∧ Plain e.2) (hmem : (n, v) ∈ es)
    (hsame : ∀ e ∈ es, n = e.1 → e.2 = v) (rest : Text) :
    value? n w isQuote quotedText? false (Text.join ", " (es.map writtenEntry) ++ rest) =
      some v := by
  induction es with
  | nil => cases hmem
  | cons e es ih =>
    rw [List.forall_mem_cons] at hes hsame
    obtain ⟨⟨he, hplain⟩, hes⟩ := hes
    by_cases hname : n = e.1
    · obtain ⟨more, hmore⟩ := Text.prefix_join ", " (writtenEntry e) (es.map writtenEntry)
      have hhere : valueHere? e.1 isQuote quotedText?
          (e.1 ++ ":" ++ (" " ++ (quoted e.2 ++ (more ++ rest)))) = some e.2 :=
        valueHere?_quoted hplain.isQuote (hplain.not_mem (by decide))
      rw [List.map_cons, ← hmore, writtenEntry, hname, ← hsame.1 hname]
      simp only [List.append_assoc] at hhere ⊢
      exact value?_of_here hhere
    · have hrest : (n, v) ∈ es := by
        rcases List.mem_cons.1 hmem with rfl | hmem
        · exact absurd rfl hname
        · exact hmem
      have hne : es.map writtenEntry ≠ [] := by
        simpa using List.ne_nil_of_mem hrest
      rw [List.map_cons, Text.join_cons _ _ hne, List.append_assoc, List.append_assoc,
        passes_entry hn he hplain hname, closed_separator.passes (isName_of_mem hn),
        ih hes hrest hsame.2]

/-- The settings of the service are read back from their section. -/
theorem textSetting?_writtenEntries {values : ServiceName → Option Text}
    (hvalues : ∀ m, ∀ v ∈ values m, Plain v) (m : ServiceName) :
    textSetting? (writtenEntries values) (Text.ofString m.spelled) = values m := by
  have hn := m.spelled_mem
  cases hvalue : values m with
  | none =>
    refine (passes_writtenEntries hn hvalues fun m' hm' heq => ?_).value?_eq_none
    exact hm' (ServiceName.spelled_inj heq ▸ hvalue)
  | some v =>
    rw [textSetting?, writtenEntries, List.append_assoc, closed_blank.passes (isName_of_mem hn)]
    refine found_entry hn (fun e he => ?_) (mem_entriesOf.2 ⟨m, hvalue, rfl⟩) (fun e he heq => ?_) _
    · obtain ⟨m', hm', hspelled⟩ := mem_entriesOf.1 he
      exact ⟨hspelled ▸ m'.spelled_mem, hvalues m' _ hm'⟩
    · obtain ⟨m', hm', hspelled⟩ := mem_entriesOf.1 he
      rw [← ServiceName.spelled_inj (heq.trans hspelled.symm), hvalue] at hm'
      exact (Option.some.inj hm').symm

/-- The line of a setting is found behind all others. -/
theorem found_line {s : Setting} {lines : List Line} (hclean : ∀ l ∈ lines, l.Clean)
    (hplain : ∀ l ∈ lines, ∀ s ∈ l.setting?, s.Plain) (hs : ∃ l ∈ lines, l.setting? = some s)
    (hsame : ∀ l ∈ lines, ∀ s' ∈ l.setting?, s.name = s'.name → s' = s)
    (hhere : ∀ rest, valueHere? s.name opens search
      (s.name ++ ":" ++ (" " ++ (s.value ++ rest))) = some v) (rest : Text) :
    value? s.name w opens search false (unlines (lines.map Line.cleared) ++ rest) = some v := by
  induction lines with
  | nil => simp at hs
  | cons l lines ih =>
    rw [List.forall_mem_cons] at hclean hplain hsame
    have hname := isName_of_mem s.name_mem
    rw [List.map_cons, unlines_cons]
    by_cases hfirst : l.setting? = some s
    · cases l with
      | setting indent s' =>
        cases hfirst
        have hvalue := hhere ("," ++ .scalar '\n' :: unlines (lines.map Line.cleared) ++ rest)
        rw [Line.cleared, Line.text]
        simp only [List.append_assoc, List.cons_append] at hvalue ⊢
        rw [passes_indent hname hclean.1]
        exact value?_of_here hvalue
      | comment indent t => cases hfirst
    · have hothers : ∀ s' ∈ l.setting?, s.name ≠ s'.name := fun s' hs' heq =>
        hfirst (hsame.1 s' hs' heq ▸ hs')
      have hpass := passes_line s.name_mem s.name_ne_spelled hclean.1 hplain.1 hothers
      have hrest : ∃ l ∈ lines, l.setting? = some s := by
        obtain ⟨l', hl', heq⟩ := hs
        rcases List.mem_cons.1 hl' with rfl | hl'
        · exact absurd heq hfirst
        · exact ⟨l', hl', heq⟩
      have hskip := hpass w opens search (unlines (lines.map Line.cleared) ++ rest)
      rw [List.append_assoc, List.singleton_append] at hskip
      rw [List.append_assoc, List.cons_append, hskip]
      exact ih hclean.2 hplain.2 hrest hsame.2

/-! ## Scripts -/

/-- The lines of a script list the settings of a configuration, in any order. -/
structure Lists (lines : List Line) (c : Literal) : Prop where
  clean : ∀ l ∈ lines, l.Clean
  arranged : (lines.filterMap Line.setting?).Perm c.settings

/-- Each setting of a plain configuration is plain. -/
theorem Literal.Plain.of_mem {c : Literal} (h : c.Plain) {s : Setting} (hs : s ∈ c.settings) :
    s.Plain := by
  rw [Literal.mem_settings] at hs
  cases s with
  | locales ls => exact h.locales ls hs
  | text m v => exact h.text m v hs
  | service values => exact hs.1 ▸ h.service

section
variable {lines : List Line} {c : Literal} (hplain : c.Plain) (h : Lists lines c)
include hplain h

/-- Without its comments, a script is its header, what is left of its lines, and its end. -/
theorem Lists.withoutComments_eq : withoutComments (written lines) =
    "module.exports = \x7b\n" ++ (unlines (lines.map Line.cleared) ++ "\x7d;\n") :=
  withoutComments_written h.clean fun _ hs => hplain.of_mem (h.arranged.subset hs)

/-- A setting that the configuration has is found with its value. -/
theorem Lists.found {s : Setting} (hs : s ∈ c.settings)
    (hhere : ∀ rest, valueHere? s.name opens search
      (s.name ++ ":" ++ (" " ++ (s.value ++ rest))) = some v) :
    value? s.name w opens search false (withoutComments (written lines)) = some v := by
  have hmem : ∀ l ∈ lines, ∀ s' ∈ l.setting?, s' ∈ c.settings := fun l hl s' hs' =>
    h.arranged.subset (List.mem_filterMap.2 ⟨l, hl, hs'⟩)
  rw [h.withoutComments_eq hplain, closed_header.passes (isName_of_mem s.name_mem)]
  exact found_line h.clean (fun l hl s' hs' => hplain.of_mem (hmem l hl s' hs'))
    (List.mem_filterMap.1 (h.arranged.symm.subset hs))
    (fun l hl s' hs' heq => (Literal.eq_of_name_eq hs (hmem l hl s' hs') heq).symm) hhere _

/-- A setting that the configuration does not have is not found. -/
theorem Lists.not_found (hn : n ∈ settingNames)
    (hother : ∀ m : ServiceName, n ≠ Text.ofString m.spelled)
    (hne : ∀ s ∈ c.settings, n ≠ s.name) :
    value? n w opens search false (withoutComments (written lines)) = none := by
  have hmem : ∀ l ∈ lines, ∀ s' ∈ l.setting?, s' ∈ c.settings := fun l hl s' hs' =>
    h.arranged.subset (List.mem_filterMap.2 ⟨l, hl, hs'⟩)
  have hend : Closed (Text.ofString "\x7d;\n") :=
    ⟨by decide, .scalar '\n', rfl, by decide⟩
  have hlines : ∀ l ∈ lines, Passes n (l.cleared ++ [.scalar '\n']) := fun l hl =>
    passes_line hn hother (h.clean l hl) (fun s' hs' => hplain.of_mem (hmem l hl s' hs'))
      fun s' hs' => hne s' (hmem l hl s' hs')
  have hname := isName_of_mem hn
  rw [h.withoutComments_eq hplain]
  refine ((closed_header.passes hname).append (.append ?_ (hend.passes hname))).value?_eq_none
  rw [unlines, List.flatMap_map, List.flatMap_def]
  exact Passes.flatten (List.forall_mem_map.2 hlines)

/-- A text setting is read as it was written. -/
theorem Lists.textSetting?_eq (m : TextName) :
    textSetting? (withoutComments (written lines)) (Text.ofString m.spelled) = c.text m := by
  cases hvalue : c.text m with
  | none =>
    refine h.not_found hplain m.spelled_mem (fun m' => ?_) fun s hs heq => ?_
    · exact Setting.name_ne_spelled (.text m []) m'
    · rw [Literal.mem_settings] at hs
      cases s with
      | locales ls => exact m.spelled_ne.1 heq
      | text m' v =>
        rw [TextName.spelled_inj heq, hs] at hvalue
        cases hvalue
      | service values => exact m.spelled_ne.2 heq
  | some v =>
    have hv := hplain.text m v hvalue
    exact h.found hplain (s := .text m v) (Literal.mem_settings.2 hvalue) fun rest =>
      valueHere?_quoted hv.isQuote (hv.not_mem (by decide))

/-- The section of the service is found exactly if something was written in it. -/
theorem Lists.section?_eq : section? (withoutComments (written lines)) =
    if entriesOf c.service = [] then none else some (writtenEntries c.service) := by
  split
  next hnone =>
    refine h.not_found hplain (by decide) (Setting.name_ne_spelled (.service c.service))
      fun s hs heq => ?_
    rw [Literal.mem_settings] at hs
    cases s with
    | locales ls => exact locales_ne_service heq.symm
    | text m v => exact m.spelled_ne.2 heq.symm
    | service values => exact hs.2 (hs.1 ▸ hnone)
  next hsome =>
    refine h.found hplain (s := .service c.service) (Literal.mem_settings.2 ⟨rfl, hsome⟩)
      fun rest => ?_
    have hclose : CodePoint.scalar '\x7d' ∉ writtenEntries c.service :=
      not_mem_writtenEntries hplain.service (by decide) (by decide)
    have hvalue : upTo? (· = .scalar '\x7d') (writtenEntries c.service ++ .scalar '\x7d' :: rest) =
        some (writtenEntries c.service) :=
      upTo?_eq (fun d hd => decide_eq_false (ne_of_mem_of_not_mem hd hclose)) (decide_eq_true rfl)
    rw [← hvalue, Setting.value, List.append_assoc, List.append_assoc]
    exact valueHere?_eq (by decide) (by decide)

/-- The list of the locales is found as it was written. -/
theorem Lists.items_eq : value? "locales" false (· = .scalar '[') (upTo? (· = .scalar ']')) false
    (withoutComments (written lines)) = c.locales.map fun ls => Text.join ", " (ls.map quoted) := by
  cases hvalue : c.locales with
  | none =>
    refine h.not_found hplain (by decide) (Setting.name_ne_spelled (.locales [])) fun s hs heq => ?_
    rw [Literal.mem_settings] at hs
    cases s with
    | locales ls =>
      rw [hvalue] at hs
      cases hs
    | text m v => exact m.spelled_ne.1 heq.symm
    | service values => exact locales_ne_service heq
  | some ls =>
    refine h.found hplain (s := .locales ls) (Literal.mem_settings.2 hvalue) fun rest => ?_
    have hclose : CodePoint.scalar ']' ∉ Text.join ", " (ls.map quoted) := by
      refine not_mem_join (by decide) fun t ht => ?_
      obtain ⟨v, hv, rfl⟩ := List.mem_map.1 ht
      exact (hplain.locales ls hvalue v hv).not_mem_quoted (by decide) (by decide)
    have hitems : upTo? (· = .scalar ']')
        (Text.join ", " (ls.map quoted) ++ .scalar ']' :: rest) =
        some (Text.join ", " (ls.map quoted)) :=
      upTo?_eq (fun d hd => decide_eq_false (ne_of_mem_of_not_mem hd hclose)) (decide_eq_true rfl)
    dsimp only
    rw [← hitems, Setting.value, List.append_assoc, List.append_assoc]
    exact valueHere?_eq (by decide) (by decide)

end

/-! ## Locales -/

/-- A space in front of a list does not show in its trimmed items. -/
theorem map_strip_splitOn_blank (t : Text) :
    (Text.splitOn (.scalar ',') (.scalar ' ' :: t)).map Text.strip =
      (Text.splitOn (.scalar ',') t).map Text.strip := by
  obtain ⟨piece, rest, hsplit⟩ := List.exists_cons_of_ne_nil (Text.splitOn_ne_nil (.scalar ',') t)
  have hblank : ∀ c ∈ [CodePoint.scalar ' '], c.isBlank = true := by decide
  have hstrip := Text.strip_between hblank (v := []) nofun piece
  rw [List.append_nil, List.singleton_append] at hstrip
  rw [Text.splitOn, if_neg (by decide), hsplit, List.map_cons, List.map_cons, hstrip]

/-- Blanks behind the commas of a list are stripped off. -/
theorem map_strip_splitOn_join {ts : List Text} (hne : ts ≠ []) (h : ∀ t ∈ ts, .scalar ',' ∉ t) :
    (Text.splitOn (.scalar ',') (Text.join ", " ts)).map Text.strip = ts.map Text.strip := by
  induction ts with
  | nil => exact absurd rfl hne
  | cons t ts ih =>
    rw [List.forall_mem_cons] at h
    by_cases hts : ts = []
    · rw [hts, Text.join_singleton, Text.splitOn_of_not_mem h.1]
    · have hsplit : t ++ Text.ofString ", " ++ Text.join ", " ts =
          t ++ .scalar ',' :: .scalar ' ' :: Text.join ", " ts := List.append_assoc ..
      rw [Text.join_cons _ t hts, hsplit, Text.splitOn_append h.1, List.map_cons,
        map_strip_splitOn_blank, ih hts h.2, List.map_cons]

/-- A quoted text has no blanks at its ends. -/
theorem strip_quoted (v : Text) : (quoted v).strip = quoted v := by
  have hblank : CodePoint.isBlank (.scalar '\'') = false := by decide
  have hlast : (quoted v).getLast? = some (.scalar '\'') := by
    rw [quoted, List.getLast?_append_of_ne_nil _ (by decide)]
    rfl
  refine Text.strip_eq_self (fun c hc => ?_) fun c hc => ?_
  · cases hc
    exact hblank
  · rw [hlast] at hc
    cases hc
    exact hblank

/-- Without its quotes, a quoted text is the text. -/
theorem trim_quoted (hv : Plain v) : Text.trim isQuote (quoted v) = v := by
  have hquotes : ∀ c ∈ Text.ofString "'", isQuote c = true := by decide
  rw [quoted, Text.trim_between hquotes hquotes, Text.trim_eq_self hv.isQuote]

/-- The texts of a written list. -/
theorem items_join {ls : List Text} (h : ∀ l ∈ ls, Plain l) :
    (((Text.splitOn (.scalar ',') (Text.join ", " (ls.map quoted))).map Text.strip).filter
      fun i => !i.isEmpty).map (Text.trim isQuote) = ls := by
  by_cases hne : ls = []
  · rw [hne]
    decide
  · have hcomma : ∀ t ∈ ls.map quoted, .scalar ',' ∉ t := by
      intro t ht
      obtain ⟨v, hv, rfl⟩ := List.mem_map.1 ht
      exact (h v hv).not_mem_quoted (by decide) (by decide)
    have hstrip : (ls.map quoted).map Text.strip = ls.map quoted := by
      rw [List.map_map]
      exact List.map_congr_left fun v _ => strip_quoted v
    have hkept : (ls.map quoted).filter (fun i => !i.isEmpty) = ls.map quoted := by
      rw [List.filter_eq_self, List.forall_mem_map]
      exact fun v _ => rfl
    have htrim : (ls.map quoted).map (Text.trim isQuote) = ls.map id := by
      rw [List.map_map]
      exact List.map_congr_left fun v hv => trim_quoted (h v hv)
    rw [map_strip_splitOn_join (by simpa using hne) hcomma, hstrip, hkept, htrim, List.map_id]

/-! ## The whole script -/

/-- Settings that are read one by one are read together in the order of their names. -/
theorem settings_eq {ι : Type} {spelled : ι → String} {values : ι → Option Text}
    (h : ∀ m, textSetting? t (Text.ofString (spelled m)) = values m) (all : List ι) :
    settings t (all.map spelled) =
      all.filterMap fun m => (values m).map fun v => (Text.ofString (spelled m), .str v) := by
  rw [settings, List.filterMap_map]
  exact List.filterMap_congr fun m _ => congrArg (Option.map _) (h m)

section
variable {lines : List Line} {c : Literal} (hplain : c.Plain) (h : Lists lines c)
include hplain h

/-- The locales are read as they were written. -/
theorem Lists.locales?_eq : locales? (withoutComments (written lines)) = c.locales := by
  rw [locales?, h.items_eq hplain]
  cases hvalue : c.locales with
  | none => rfl
  | some ls => exact congrArg some (items_join (hplain.locales ls hvalue))

/-- The settings of the service are read as they were written. -/
theorem Lists.service_eq :
    (section? (withoutComments (written lines))).map
        (fun s => settings s ["provider", "apiKey", "model"]) =
      if entriesOf c.service = [] then none
      else some ((entriesOf c.service).map fun e => (e.1, .str e.2)) := by
  rw [h.section?_eq hplain]
  split
  next => rfl
  next =>
    have hsettings := settings_eq (textSetting?_writtenEntries hplain.service) ServiceName.all
    refine congrArg some (hsettings.trans ?_)
    rw [entriesOf, List.map_filterMap]
    simp only [Option.map_map, Function.comp_def]

/-- The text settings are read as they were written, in the order of their names. -/
theorem Lists.texts_eq : settings (withoutComments (written lines)) ["defaultLocale",
    "functionName", "componentName", "sourceDir", "outputDir", "keyPrefix", "importSource"] =
    (TextName.all.filterMap fun m => (c.text m).map (.text m)).map Setting.field := by
  refine (settings_eq (h.textSetting?_eq hplain) TextName.all).trans ?_
  rw [List.map_filterMap]
  simp only [Option.map_map]
  rfl

end

/-- A script that lists the settings of a configuration, in any order and between any comments, is
read as exactly these settings. -/
theorem read_written {c : Literal} {lines : List Line} (hplain : c.Plain) (h : Lists lines c) :
    read (written lines) = c.settings.map Setting.field := by
  rw [read, h.locales?_eq hplain, h.service_eq hplain, h.texts_eq hplain, Literal.settings,
    List.map_append, List.map_append]
  congr 2
  · cases c.locales <;> rfl
  · cases hentries : entriesOf c.service with
    | nil => rfl
    | cons e es =>
      rw [if_neg (List.cons_ne_nil e es), if_neg (List.cons_ne_nil e es), List.map_singleton,
        Setting.field, hentries]
      rfl

/-- A configuration with a setting of every kind. -/
def sample : Literal where
  locales := some ["en", "pt BR"]
  text
    | .defaultLocale => some "en"
    | .sourceDir => some "./app"
    | _ => none
  service
    | .provider => some "gemini"
    | .model => none
    | .apiKey => some "  a/b  "

/-- A comment may hold a setting, and the lines may be in any order. -/
theorem read_written_sample :
    let lines : List Line := [.comment [] " settings", .setting "  " (.service sample.service),
      .setting "  " (.text .sourceDir "./app"), .comment "  " " defaultLocale: 'de',",
      .setting [] (.text .defaultLocale "en"), .setting "  " (.locales ["en", "pt BR"])]
    let fields : List (Text × Json) := [("locales", .arr [.str "en", .str "pt BR"]),
      ("defaultLocale", .str "en"), ("sourceDir", .str "./app"),
      ("ai", .obj [("provider", .str "gemini"), ("apiKey", .str "  a/b  ")])]
    sample.Plain ∧ Lists lines sample ∧ read (written lines) = fields := by
  intro lines fields
  have hplain : sample.Plain := by
    refine ⟨by decide, fun n => ?_, fun n => ?_⟩
    · cases n <;> decide
    · cases n <;> decide
  have hlists : Lists lines sample := ⟨by decide, List.reverse_perm sample.settings⟩
  exact ⟨hplain, hlists, read_written hplain hlists⟩

end Localization.Script
