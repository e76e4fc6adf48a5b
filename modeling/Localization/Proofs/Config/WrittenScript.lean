import Mathlib.Data.List.Perm.Basic
import Localization.Proofs.Config.Search
import Localization.Proofs.Text.Words

/-!
# Scripts that write their settings out

A script that exports an object with its settings written out has one line for each of them, and
comments may stand between the lines (`written`). A configuration gives one setting for every name
that it has a value for (`Literal.eq_of_name_eq`), and no name is the end of another one
(`not_suffix_of_ne`). Texts without the marks that a script is written with keep to their lines, so
what is left without the comments are the lines of the settings (`withoutComments_written`).
-/

namespace Localization.Script

/-! ## Settings -/

/-- The settings that are texts. -/
inductive TextName where
  | defaultLocale
  | functionName
  | componentName
  | sourceDir
  | outputDir
  | keyLead
  | importSource

/-- The settings of the service. -/
inductive ServiceName where
  | provider
  | apiKey
  | model

namespace TextName

/-- How a setting is called in a script. -/
def spelled : TextName → String
  | defaultLocale => "defaultLocale"
  | functionName => "functionName"
  | componentName => "componentName"
  | sourceDir => "sourceDir"
  | outputDir => "outputDir"
  | keyLead => "keyPrefix"
  | importSource => "importSource"

/-- All settings that are texts. -/
def all : List TextName :=
  [defaultLocale, functionName, componentName, sourceDir, outputDir, keyLead, importSource]

/-- The list of the text settings is complete. -/
theorem mem_all (n : TextName) : n ∈ all := by
  cases n <;> simp [all]

end TextName

namespace ServiceName

/-- How a setting of the service is called in a script. -/
def spelled : ServiceName → String
  | provider => "provider"
  | apiKey => "apiKey"
  | model => "model"

/-- All settings of the service. -/
def all : List ServiceName := [provider, apiKey, model]

/-- The list of the settings of a service is complete. -/
theorem mem_all (n : ServiceName) : n ∈ all := by
  cases n <;> simp [all]

end ServiceName

/-- The settings of the service that have values. -/
def entriesOf (values : ServiceName → Option Text) : List (Text × Text) :=
  ServiceName.all.filterMap fun n => (values n).map fun v => (Text.ofString n.spelled, v)

/-- A setting with its value. -/
inductive Setting where
  | locales (ls : List Text)
  | text (name : TextName) (value : Text)
  | service (values : ServiceName → Option Text)

/-- What a setting is called. -/
def Setting.name : Setting → Text
  | locales _ => "locales"
  | text n _ => Text.ofString n.spelled
  | service _ => "ai"

/-- What a setting says in a document. -/
def Setting.field : Setting → Text × Json
  | locales ls => ("locales", .arr (ls.map .str))
  | text n v => (Text.ofString n.spelled, .str v)
  | service values => ("ai", .obj ((entriesOf values).map fun e => (e.1, .str e.2)))

/-- A configuration: its settings that have values. -/
structure Literal where
  locales : Option (List Text)
  text : TextName → Option Text
  service : ServiceName → Option Text

/-- The settings of a configuration; a section without settings is none. -/
def Literal.settings (c : Literal) : List Setting :=
  c.locales.toList.map .locales ++ TextName.all.filterMap (fun n => (c.text n).map (.text n)) ++
    if entriesOf c.service = [] then [] else [.service c.service]

/-! ## Writing -/

/-- A setting in the section for the service. -/
def writtenEntry (e : Text × Text) : Text := e.1 ++ ":" ++ (" " ++ quoted e.2)

/-- What stands in the section for the service. -/
def writtenEntries (values : ServiceName → Option Text) : Text :=
  " " ++ Text.join ", " ((entriesOf values).map writtenEntry) ++ " "

/-- The value of a setting as it is written. -/
def Setting.value : Setting → Text
  | locales ls => "[" ++ Text.join ", " (ls.map quoted) ++ "]"
  | text _ v => quoted v
  | service values => "\x7b" ++ writtenEntries values ++ "\x7d"

/-- A line of a script: a setting or a comment, further in by some blanks. -/
inductive Line where
  | setting (indent : Text) (s : Setting)
  | comment (indent text : Text)

/-- The setting of a line. -/
def Line.setting? : Line → Option Setting
  | setting _ s => some s
  | comment .. => none

/-- The text of a line. -/
def Line.text : Line → Text
  | setting indent s => indent ++ (s.name ++ ":" ++ (" " ++ (s.value ++ ",")))
  | comment indent t => indent ++ ("//" ++ t)

/-- Lines with a line feed behind each. -/
def unlines (ts : List Text) : Text := ts.flatMap (· ++ [.scalar '\n'])

/-- A script with these lines in its object. -/
def written (ls : List Line) : Text :=
  unlines (Text.ofString "module.exports = \x7b" :: ls.map Line.text ++ [Text.ofString "\x7d;"])

/-! ## Texts without marks -/

/-- The characters that divide what is written in a script. -/
def marks : Text := "'\":,[]\x7b\x7d\n"

/-- A text that can be written between quotes as it is: it has no quotes, colons, commas, brackets,
braces and line feeds. -/
def Plain (t : Text) : Prop := ∀ c ∈ t, c ∉ marks

instance (t : Text) : Decidable (Plain t) := List.decidableBAll (fun c => c ∉ marks) t

/-- All texts of a configuration can be written. -/
structure Literal.Plain (c : Literal) : Prop where
  locales : ∀ ls ∈ c.locales, ∀ l ∈ ls, Script.Plain l
  text : ∀ n, ∀ v ∈ c.text n, Script.Plain v
  service : ∀ n, ∀ v ∈ c.service n, Script.Plain v

/-- All texts of a setting can be written. -/
def Setting.Plain : Setting → Prop
  | locales ls => ∀ l ∈ ls, Script.Plain l
  | text _ v => Script.Plain v
  | service values => ∀ n, ∀ v ∈ values n, Script.Plain v

/-- Blanks on one line. -/
def IsIndent (t : Text) : Prop := ∀ c ∈ t, c.isBlank = true ∧ c ≠ .scalar '\n'

instance (t : Text) : Decidable (IsIndent t) :=
  List.decidableBAll (fun c : CodePoint => c.isBlank = true ∧ c ≠ .scalar '\n') t

/-- A line is indented by blanks, and a comment ends with its line. -/
def Line.Clean : Line → Prop
  | setting indent _ => IsIndent indent
  | comment indent t => IsIndent indent ∧ .scalar '\n' ∉ t

instance : (l : Line) → Decidable l.Clean
  | .setting indent _ => inferInstanceAs (Decidable (IsIndent indent))
  | .comment indent t => inferInstanceAs (Decidable (IsIndent indent ∧ .scalar '\n' ∉ t))

section
variable {t v : Text} {c : CodePoint}

/-- A plain text has no marks. -/
theorem Plain.not_mem (h : Plain t) (hc : c ∈ marks) : c ∉ t := fun hmem => h c hmem hc

/-- A plain text has no quotes. -/
theorem Plain.isQuote (h : Plain t) : ∀ c ∈ t, Script.isQuote c = false := by
  intro c hc
  have hsingle : c ≠ .scalar '\'' := fun heq => h c hc (heq ▸ by decide)
  have hdouble : c ≠ .scalar '"' := fun heq => h c hc (heq ▸ by decide)
  simp [Script.isQuote, hsingle, hdouble]

/-- Quotes put no other mark around a text. -/
theorem Plain.not_mem_quoted (h : Plain t) (hc : c ∈ marks) (hquote : c ≠ .scalar '\'') :
    c ∉ quoted t := by
  have hmark : Text.ofString "'" = [.scalar '\''] := rfl
  simp [quoted, hmark, hquote, h.not_mem hc]

/-- What is in none of the texts, and not in the separator, is not in the joined text. -/
theorem not_mem_join {sep : Text} {ts : List Text} (hsep : c ∉ sep) (h : ∀ t ∈ ts, c ∉ t) :
    c ∉ Text.join sep ts := by
  have hne : ∀ d ∈ Text.join sep ts, d ≠ c :=
    (Text.forall_mem_join (fun d hd => ne_of_mem_of_not_mem hd hsep) ts).2 fun t ht d hd =>
      ne_of_mem_of_not_mem hd (h t ht)
  exact fun hmem => hne c hmem rfl

end

/-! ## Names -/

/-- The names of all settings. -/
def settingNames : List Text :=
  ("locales" :: "ai" :: TextName.all.map TextName.spelled ++
    ServiceName.all.map ServiceName.spelled).map Text.ofString

/-- The names of settings are names. -/
theorem isName_of_mem {n : Text} (h : n ∈ settingNames) : IsName n := by
  have hall : ∀ n ∈ settingNames, n ≠ [] ∧ ∀ c ∈ n, c.isWord = true := by decide
  exact ⟨(hall n h).1, (hall n h).2⟩

/-- No name of a setting is the end of another one. -/
theorem not_suffix_of_ne {n m : Text} (hn : n ∈ settingNames) (hm : m ∈ settingNames)
    (hne : n ≠ m) : ¬ n <:+ m := by
  have hall : ∀ n ∈ settingNames, ∀ m ∈ settingNames, n <:+ m → n = m := by decide
  exact fun hsuffix => hne (hall n hn m hm hsuffix)

/-- A text setting has one of the names of settings. -/
theorem TextName.spelled_mem (n : TextName) : Text.ofString n.spelled ∈ settingNames := by
  cases n <;> decide

/-- A setting of the service has one of the names of settings. -/
theorem ServiceName.spelled_mem (n : ServiceName) : Text.ofString n.spelled ∈ settingNames := by
  cases n <;> decide

/-- Every setting has one of the names of settings. -/
theorem Setting.name_mem (s : Setting) : s.name ∈ settingNames := by
  cases s with
  | locales ls => exact (by decide : Text.ofString "locales" ∈ settingNames)
  | text n v => exact n.spelled_mem
  | service values => exact (by decide : Text.ofString "ai" ∈ settingNames)

/-- Text settings are told apart by their names. -/
theorem TextName.spelled_inj {n m : TextName}
    (h : Text.ofString n.spelled = Text.ofString m.spelled) : n = m := by
  cases n <;> cases m <;> first | rfl | exact absurd h (by decide)

/-- The settings of the service are told apart by their names. -/
theorem ServiceName.spelled_inj {n m : ServiceName}
    (h : Text.ofString n.spelled = Text.ofString m.spelled) : n = m := by
  cases n <;> cases m <;> first | rfl | exact absurd h (by decide)

/-- The entries of a section are the settings with a value, each under its name. -/
theorem mem_entriesOf {values : ServiceName → Option Text} {e : Text × Text} :
    e ∈ entriesOf values ↔ ∃ n, values n = some e.2 ∧ Text.ofString n.spelled = e.1 := by
  obtain ⟨name, v⟩ := e
  simp [entriesOf, ServiceName.mem_all]

/-- The settings of a configuration are those that it gives. -/
theorem Literal.mem_settings {c : Literal} {s : Setting} : s ∈ c.settings ↔
    match s with
    | .locales ls => c.locales = some ls
    | .text n v => c.text n = some v
    | .service values => c.service = values ∧ entriesOf values ≠ [] := by
  have hservice : s ∈ (if entriesOf c.service = [] then [] else [Setting.service c.service]) ↔
      entriesOf c.service ≠ [] ∧ s = .service c.service := by
    split <;> simp [*]
  rw [Literal.settings, List.mem_append, List.mem_append, hservice]
  cases s with
  | locales ls => simp
  | text n v => simp [TextName.mem_all]
  | service values =>
    simp only [Option.mem_toList, List.mem_map, reduceCtorEq, and_false, exists_false,
      List.mem_filterMap, Option.map_eq_some_iff, false_or, Setting.service.injEq]
    exact ⟨fun h => ⟨h.2.symm, h.2 ▸ h.1⟩, fun h => ⟨h.1 ▸ h.2, h.1.symm⟩⟩

/-- No text setting has the name of the locales or of the service. -/
theorem TextName.spelled_ne (n : TextName) : Text.ofString n.spelled ≠ Text.ofString "locales" ∧
    Text.ofString n.spelled ≠ Text.ofString "ai" := by
  cases n <;> decide

/-- The locales and the service have different names. -/
theorem locales_ne_service : Text.ofString "locales" ≠ Text.ofString "ai" := by decide

/-- A configuration has no two settings of one name. -/
theorem Literal.eq_of_name_eq {c : Literal} {s s' : Setting} (hs : s ∈ c.settings)
    (hs' : s' ∈ c.settings) (h : s.name = s'.name) : s = s' := by
  rw [mem_settings] at hs hs'
  cases s with
  | locales ls =>
    cases s' with
    | locales ls' => rw [Option.some.inj (hs.symm.trans hs')]
    | text n v => exact absurd h.symm n.spelled_ne.1
    | service values => exact absurd h locales_ne_service
  | text n v =>
    cases s' with
    | locales ls => exact absurd h n.spelled_ne.1
    | text m u =>
      cases TextName.spelled_inj h
      rw [Option.some.inj (hs.symm.trans hs')]
    | service values => exact absurd h n.spelled_ne.2
  | service values =>
    cases s' with
    | locales ls => exact absurd h.symm locales_ne_service
    | text n v => exact absurd h.symm n.spelled_ne.2
    | service values' => rw [← hs.1, ← hs'.1]

/-- The settings of the service have names of their own. -/
theorem Setting.name_ne_spelled (s : Setting) (n : ServiceName) :
    s.name ≠ Text.ofString n.spelled := by
  have hall : ∀ m ∈ (["locales", "ai"] : List String) ++ TextName.all.map TextName.spelled,
      Text.ofString m ≠ Text.ofString n.spelled := by
    cases n <;> decide
  cases s with
  | locales ls => exact hall "locales" (by decide)
  | text m v => exact hall m.spelled (by cases m <;> decide)
  | service values => exact hall "ai" (by decide)

/-! ## Characters of lines -/

section
variable {s : Setting} {l : Line} {c : CodePoint} {indent t : Text}

/-- No mark is a word character. -/
theorem isWord_of_mem_marks : ∀ c ∈ marks, c.isWord = false := by decide

/-- The section for the service has no mark but those that it is written with. -/
theorem not_mem_writtenEntries {values : ServiceName → Option Text}
    (hvalues : ∀ n, ∀ v ∈ values n, Plain v) (hc : c ∈ marks) (hother : c ∉ ("':, " : Text)) :
    c ∉ writtenEntries values := by
  have hword := isWord_of_mem_marks c hc
  have hblank : c ∉ (" " : Text) := fun h =>
    hother ((by decide : Text.ofString " " ⊆ Text.ofString "':, ") h)
  have hsep : c ∉ (", " : Text) := fun h =>
    hother ((by decide : Text.ofString ", " ⊆ Text.ofString "':, ") h)
  have hcolon : c ∉ (":" : Text) := fun h =>
    hother ((by decide : Text.ofString ":" ⊆ Text.ofString "':, ") h)
  have hquote : c ≠ .scalar '\'' := fun h => hother (h ▸ by decide)
  have hentries : ∀ t ∈ (entriesOf values).map writtenEntry, c ∉ t := by
    intro t ht
    obtain ⟨e, he, rfl⟩ := List.mem_map.1 ht
    obtain ⟨n, hn, hname⟩ := mem_entriesOf.1 he
    have hfront : c ∉ e.1 := hname ▸ (isName_of_mem n.spelled_mem).not_mem hword
    have hback := (hvalues n e.2 hn).not_mem_quoted hc hquote
    simp [writtenEntry, hfront, hcolon, hblank, hback]
  simp [writtenEntries, hblank, not_mem_join hsep hentries]

/-- The value of a plain setting is written on one line. -/
theorem feed_not_mem_value (hs : s.Plain) : .scalar '\n' ∉ s.value := by
  have hfeed : CodePoint.scalar '\n' ∈ marks := by decide
  have hsep : CodePoint.scalar '\n' ∉ Text.ofString ", " := by decide
  cases s with
  | locales ls =>
    have hitems : ∀ t ∈ ls.map quoted, .scalar '\n' ∉ t := by
      intro t ht
      obtain ⟨v, hv, rfl⟩ := List.mem_map.1 ht
      exact Plain.not_mem_quoted (hs v hv) hfeed (by decide)
    have hjoin := not_mem_join hsep hitems
    have hopen : CodePoint.scalar '\n' ∉ Text.ofString "[" := by decide
    have hclose : CodePoint.scalar '\n' ∉ Text.ofString "]" := by decide
    simp [Setting.value, hopen, hclose, hjoin]
  | text n v => exact Plain.not_mem_quoted hs hfeed (by decide)
  | service values =>
    have hentries := not_mem_writtenEntries hs hfeed (by decide)
    have hopen : CodePoint.scalar '\n' ∉ Text.ofString "\x7b" := by decide
    have hclose : CodePoint.scalar '\n' ∉ Text.ofString "\x7d" := by decide
    simp [Setting.value, hopen, hclose, hentries]

/-- An indent stays on its line. -/
theorem feed_not_mem_indent (h : IsIndent indent) : .scalar '\n' ∉ indent :=
  fun hmem => (h _ hmem).2 rfl

/-- A clean line with a plain setting is one line. -/
theorem Line.feed_not_mem_text (hl : l.Clean) (hs : ∀ s ∈ l.setting?, s.Plain) :
    .scalar '\n' ∉ l.text := by
  cases l with
  | setting indent s =>
    have hname := (isName_of_mem s.name_mem).not_mem
      (isWord_of_mem_marks (.scalar '\n') (by decide))
    have hvalue := feed_not_mem_value (hs s rfl)
    have hcolon : CodePoint.scalar '\n' ∉ Text.ofString ":" := by decide
    have hblank : CodePoint.scalar '\n' ∉ Text.ofString " " := by decide
    have hcomma : CodePoint.scalar '\n' ∉ Text.ofString "," := by decide
    simp [Line.text, feed_not_mem_indent hl, hname, hcolon, hblank, hvalue, hcomma]
  | comment indent t =>
    have hslashes : CodePoint.scalar '\n' ∉ Text.ofString "//" := by decide
    simp [Line.text, feed_not_mem_indent hl.1, hslashes, hl.2]

/-! ## Comments -/

/-- A line without its comment. -/
def uncommented (t : Text) : Text := if isComment t then [] else t

/-- The first line ends in front of the others. -/
theorem unlines_cons (t : Text) (ts : List Text) :
    unlines (t :: ts) = t ++ .scalar '\n' :: unlines ts := by
  rw [unlines, List.flatMap_cons, List.append_assoc, List.singleton_append, unlines]

/-- Cut at its line feeds, a text of lines gives the lines and nothing behind the last one. -/
theorem splitOn_unlines {ts : List Text} (hfeed : ∀ t ∈ ts, .scalar '\n' ∉ t) :
    Text.splitOn (.scalar '\n') (unlines ts) = ts ++ [[]] := by
  induction ts with
  | nil => rfl
  | cons t ts ih =>
    rw [List.forall_mem_cons] at hfeed
    rw [unlines_cons, Text.splitOn_append hfeed.1, ih hfeed.2, List.cons_append]

/-- Lines with nothing behind the last one are joined to the text of the lines. -/
theorem join_lines (ts : List Text) : Text.join "\n" (ts ++ [[]]) = unlines ts := by
  induction ts with
  | nil => rfl
  | cons t ts ih =>
    rw [List.cons_append, Text.join_cons _ t (by simp), ih, unlines_cons, List.append_assoc]
    rfl

/-- Where no line is blank, every comment leaves an empty line. -/
theorem dropComments_lines {ts : List Text}
    (hblank : ∀ t ∈ ts, t.all CodePoint.isBlank = false) :
    dropComments [] (ts ++ [[]]) = ts.map uncommented ++ [[]] := by
  induction ts with
  | nil => rfl
  | cons t ts ih =>
    rw [List.forall_mem_cons] at hblank
    rw [List.cons_append, dropComments, hblank.1, ih hblank.2, List.map_cons, List.cons_append,
      uncommented]
    split
    next => rfl
    next => rfl

/-- Comments are removed line by line. -/
theorem withoutComments_unlines {ts : List Text} (hfeed : ∀ t ∈ ts, .scalar '\n' ∉ t)
    (hblank : ∀ t ∈ ts, t.all CodePoint.isBlank = false) :
    withoutComments (unlines ts) = unlines (ts.map uncommented) := by
  rw [withoutComments, splitOn_unlines hfeed, dropComments_lines hblank, join_lines]

/-- The first character of a name. -/
theorem Setting.exists_name_eq (s : Setting) : ∃ c rest, s.name = c :: rest ∧
    c.isBlank = false ∧ c ≠ .scalar '/' := by
  have hname := isName_of_mem s.name_mem
  obtain ⟨c, rest, heq⟩ := List.exists_cons_of_ne_nil hname.ne_nil
  have hword := hname.word c (heq ▸ List.mem_cons_self)
  refine ⟨c, rest, heq, ?_, ?_⟩
  · cases hblank : c.isBlank with
    | true => exact absurd hword (by simp [CodePoint.isWord_of_isBlank hblank])
    | false => rfl
  · rintro rfl
    exact absurd hword (by decide)

/-- What is left of a line without its comment. -/
def Line.cleared : Line → Text
  | setting indent s => Line.text (setting indent s)
  | comment .. => []

/-- No line is blank. -/
theorem Line.not_blank (l : Line) : l.text.all CodePoint.isBlank = false := by
  cases l with
  | setting indent s =>
    obtain ⟨c, rest, hname, hblank, -⟩ := s.exists_name_eq
    simp [Line.text, hname, hblank]
  | comment indent t =>
    have hslash : CodePoint.isBlank (.scalar '/') = false := by decide
    have hmem : CodePoint.scalar '/' ∈ indent ++ (Text.ofString "//" ++ t) :=
      List.mem_append_right _ (List.mem_append_left _ (by decide))
    exact List.all_eq_false.2 ⟨_, hmem, by simp [hslash]⟩

/-- Without its comment, a clean line is what is left of it. -/
theorem Line.uncommented_text (hl : l.Clean) : uncommented l.text = l.cleared := by
  cases l with
  | setting indent s =>
    obtain ⟨c, rest, hname, hblank, hslash⟩ := s.exists_name_eq
    have hcode : isComment (Line.text (setting indent s)) = false := by
      rw [isComment, Line.text, hname, List.dropWhile_append_of_pos fun d hd => (hl d hd).1,
        List.cons_append, List.cons_append, List.dropWhile_cons_of_neg (by simp [hblank])]
      exact congrArg Option.isSome (if_neg (Ne.symm hslash))
    rw [uncommented, hcode, if_neg Bool.false_ne_true, Line.cleared]
  | comment indent t =>
    have hcomment : isComment (Line.text (comment indent t)) = true := by
      rw [isComment, Line.text, List.dropWhile_append_of_pos fun d hd => (hl.1 d hd).1]
      rfl
    rw [uncommented, hcomment, if_pos rfl, Line.cleared]

/-- The text of two lists of lines is that of the first and then of the second. -/
theorem unlines_append (ts us : List Text) : unlines (ts ++ us) = unlines ts ++ unlines us :=
  List.flatMap_append

/-- A script without its comments has the other lines, with empty ones in place of the comments. -/
theorem withoutComments_written {ls : List Line} (hclean : ∀ l ∈ ls, l.Clean)
    (hplain : ∀ s ∈ ls.filterMap Line.setting?, s.Plain) :
    withoutComments (written ls) =
      "module.exports = \x7b\n" ++ (unlines (ls.map Line.cleared) ++ "\x7d;\n") := by
  have hlines : ∀ l ∈ ls, .scalar '\n' ∉ l.text := fun l hl =>
    l.feed_not_mem_text (hclean l hl) fun s hs => hplain s (List.mem_filterMap.2 ⟨l, hl, hs⟩)
  rw [written, withoutComments_unlines, List.map_append, List.map_cons, List.map_map,
    List.map_congr_left fun l hl => l.uncommented_text (hclean l hl), unlines_append]
  · rfl
  · exact List.forall_mem_append.2 ⟨List.forall_mem_cons.2 ⟨by decide,
      List.forall_mem_map.2 hlines⟩, List.forall_mem_singleton.2 (by decide)⟩
  · exact List.forall_mem_append.2 ⟨List.forall_mem_cons.2 ⟨by decide,
      List.forall_mem_map.2 fun l _ => l.not_blank⟩, List.forall_mem_singleton.2 (by decide)⟩

end

end Localization.Script
