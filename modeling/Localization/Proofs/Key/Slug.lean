import Localization.Proofs.Digest
import Localization.Proofs.Key.Requests
import Localization.Proofs.Text.Encodable
import Localization.Proofs.Text.Words

/-!
# Slugs and the ends of keys

A slug can be made in two ways. The lower-case text is reduced to what is kept and to blanks,
stripped, and then every run of blanks becomes one underscore; or its words are taken first, each is
reduced, and those of which something is left are joined by underscores. Both give the slug
(`slug_from_words`). They need not meet a word at the same time: a word of which nothing is left
leaves a longer run of blanks in the first way, and goes missing from the list in the second. So a
slug consists of words with single underscores between them, whatever the text was. A key ends in
the slug of its text, or in six digits of its digest where the slug is empty.
-/

namespace Localization.Key

/-- What the words of a slug are made of: the letters `a` to `z` and the digits. -/
def isSlugPoint (c : CodePoint) : Bool := c.isAsciiLower || c.isAsciiDigit

/-- A slug consists of words with single underscores between them; it may have none. -/
def IsSlug (s : Text) : Prop :=
  ∃ ws : List Text, (∀ w ∈ ws, w ≠ [] ∧ ∀ c ∈ w, isSlugPoint c = true) ∧ s = Text.join "_" ws

/-- The slug of a text joins what is left of its words. -/
theorem slug_eq_join (t : Text) :
    slug t = Text.join "_" (Text.reduced isSlugPoint t.lower.words) :=
  congrArg (Text.join "_") (Text.wordsBy_filter CodePoint.isBlank isSlugPoint t.lower)

/-- The slug of a text is what is kept of it, stripped and with its runs of blanks replaced. -/
theorem slug_eq_replaceRuns (t : Text) :
    slug t =
      Text.replaceRuns CodePoint.isBlank "_" (Text.strip (List.filter isKept t.lower)) :=
  (Text.replaceRuns_strip "_" _).symm

/-- What `slug` returns is a slug. -/
theorem isSlug_slug (t : Text) : IsSlug (slug t) :=
  ⟨_, fun _ hw => Text.of_mem_reduced hw, slug_eq_join t⟩

/-- A short mark consists of six digits. -/
theorem of_shortMark {t mark : Text} (h : shortMark t = .ok mark) :
    mark.length = 6 ∧ ∀ c ∈ mark, c ∈ Digest.hexDigits := by
  obtain ⟨digits, hdigits, hmark⟩ := bind_eq_ok.1 h
  obtain ⟨bytes, -, rfl⟩ := map_eq_ok.1 hdigits
  obtain rfl : (Digest.Sha1.hexDigest bytes).take 6 = mark := Except.ok.inj hmark
  constructor
  · rw [List.length_take, Digest.Sha1.hexDigest, Digest.length_hexOf]
    rfl
  · exact fun c hc => Digest.mem_hexOf (List.mem_of_mem_take hc)

/-- What the keys of a file begin with: the lead, if there is one, and the stem of the file. -/
def front (file lead : Text) : Text :=
  let head : Text := if lead.isEmpty then [] else lead ++ "_"
  head ++ (Path.ofText file).stem

/-- A key ends in the slug of its text, or in the text's mark. -/
theorem exists_tail {t : Text} (h : t.Encodable) (file lead : Text) :
    ∃ tail, generate t file lead = .ok (front file lead ++ "_" ++ tail) ∧
      (tail = slug t ∧ tail ≠ [] ∨ slug t = [] ∧ shortMark t = .ok tail) := by
  unfold generate
  cases hslug : slug t with
  | nil =>
    obtain ⟨mark, hmark⟩ := exists_shortMark h
    rw [hmark]
    exact ⟨mark, rfl, .inr ⟨rfl, rfl⟩⟩
  | cons c s => exact ⟨c :: s, rfl, .inl ⟨rfl, List.cons_ne_nil c s⟩⟩

/-- **A slug joins words.** The slug of a text joins, with single underscores, what is left of the
words of the lower-case text when all but letters and digits of ASCII is dropped from each; it is
what dropping them first, stripping, and replacing the runs of blanks gives. So it consists of
non-empty words of such letters and digits. Every text with a UTF-8 form has a key in every file,
and behind an underscore this key ends in the slug, or in six hexadecimal digits if the slug is
empty. -/
theorem slug_from_words (t : Text) :
    slug t = Text.join "_" (Text.reduced isSlugPoint t.lower.words) ∧
    slug t =
      Text.replaceRuns CodePoint.isBlank "_" (Text.strip (List.filter isKept t.lower)) ∧
    IsSlug (slug t) ∧
    (t.Encodable → ∀ file lead, ∃ tail,
      generate t file lead = .ok (front file lead ++ "_" ++ tail) ∧
      (tail = slug t ∧ tail ≠ [] ∨
        slug t = [] ∧ tail.length = 6 ∧ ∀ c ∈ tail, c ∈ Digest.hexDigits)) := by
  refine ⟨slug_eq_join t, slug_eq_replaceRuns t, isSlug_slug t, fun h file lead => ?_⟩
  obtain ⟨tail, hkey, hslug | ⟨hslug, hmark⟩⟩ := exists_tail h file lead
  · exact ⟨tail, hkey, .inl hslug⟩
  · exact ⟨tail, hkey, .inr ⟨hslug, of_shortMark hmark⟩⟩

/-- Words between blanks of several sorts. One of them vanishes, one has a dotted capital I, which
becomes two code points, and one is a Kelvin sign, which becomes a letter of ASCII. -/
def blanks : Text := " \u2014\u00a0\u0130stanbul:\u2003\u212a\x1c2! "

/-- The slug and the keys of a text with blanks of many kinds, and of a text without any word. -/
theorem slug_from_words_blanks :
    blanks.Encodable ∧ Text.reduced isSlugPoint blanks.lower.words = ["istanbul", "k", "2"] ∧
    slug blanks = "istanbul_k_2" ∧
    generate blanks "src/App.tsx" "common" = .ok "common_App_istanbul_k_2" ∧
    Text.Encodable "こんにちは" ∧ slug "こんにちは" = [] ∧
    ∃ tail, generate "こんにちは" "src/App.tsx" "common" = .ok ("common_App_" ++ tail) ∧
      tail.length = 6 ∧ ∀ c ∈ tail, c ∈ Digest.hexDigits := by
  have hblanks : blanks.Encodable := Text.encodable_ofChars _
  have hgreeting : Text.Encodable "こんにちは" := Text.encodable_ofChars _
  have hwords : Text.reduced isSlugPoint blanks.lower.words = ["istanbul", "k", "2"] := by
    decide +kernel
  have hempty : slug "こんにちは" = [] := by decide +kernel
  obtain ⟨hjoin, -, -, hkey⟩ := slug_from_words blanks
  have hslug : slug blanks = "istanbul_k_2" := by
    rw [hjoin, hwords]
    decide
  have hfront : front "src/App.tsx" "common" ++ "_" = "common_App_" := by decide +kernel
  obtain ⟨tail, hgenerated, ⟨rfl, -⟩ | ⟨hnil, -⟩⟩ := hkey hblanks "src/App.tsx" "common"
  case inr =>
    rw [hslug] at hnil
    cases hnil
  obtain ⟨tail', hgenerated', ⟨rfl, hne⟩ | ⟨-, hdigits⟩⟩ :=
    (slug_from_words "こんにちは").2.2.2 hgreeting "src/App.tsx" "common"
  · exact absurd hempty hne
  · rw [hfront] at hgenerated hgenerated'
    rw [hslug] at hgenerated
    exact ⟨hblanks, hwords, hslug, hgenerated, hgreeting, hempty, tail', hgenerated', hdigits⟩

end Localization.Key
