import Mathlib.Data.List.Induction
import Mathlib.Data.List.TakeWhile
import Localization.Proofs.Key.Registry
import Localization.Proofs.Text.Utf8

/-!
# What a registry answers

Keys are reserved and asked for in any order. What a text is given depends on one thing only, which
is settled when it asks for the first time: whether its plain key is in use by then. If it is, it
stays in use and the text never comes to hold it, since its marked key is another one; if it is not,
the text holds it from then on. So a text is given one key whenever it asks (`answer_after`), and a
key is in use exactly if it was reserved or given to a text (`inUse_after_iff`). The statement about
whole sequences is `answers_stable`.

A text without a UTF-8 form may have no key, or no marked key. It is then given none, and the
registry stays as it is.
-/

namespace Localization.Key

/-- What a registry is asked to do. -/
inductive Request where
  | reserve (key : Text)
  | keyFor (text : Text)
  deriving DecidableEq

namespace Registry

/-- What a text is given if it asks for its key. -/
def answer (r : Registry) (text : Text) : Except Utf8.EncodeFault Text :=
  (r.keyFor text).map Prod.fst

/-- The registry after a request. -/
def serve (r : Registry) : Request → Registry
  | .reserve key => r.reserve key
  | .keyFor text =>
    match r.keyFor text with
    | .ok (_, r') => r'
    | .error _ => r

/-- The registry after a sequence of requests. -/
def after (r : Registry) (requests : List Request) : Registry := requests.foldl serve r

variable {r : Registry} {key other plain text : Text} {request : Request} {requests : List Request}

/-! ## One answer -/

/-- A text whose plain key is free gets it. -/
theorem answer_of_free (hplain : generate text r.file r.lead = .ok plain)
    (h : r.isTaken plain text = false) : r.answer text = .ok plain :=
  map_eq_ok.2 ⟨_, keyFor_eq_ok.2 ⟨rfl, plain, hplain, .inl ⟨h, rfl⟩⟩, rfl⟩

/-- A text whose plain key is taken is given its marked key, or none if it has none. -/
theorem answer_of_taken (hplain : generate text r.file r.lead = .ok plain)
    (h : r.isTaken plain text = true) : r.answer text = marked text r.file r.lead := by
  rw [answer, keyFor, marked, hplain, ok_bind, ok_bind, if_pos h]
  cases shortMark text with
  | error e => rfl
  | ok mark => rfl

/-- A text for which no key can be made gets none. -/
theorem answer_of_error {e : Utf8.EncodeFault} (h : generate text r.file r.lead = .error e) :
    r.answer text = .error e := by
  rw [answer, keyFor, h]
  rfl

/-- A key is taken for a text when something else holds it. -/
theorem isTaken_eq_true : r.isTaken plain text = true ↔
    ∃ holder, r.holders.get? plain = some holder ∧ holder ≠ some text := by
  unfold isTaken
  cases r.holders.get? plain with
  | none => simp
  | some holder => simp

/-- A text that does not hold its plain key is given it if it is not in use at all. -/
theorem answer_of_not_held (hplain : generate text r.file r.lead = .ok plain)
    (h : r.holders.get? plain ≠ some (some text)) :
    r.holders.get? plain = none ∧ r.answer text = .ok plain ∨
      r.holders.get? plain ≠ none ∧ r.answer text = marked text r.file r.lead := by
  cases hget : r.holders.get? plain with
  | none => exact .inl ⟨rfl, answer_of_free hplain (isTaken_eq_false.2 (.inl hget))⟩
  | some holder =>
    have htaken : r.isTaken plain text = true :=
      isTaken_eq_true.2 ⟨holder, hget, fun heq => h (heq ▸ hget)⟩
    exact .inr ⟨Option.some_ne_none holder, answer_of_taken hplain htaken⟩

/-! ## One request -/

/-- A key that is reserved is in use, and keeps its holder if it has one. -/
theorem get?_reserve_key (r : Registry) (key : Text) :
    (r.reserve key).holders.get? key = some (r.holders.get? key).join := by
  cases h : r.holders.get? key with
  | none => exact get?_reserve_self h
  | some holder => exact get?_reserve_of_some h key

/-- A key that is given has a holder, the one it had or else the text. -/
theorem get?_hold_key (r : Registry) (key text : Text) :
    (r.hold key text).holders.get? key = some (some ((r.holders.get? key).join.getD text)) := by
  unfold hold
  rcases h : r.holders.get? key with _ | _ | holder
  · exact Entries.get?_set_self _ _ _
  · exact Entries.get?_set_self _ _ _
  · exact h

/-- A request reserves a key, lets a text hold the key it is given, or fails. -/
theorem serve_cases (r : Registry) (request : Request) :
    (∃ key, request = .reserve key ∧ r.serve request = r.reserve key) ∨
      (∃ text key, request = .keyFor text ∧ r.answer text = .ok key ∧
        r.serve request = r.hold key text) ∨
      ∃ text e, request = .keyFor text ∧ r.answer text = .error e ∧ r.serve request = r := by
  cases request with
  | reserve key => exact .inl ⟨key, rfl, rfl⟩
  | keyFor text =>
    right
    cases hgiven : r.keyFor text with
    | error e => exact .inr ⟨text, e, rfl, by rw [answer, hgiven]; rfl, by rw [serve, hgiven]⟩
    | ok given =>
      obtain ⟨key, r'⟩ := given
      obtain ⟨hr', -⟩ := keyFor_eq_ok.1 hgiven
      exact .inl ⟨text, key, rfl, by rw [answer, hgiven]; rfl, by rw [serve, hgiven, hr']⟩

@[simp] theorem file_serve (r : Registry) (request : Request) :
    (r.serve request).file = r.file := by
  rcases serve_cases r request with ⟨_, -, h⟩ | ⟨_, _, -, -, h⟩ | ⟨_, _, -, -, h⟩ <;> simp [h]

@[simp] theorem lead_serve (r : Registry) (request : Request) :
    (r.serve request).lead = r.lead := by
  rcases serve_cases r request with ⟨_, -, h⟩ | ⟨_, _, -, -, h⟩ | ⟨_, _, -, -, h⟩ <;> simp [h]

/-- Whoever holds a key holds it after every request. -/
theorem holder_serve (h : r.holders.get? key = some (some text)) (request : Request) :
    (r.serve request).holders.get? key = some (some text) := by
  rcases serve_cases r request with ⟨other, -, hserve⟩ | ⟨asked, other, -, -, hserve⟩ |
    ⟨_, _, -, -, hserve⟩
  · rw [hserve, get?_reserve_of_some h other]
  · rw [hserve]
    by_cases heq : other = key
    · subst heq
      rw [get?_hold_key, h]
      rfl
    · rw [get?_hold_of_ne heq, h]
  · rw [hserve, h]

/-- A plain key that a text cannot have stays out of its reach. -/
theorem isTaken_serve (hplain : generate text r.file r.lead = .ok plain)
    (h : r.isTaken plain text = true) (request : Request) :
    (r.serve request).isTaken plain text = true := by
  obtain ⟨holder, hholder, hne⟩ := isTaken_eq_true.1 h
  rw [isTaken_eq_true]
  rcases serve_cases r request with ⟨other, -, hserve⟩ | ⟨asked, other, -, hgiven, hserve⟩ |
    ⟨_, _, -, -, hserve⟩
  · rw [hserve]
    exact ⟨holder, get?_reserve_of_some hholder other, hne⟩
  · rw [hserve]
    by_cases heq : other = plain
    · subst heq
      refine ⟨_, get?_hold_key r other asked, ?_⟩
      rw [hholder]
      cases holder with
      | some holder => exact hne
      | none =>
        -- The key goes to whoever asks, and that is not the text, whose own answer is marked.
        intro hasked
        have hself : asked = text := Option.some.inj hasked
        rw [hself, answer_of_taken hplain h] at hgiven
        exact marked_ne_plain hplain hgiven rfl
    · exact ⟨holder, (get?_hold_of_ne heq).trans hholder, hne⟩
  · rw [hserve]
    exact ⟨holder, hholder, hne⟩

/-- A key comes into use by being reserved or given. -/
theorem inUse_serve_iff (r : Registry) (request : Request) (key : Text) :
    (r.serve request).holders.get? key ≠ none ↔ r.holders.get? key ≠ none ∨
      request = .reserve key ∨ ∃ text, request = .keyFor text ∧ r.answer text = .ok key := by
  rcases serve_cases r request with ⟨other, rfl, hserve⟩ | ⟨asked, other, rfl, hgiven, hserve⟩ |
    ⟨asked, e, rfl, hgiven, hserve⟩
  · rw [hserve]
    by_cases heq : other = key
    · subst heq
      simp [get?_reserve_key]
    · simp [get?_reserve_of_ne heq, heq]
  · rw [hserve]
    by_cases heq : other = key
    · subst heq
      simp [get?_hold_key, hgiven]
    · simp [get?_hold_of_ne heq, hgiven, heq]
  · simp [hserve, hgiven]

/-- A text that does not ask comes to hold nothing. -/
theorem not_held_serve (h : ∀ key, r.holders.get? key ≠ some (some text))
    (hne : request ≠ .keyFor text) (key : Text) :
    (r.serve request).holders.get? key ≠ some (some text) := by
  have hjoin : ∀ key, (r.holders.get? key).join ≠ some text :=
    fun key hjoin => h key (Option.join_eq_some_iff.1 hjoin)
  rcases serve_cases r request with ⟨other, -, hserve⟩ | ⟨asked, other, rfl, -, hserve⟩ |
    ⟨_, _, -, -, hserve⟩
  · rw [hserve]
    by_cases heq : other = key
    · subst heq
      simpa [get?_reserve_key] using hjoin other
    · rw [get?_reserve_of_ne heq]
      exact h key
  · rw [hserve]
    by_cases heq : other = key
    · subst heq
      rw [get?_hold_key]
      intro hheld
      have hheld := Option.some.inj (Option.some.inj hheld)
      cases hholder : (r.holders.get? other).join with
      | none =>
        rw [hholder] at hheld
        exact hne (congrArg Request.keyFor hheld)
      | some holder =>
        rw [hholder] at hheld
        exact hjoin other (hholder.trans (congrArg some hheld))
    · rw [get?_hold_of_ne heq]
      exact h key
  · rw [hserve]
    exact h key

/-! ## Sequences of requests -/

/-- A registry serves the first of its requests and then the others. -/
theorem after_cons (r : Registry) (request : Request) (requests : List Request) :
    r.after (request :: requests) = (r.serve request).after requests := rfl

/-- A registry serves the earlier requests and then the later ones. -/
theorem after_append (r : Registry) (earlier later : List Request) :
    r.after (earlier ++ later) = (r.after earlier).after later :=
  List.foldl_append

@[simp] theorem file_after (r : Registry) (requests : List Request) :
    (r.after requests).file = r.file := by
  induction requests generalizing r with
  | nil => rfl
  | cons request requests ih => rw [after_cons, ih, file_serve]

@[simp] theorem lead_after (r : Registry) (requests : List Request) :
    (r.after requests).lead = r.lead := by
  induction requests generalizing r with
  | nil => rfl
  | cons request requests ih => rw [after_cons, ih, lead_serve]

/-- Whoever holds a key holds it ever after. -/
theorem holder_after (h : r.holders.get? key = some (some text)) (requests : List Request) :
    (r.after requests).holders.get? key = some (some text) := by
  induction requests generalizing r with
  | nil => exact h
  | cons request requests ih => exact ih (holder_serve h request)

/-- A key that is taken for a text stays so, whatever is asked. -/
theorem isTaken_after (hplain : generate text r.file r.lead = .ok plain)
    (h : r.isTaken plain text = true) (requests : List Request) :
    (r.after requests).isTaken plain text = true := by
  induction requests generalizing r with
  | nil => exact h
  | cons request requests ih =>
    exact ih (by rwa [file_serve, lead_serve]) (isTaken_serve hplain h request)

/-- A text that holds no key holds none until it is asked for. -/
theorem not_held_after (h : ∀ key, r.holders.get? key ≠ some (some text))
    (hasks : .keyFor text ∉ requests) (key : Text) :
    (r.after requests).holders.get? key ≠ some (some text) := by
  induction requests generalizing r with
  | nil => exact h key
  | cons request requests ih =>
    obtain ⟨hne, hasks⟩ := not_or.1 (mt List.mem_cons.2 hasks)
    exact ih (not_held_serve h (Ne.symm hne)) hasks

/-- **One key for one text.** Once a text has asked, it is given the same key whatever is asked for
in between. -/
theorem answer_after (r : Registry) (text : Text) (between : List Request) :
    (r.after (.keyFor text :: between)).answer text = r.answer text := by
  rw [after_cons]
  cases hplain : generate text r.file r.lead with
  | error e => rw [answer_of_error hplain, answer_of_error (by simpa using hplain)]
  | ok plain =>
    have hplain' : generate text ((r.serve (.keyFor text)).after between).file
        ((r.serve (.keyFor text)).after between).lead = .ok plain := by simpa using hplain
    cases hfree : r.isTaken plain text with
    | true =>
      have hserved := isTaken_serve hplain hfree (.keyFor text)
      rw [answer_of_taken hplain hfree,
        answer_of_taken hplain' (isTaken_after (by simpa using hplain) hserved between)]
      simp
    | false =>
      -- The first answer was the plain key, which the text then holds.
      have hgiven : r.keyFor text = .ok (plain, r.hold plain text) :=
        keyFor_eq_ok.2 ⟨rfl, plain, hplain, .inl ⟨hfree, rfl⟩⟩
      have hheld : (r.serve (.keyFor text)).holders.get? plain = some (some text) := by
        rw [serve, hgiven]
        exact get?_hold_of_not_isTaken hfree
      rw [answer_of_free hplain hfree,
        answer_of_free hplain' (isTaken_eq_false.2 (.inr (holder_after hheld between)))]

end Registry

/-! ## Whole sequences -/

/-- A text asks somewhere in a sequence of requests to a registry that was empty at first, and is
given an answer. -/
def Answered (file lead : Text) (requests : List Request) (text : Text)
    (answer : Except Utf8.EncodeFault Text) : Prop :=
  ∃ earlier later, requests = earlier ++ .keyFor text :: later ∧
    ((Registry.empty file lead).after earlier).answer text = answer

/-- The requests before a text asks for the first time. -/
def beforeFirst (text : Text) (requests : List Request) : List Request :=
  requests.takeWhile (· ≠ .keyFor text)

variable {file lead text other key plain : Text} {requests : List Request}
  {answer : Except Utf8.EncodeFault Text}

/-- One more request adds its own answer to those that were given. -/
theorem answered_concat_iff {request : Request} :
    Answered file lead (requests ++ [request]) text answer ↔
      Answered file lead requests text answer ∨ request = .keyFor text ∧
        ((Registry.empty file lead).after requests).answer text = answer := by
  constructor
  · rintro ⟨earlier, later, heq, hanswer⟩
    rcases List.eq_nil_or_concat later with rfl | ⟨later, last, rfl⟩
    · obtain ⟨rfl, hlast⟩ := List.append_inj' heq rfl
      cases hlast
      exact .inr ⟨rfl, hanswer⟩
    · rw [List.concat_eq_append, ← List.cons_append, ← List.append_assoc] at heq
      obtain ⟨hrequests, -⟩ := List.append_inj' heq rfl
      exact .inl ⟨earlier, later, hrequests, hanswer⟩
  · rintro (⟨earlier, later, rfl, hanswer⟩ | ⟨rfl, hanswer⟩)
    · exact ⟨earlier, later ++ [request], by simp, hanswer⟩
    · exact ⟨requests, [], rfl, hanswer⟩

/-- A key is in use exactly if it was reserved or given to a text. -/
theorem inUse_after_iff (file lead : Text) (requests : List Request) (key : Text) :
    ((Registry.empty file lead).after requests).holders.get? key ≠ none ↔
      .reserve key ∈ requests ∨ ∃ text, Answered file lead requests text (.ok key) := by
  induction requests using List.reverseRecOn with
  | nil =>
    refine iff_of_false (fun h => h rfl) ?_
    rintro (h | ⟨text, earlier, later, h, -⟩)
    · cases h
    · simp at h
  | append_singleton requests request ih =>
    rw [Registry.after_append]
    change (((Registry.empty file lead).after requests).serve request).holders.get? key ≠ none ↔ _
    rw [Registry.inUse_serve_iff, ih, List.mem_append, List.mem_singleton]
    simp only [answered_concat_iff, exists_or]
    grind

/-- Before a text asks for the first time it does not ask. -/
theorem not_mem_beforeFirst (text : Text) (requests : List Request) :
    .keyFor text ∉ beforeFirst text requests := by
  intro h
  simpa using List.mem_takeWhile_imp h

/-- In front of the first request for a text stand the requests before it. -/
theorem beforeFirst_append {front : List Request} (h : .keyFor text ∉ front)
    (later : List Request) : beforeFirst text (front ++ .keyFor text :: later) = front := by
  have hfront : ∀ request ∈ front, decide (request ≠ .keyFor text) = true := by
    intro request hrequest
    exact decide_eq_true fun heq => h (heq ▸ hrequest)
  rw [beforeFirst, List.takeWhile_append_of_pos hfront, List.takeWhile_cons_of_neg (by simp),
    List.append_nil]

/-- Whenever a text asks, it is given what it was given when it asked for the first time. -/
theorem answer_eq_first (h : Answered file lead requests text answer) :
    ((Registry.empty file lead).after (beforeFirst text requests)).answer text = answer := by
  obtain ⟨earlier, later, rfl, hanswer⟩ := h
  by_cases hasks : .keyFor text ∈ earlier
  · obtain ⟨front, between, rfl, hfront⟩ := List.eq_append_cons_of_mem hasks
    rw [Registry.after_append, Registry.answer_after] at hanswer
    rwa [List.append_assoc, List.cons_append, beforeFirst_append hfront]
  · rwa [beforeFirst_append hasks]

/-- A text is given its plain key if that is not in use when it first asks, else its marked key. -/
theorem answer_cases (h : Answered file lead requests text answer)
    (hplain : generate text file lead = .ok plain) :
    ((Registry.empty file lead).after (beforeFirst text requests)).holders.get? plain = none ∧
        answer = .ok plain ∨
      ((Registry.empty file lead).after (beforeFirst text requests)).holders.get? plain ≠ none ∧
        answer = marked text file lead := by
  have hempty : ∀ key, (Registry.empty file lead).holders.get? key ≠ some (some text) := nofun
  have hheld := Registry.not_held_after hempty (not_mem_beforeFirst text requests) plain
  have hcases := Registry.answer_of_not_held
    (by rwa [Registry.file_after, Registry.lead_after]) hheld
  rw [answer_eq_first h, Registry.file_after, Registry.lead_after] at hcases
  exact hcases

/-- The plain key is given exactly if it was neither reserved nor given to another text. -/
theorem answer_eq_plain_iff (h : Answered file lead requests text answer)
    (hplain : generate text file lead = .ok plain) :
    answer = .ok plain ↔ .reserve plain ∉ beforeFirst text requests ∧
      ∀ other, other ≠ text → ¬ Answered file lead (beforeFirst text requests) other (.ok plain) := by
  have hunused := (inUse_after_iff file lead (beforeFirst text requests) plain).not
  rw [not_not, not_or, not_exists] at hunused
  constructor
  · intro heq
    rcases answer_cases h hplain with ⟨hnone, -⟩ | ⟨-, hmarked⟩
    · obtain ⟨hreserve, hgiven⟩ := hunused.1 hnone
      exact ⟨hreserve, fun other _ => hgiven other⟩
    · exact absurd rfl (marked_ne_plain hplain (hmarked.symm.trans heq))
  · rintro ⟨hreserve, hgiven⟩
    have hself : ¬ Answered file lead (beforeFirst text requests) text (.ok plain) := by
      rintro ⟨earlier, later, heq, -⟩
      exact not_mem_beforeFirst text requests (by rw [heq]; simp)
    have hnone := hunused.2 ⟨hreserve, fun other =>
      if heq : other = text then heq ▸ hself else hgiven other heq⟩
    rcases answer_cases h hplain with ⟨-, heq⟩ | ⟨hused, -⟩
    · exact heq
    · exact absurd hnone hused

/-- A text with a UTF-8 form has a short mark. -/
theorem exists_shortMark (h : text.Encodable) : ∃ mark, shortMark text = .ok mark := by
  obtain ⟨bytes, hbytes⟩ := Utf8.exists_encodeFrom h 0
  refine ⟨_, bind_eq_ok.2 ⟨_, map_eq_ok.2 ⟨bytes, hbytes, rfl⟩, rfl⟩⟩

/-- A text with a UTF-8 form has a plain key. -/
theorem exists_generate (h : text.Encodable) (file lead : Text) :
    ∃ plain, generate text file lead = .ok plain := by
  obtain ⟨mark, hmark⟩ := exists_shortMark h
  unfold generate
  dsimp only
  split
  · exact ⟨_, bind_eq_ok.2 ⟨mark, hmark, rfl⟩⟩
  · exact ⟨_, rfl⟩

/-- A text with a UTF-8 form is given a key. -/
theorem exists_answer (h : Answered file lead requests text answer) (htext : text.Encodable) :
    ∃ key, answer = .ok key := by
  obtain ⟨plain, hplain⟩ := exists_generate htext file lead
  obtain ⟨mark, hmark⟩ := exists_shortMark htext
  rcases answer_cases h hplain with ⟨-, heq⟩ | ⟨-, heq⟩
  · exact ⟨plain, heq⟩
  · exact ⟨_, heq.trans (marked_eq_ok.2 ⟨plain, mark, hplain, hmark, rfl⟩)⟩

/-- **What a registry answers.** Whatever was reserved and asked for before, a text is given its
plain key or its marked key, the same one whenever it asks, and one of them if it has a UTF-8 form.
It is the plain key exactly if nobody had reserved that key, and no other text had been given it,
before the text asked for the first time. And whoever holds a key holds it ever after. -/
theorem answers_stable (file lead : Text) (requests : List Request) :
    (∀ text answer, Answered file lead requests text answer →
      (answer = generate text file lead ∨ answer = marked text file lead) ∧
      (∀ again, Answered file lead requests text again → again = answer) ∧
      (∀ plain, generate text file lead = .ok plain →
        (answer = .ok plain ↔ .reserve plain ∉ beforeFirst text requests ∧
          ∀ other, other ≠ text →
            ¬ Answered file lead (beforeFirst text requests) other (.ok plain))) ∧
      (text.Encodable → ∃ key, answer = .ok key)) ∧
    ∀ earlier later key holder, requests = earlier ++ later →
      ((Registry.empty file lead).after earlier).holders.get? key = some (some holder) →
      ((Registry.empty file lead).after requests).holders.get? key = some (some holder) := by
  refine ⟨?_, ?_⟩
  · intro text answer h
    refine ⟨?_, ?_, fun plain hplain => answer_eq_plain_iff h hplain, exists_answer h⟩
    · cases hplain : generate text file lead with
      | error e =>
        left
        rw [← answer_eq_first h]
        exact Registry.answer_of_error (by rwa [Registry.file_after, Registry.lead_after])
      | ok plain =>
        rcases answer_cases h hplain with ⟨-, heq⟩ | ⟨-, heq⟩
        · exact .inl heq
        · exact .inr heq
    · intro again hagain
      exact (answer_eq_first hagain).symm.trans (answer_eq_first h)
  · rintro earlier later key holder rfl hholder
    rw [Registry.after_append]
    exact Registry.holder_after hholder later

/-- Requests for two texts with one plain key, of which the first asks again, for a text that reads
like the other one's marked key, and for a text whose plain key is reserved before it asks. -/
def crowded : List Request :=
  [.reserve "App_bye", .keyFor "Hello World", .keyFor "Hello, World!",
    .keyFor "Hello World 0a0a9f", .reserve "App_hello_world", .keyFor "Bye",
    .keyFor "Hello World"]

/-- In the crowded file the first of two texts is given its plain key both times; it may, since
nobody had it before. The text with the reserved plain key may not. -/
theorem answers_stable_crowded :
    Answered "App.tsx" [] crowded "Hello World" (.ok "App_hello_world") ∧
      (∀ again, Answered "App.tsx" [] crowded "Hello World" again →
        again = .ok "App_hello_world") ∧
      (.reserve "App_hello_world" ∉ beforeFirst "Hello World" crowded ∧
        ∀ other, other ≠ Text.ofString "Hello World" →
          ¬ Answered "App.tsx" [] (beforeFirst "Hello World" crowded) other
            (.ok "App_hello_world")) ∧
      Answered "App.tsx" [] crowded "Bye" (.ok "App_bye_f79242") ∧
      (.reserve "App_bye" ∈ beforeFirst "Bye" crowded ∨
        ∃ other, other ≠ Text.ofString "Bye" ∧
          Answered "App.tsx" [] (beforeFirst "Bye" crowded) other (.ok "App_bye")) := by
  have hello : Answered "App.tsx" [] crowded "Hello World" (.ok "App_hello_world") :=
    ⟨crowded.take 1, crowded.drop 2, rfl, eq_ok_of_toOption (by decide +kernel)⟩
  have hplain : generate "Hello World" "App.tsx" [] = .ok "App_hello_world" :=
    eq_ok_of_toOption (by decide +kernel)
  have bye : Answered "App.tsx" [] crowded "Bye" (.ok "App_bye_f79242") :=
    ⟨crowded.take 5, crowded.drop 6, rfl, eq_ok_of_toOption (by decide +kernel)⟩
  have hplain' : generate "Bye" "App.tsx" [] = .ok "App_bye" :=
    eq_ok_of_toOption (by decide +kernel)
  obtain ⟨-, hsame, hfree, -⟩ := (answers_stable "App.tsx" [] crowded).1 _ _ hello
  obtain ⟨-, -, htaken, -⟩ := (answers_stable "App.tsx" [] crowded).1 _ _ bye
  refine ⟨hello, hsame, (hfree _ hplain).1 rfl, bye, ?_⟩
  have hne : (Except.ok "App_bye_f79242" : Except Utf8.EncodeFault Text) ≠ .ok "App_bye" := by
    simp only [ne_eq, Except.ok.injEq]
    decide
  have hused := mt (htaken _ hplain').2 hne
  rw [not_and_or, not_not] at hused
  push Not at hused
  exact hused

end Localization.Key
