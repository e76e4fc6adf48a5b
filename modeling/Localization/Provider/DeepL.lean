import Localization.Provider.Basic
import Localization.Text.Case

/-!
# A service that translates lists

The requests of a batch that share their two locales go out in one call. Every request gets the item
at its own place among them; a request without an item was not translated, and a call that fails
fails exactly the requests it was made for.
-/

namespace Localization.Provider.DeepL

/-- A call of the service: one text or several, and the codes of the two languages. -/
structure Call where
  texts : List Text
  single : Bool
  source : Text
  target : Text

/-- What a call gives back: one text or several. -/
inductive Items where
  | one (text : Text)
  | many (texts : List Text)

/-- The texts of what a call gave back. -/
def Items.toList : Items → List Text
  | .one t => [t]
  | .many ts => ts

/-- What stands for the service. -/
def name : Text := "deepl"

/-- A locale with hyphens between its parts. -/
def hyphenated (locale : Text) : Text := Text.replaceAll (.scalar '_') "-" locale

/-- The code of a language to translate into; two languages are asked for by region. -/
def targetCode (locale : Text) : Text :=
  let code := hyphenated locale
  if code.lower = Text.ofString "en" then "EN-US"
  else if code.lower = Text.ofString "pt" then "PT-BR"
  else code.upper

/-- The code of a language to translate from, which never has a region. -/
def sourceCode (locale : Text) : Text :=
  Text.upper ((Text.splitOn (.scalar '-') (hyphenated locale)).headD [])

/-- The call for one request. -/
def callOf (r : Request) : Call := ⟨[r.text], true, sourceCode r.source, targetCode r.target⟩

/-! ## Batches -/

/-- Two locales, between which a text is translated. -/
abbrev Pair := Text × Text

/-- The locales of a request. -/
def pairOf (r : Request) : Pair := (r.source, r.target)

/-- The pairs of locales of a batch, each once, in the order in which they first occur. -/
def pairsOf : List Request → List Pair
  | [] => []
  | r :: rest => pairOf r :: (pairsOf rest).filter (· ≠ pairOf r)

/-- The requests of a batch between two locales. -/
def requestsOf (p : Pair) (rs : List Request) : List Request := rs.filter (pairOf · = p)

/-- The call for the requests between two locales. -/
def batchCall (p : Pair) (rs : List Request) : Call :=
  ⟨(requestsOf p rs).map (·.text), false, sourceCode p.1, targetCode p.2⟩

/-- The outcome of a request whose item is known. -/
def ofItem (r : Request) (item : Text) : Outcome :=
  ⟨item, r.text, !item.isEmpty, if item.isEmpty then some "No translation returned" else none⟩

/-- The answers to the calls of a batch, by pair of locales. -/
abbrev Answers := List (Pair × Except Failure Items)

/-- Makes one call for every pair of locales. -/
def callEach {σ : Type} (send : σ → Call → Except Failure Items × σ) (rs : List Request) (s : σ) :
    List Pair → Answers × σ
  | [] => ([], s)
  | p :: rest =>
    let (a, s) := send s (batchCall p rs)
    let (answers, s) := callEach send rs s rest
    ((p, a) :: answers, s)

/-- The outcome of the request that is number `place` among those with its locales. -/
def outcomeAt (answers : Answers) (place : Nat) (r : Request) : Outcome :=
  match answers.lookup (pairOf r) with
  | some (.error e) => .failure r.text e.message
  | some (.ok items) =>
    match items.toList[place]? with
    | some item => ofItem r item
    | none => .failure r.text "No translation returned"
  | none => .failure r.text "No translation returned"

/-- The outcomes of the requests of a batch; `before` are the requests in front of them. -/
def outcomes (answers : Answers) (before : List Request) : List Request → List Outcome
  | [] => []
  | r :: rest =>
    outcomeAt answers (requestsOf (pairOf r) before).length r ::
      outcomes answers (before ++ [r]) rest

/-- Translates a batch with one call for every pair of locales. -/
def translateBatch {σ : Type} (send : σ → Call → Except Failure Items × σ) (s : σ)
    (rs : List Request) : Reply σ :=
  let (answers, s) := callEach send rs s (pairsOf rs)
  ⟨.ok (outcomes answers [] rs), [], s⟩

/-! ## Single requests -/

/-- The text of a single answer. -/
def singleText : Items → Except Failure Text
  | .one t => .ok t
  | .many _ => .error (.noMember "'list' object has no attribute 'text'")

/-- Asks for one request. -/
def ask {σ : Type} (send : σ → Call → Except Failure Items × σ) (s : σ) (r : Request) :
    Except Failure Text × σ :=
  let (a, s) := send s (callOf r)
  (a.bind singleText, s)

/-- The service; `send` makes one call. It needs a key unless it comes with a client. -/
def service {σ : Type} (key : Text) (hasClient : Bool)
    (send : σ → Call → Except Failure Items × σ) : Except Failure (Provider σ) :=
  if key.isEmpty && !hasClient then .error (.invalid "DeepL API key is required")
  else .ok ⟨"DeepLProvider", translateBatch send⟩

end Localization.Provider.DeepL
