import Localization.Report

/-!
# Translating services

A service is asked to translate requests in batches and gives one outcome for each request, in their
order. It may remember something from one batch to the next; it may also fail as a whole, or give
fewer or more outcomes than it was asked for.
-/

namespace Localization

/-- A text to translate, and where it comes from: `context` is the key it has in its catalog. -/
structure Request where
  text : Text
  source : Text
  target : Text
  context : Option Text

/-- What became of a request. -/
structure Outcome where
  text : Text
  source : Text
  success : Bool
  error : Option Text

/-- The outcome of a request that failed. -/
def Outcome.failure (source error : Text) : Outcome := ⟨[], source, false, some error⟩

/-- What a service gives back for a batch: the outcomes or its failure, the records it wrote, and
what it remembers. -/
structure Reply (σ : Type) where
  outcomes : Except Failure (List Outcome)
  records : List Record
  state : σ

/-- A service that translates batches of requests. -/
structure Provider (σ : Type) where
  /-- The word for the service in reports on its failures. -/
  label : Text
  answer : σ → List Request → Reply σ

namespace Provider

variable {σ : Type}

/-- The context of a request inside a message. -/
def shownContext : Option Text → Text
  | some key => key.quoted
  | none => "None"

/-- The outcome of a request that was asked by itself. -/
def outcomeOf (r : Request) : Except Failure Text → Outcome
  | .error e => .failure r.text e.message
  | .ok t => if t.isEmpty then .failure r.text "No translation returned" else ⟨t, r.text, true, none⟩

/-- The records on a request that was asked by itself: a failure is reported. -/
def recordsOf (name : Text) (r : Request) : Except Failure Text → List Record
  | .error e =>
    [⟨.warning, name ++ " translation failed for " ++ shownContext r.context ++ ": " ++ e.message⟩]
  | .ok _ => []

/-- Asks a service for one request after another. -/
def inTurn (name : Text) (ask : σ → Request → Except Failure Text × σ) (s : σ) :
    List Request → List Outcome × List Record × σ
  | [] => ([], [], s)
  | r :: rest =>
    let (a, s) := ask s r
    let (outcomes, records, s) := inTurn name ask s rest
    (outcomeOf r a :: outcomes, recordsOf name r a ++ records, s)

/-- A service that is asked for one request after another. -/
def ofSingle (label name : Text) (ask : σ → Request → Except Failure Text × σ) : Provider σ where
  label := label
  answer s rs :=
    let (outcomes, records, s) := inTurn name ask s rs
    ⟨.ok outcomes, records, s⟩

end Provider

end Localization
