import Localization.Provider.Basic
import Localization.Sync.Pending

/-!
# Batches

A batch is sent as a list of requests. Whatever the service gives back, every request of the batch
has exactly one outcome: where there are too few they failed, what is too much is dropped, and a
failure of the service is a failure of every request.
-/

namespace Localization.Sync

/-- A list cut into pieces of a size; the last piece may be shorter. -/
def chunks {α : Type} (size : Nat) : List α → List (List α)
  | [] => []
  | x :: xs => (x :: xs.take (size - 1)) :: chunks size (xs.drop (size - 1))
termination_by xs => xs.length
decreasing_by exact Nat.lt_succ_of_le (List.length_drop ▸ Nat.sub_le ..)

/-- The requests of a batch. -/
def requestsOf (source target : Text) (batch : List Pending) : List Request :=
  batch.map fun p => ⟨p.text, source, target, some p.key⟩

/-- The outcome of a request that the service said nothing about. -/
def noOutcome : Outcome := .failure [] "No result returned for this request"

/-- One outcome for each of `n` requests. -/
def aligned (n : Nat) (outcomes : List Outcome) : List Outcome :=
  outcomes.take n ++ List.replicate (n - outcomes.length) noOutcome

/-- The reason of a service's failure. -/
def reasonOf : Failure → Text
  | .provider _ reason => reason
  | e => e.message

/-- The report on a service's failure. -/
def failureReport (label : Text) : Failure → Text
  | .provider name reason => (Failure.provider name reason).message
  | e => (Failure.provider label e.message).message

/-- The outcomes of the requests of a batch, one for each. -/
def outcomesOf (requests : List Request) : Except Failure (List Outcome) → List Outcome
  | .error e => requests.map fun r => .failure r.text (reasonOf e)
  | .ok outcomes => aligned requests.length outcomes

/-- The records on what a service gave back. -/
def recordsOf (label : Text) (requests : List Request) :
    Except Failure (List Outcome) → List Record
  | .error e =>
    [⟨.warning, "Translation batch of " ++ Text.ofNumber requests.length ++ " failed: " ++
      failureReport label e⟩]
  | .ok outcomes =>
    if outcomes.length = requests.length then []
    else [⟨.warning, "Provider returned " ++ Text.ofNumber outcomes.length ++ " results for " ++
      Text.ofNumber requests.length ++ " requests"⟩]

/-- Sends a batch: an outcome for each of its leaves, the records, and what the service
remembers. -/
def send {σ : Type} (provider : Provider σ) (source target : Text) (s : σ) (batch : List Pending) :
    List Outcome × List Record × σ :=
  let requests := requestsOf source target batch
  let reply := provider.answer s requests
  (outcomesOf requests reply.outcomes,
    reply.records ++ recordsOf provider.label requests reply.outcomes, reply.state)

end Localization.Sync
