import Localization.Json.Basic
import Localization.Report

/-!
# Settings of a sync

How many requests go into a batch, how many batches are under way at once, whether placeholders are
checked, and whether a text that changed since it was translated is translated again. The two limits
come from configurations, where they may be any value: what is no number, or less than one, is
refused at once; a number that is not whole passes and fails when a list has to be cut by it.
-/

namespace Localization.Sync

/-- A limit: a whole number, or a number that nothing can be counted by. -/
inductive Limit where
  | whole (n : Nat)
  | fractional
  deriving DecidableEq

/-- What a sync is told. -/
structure Settings where
  batchSize : Option Limit
  maxConcurrency : Limit
  checkPlaceholders : Bool
  retranslateChanged : Bool

/-- The refusal to compare something that is no number with a number. -/
def notComparable (j : Json) : Failure :=
  .wrongType ("'<' not supported between instances of '" ++ j.kindName ++ "' and 'int'")

/-- Reads a limit; `unit` is what the limit is when it is one. -/
def limitOf (j : Json) (tooSmall : Text) (unit : Limit) : Except Failure Limit :=
  match j with
  | .int n => if n < 1 then .error (.invalid tooSmall) else .ok (.whole n.toNat)
  | .bool b => if b then .ok (.whole 1) else .error (.invalid tooSmall)
  | .float x =>
    if x.ltInt 1 then .error (.invalid tooSmall)
    else if x.toInt? = some 1 then .ok unit
    else .ok .fractional
  | j => .error (notComparable j)

/-- Reads the size of a batch; without one all requests go into one batch. -/
def batchSizeOf (j : Json) : Except Failure (Option Limit) :=
  match j with
  | .null => .ok none
  | j => (limitOf j "batch_size must be positive" .fractional).map some

/-- Reads the number of batches under way at once. -/
def maxConcurrencyOf (j : Json) : Except Failure Limit :=
  limitOf j "max_concurrency must be at least 1" (.whole 1)

/-- Reads the settings of a sync. -/
def Settings.ofJson (batchSize maxConcurrency : Json) (checkPlaceholders retranslateChanged : Bool) :
    Except Failure Settings := do
  let batchSize ← batchSizeOf batchSize
  let maxConcurrency ← maxConcurrencyOf maxConcurrency
  return ⟨batchSize, maxConcurrency, checkPlaceholders, retranslateChanged⟩

end Localization.Sync
