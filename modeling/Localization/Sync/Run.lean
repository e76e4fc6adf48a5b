import Localization.Checks
import Localization.Placeholder
import Localization.Sync.Batch
import Localization.Sync.Settings

/-!
# Bringing a target catalog up to date

A sync asks for everything that is left to translate, batch by batch, and writes every outcome that
is good into a copy of the target. A failed leaf keeps the value it had and disturbs no other.
Batches are sent one after another, or in windows of several at once; either way their outcomes are
applied in the order of the source catalog. A sync can be cancelled between batches, or between
windows.
-/

namespace Localization.Sync

/-- What a sync did. -/
structure Result where
  data : Catalog
  source : Text
  target : Text
  requested : List Text
  translated : List Text
  failed : Entries Text
  skipped : Nat
  cancelled : Bool

/-- Whether everything that was asked for was translated. -/
def Result.success (r : Result) : Bool := r.failed.isEmpty && !r.cancelled

/-- Whether some of what was asked for was translated and some was not. -/
def Result.isPartial (r : Result) : Bool := !r.translated.isEmpty && !r.failed.isEmpty

/-- A sync under way: what it did so far, the recorded digests, the records on its batches, and what
the service remembers. -/
structure State (σ : Type) where
  result : Result
  hashes : Hashes
  records : List Record
  service : σ

variable {σ : Type}

/-! ## Applying outcomes -/

/-- The text to write for a leaf, or why there is none. -/
def verdict (check : Bool) (p : Pending) (o : Outcome) : Except Text Text :=
  if !o.success || o.text.isEmpty then
    .error (match o.error with
      | some e => if e.isEmpty then "Translation failed" else e
      | none => "Translation failed")
  else if check && !Placeholder.survive p.text o.text then
    .error (Placeholder.describe (Placeholder.issues p.text o.text))
  else .ok o.text

/-- Applies the outcome of one leaf. -/
def applyOne (check : Bool) (r : Result) (h : Hashes) (p : Pending) (o : Outcome) :
    Result × Hashes :=
  let r := { r with requested := r.requested ++ [p.key] }
  match verdict check p o with
  | .ok text =>
    ({ r with data := r.data.put p.path (.str text), translated := r.translated ++ [p.key] },
      h.record p.key p.digest)
  | .error reason => ({ r with failed := Entries.set r.failed p.key reason }, h)

/-- Applies the outcomes of a batch. -/
def applyAll (check : Bool) (r : Result) (h : Hashes) :
    List Pending → List Outcome → Result × Hashes
  | p :: ps, o :: os =>
    let (r, h) := applyOne check r h p o
    applyAll check r h ps os
  | _, _ => (r, h)

/-- Applies the outcomes of a batch to a sync under way. -/
def State.apply (check : Bool) (st : State σ) (batch : List Pending) (os : List Outcome) :
    State σ :=
  let (r, h) := applyAll check st.result st.hashes batch os
  { st with result := r, hashes := h }

/-! ## Sending batches -/

/-- Sends a batch; its outcomes are not applied yet. -/
def State.send (provider : Provider σ) (st : State σ) (batch : List Pending) :
    List Outcome × State σ :=
  let (os, records, s) := Sync.send provider st.result.source st.result.target st.service batch
  (os, { st with records := st.records ++ records, service := s })

/-- A sync that was told to stop. -/
def State.cancel (st : State σ) : State σ :=
  { st with result := { st.result with cancelled := true } }

/-- Sends batches one after another, each after a check. -/
def oneByOne (check : Bool) (provider : Provider σ) : Checks → State σ → List (List Pending) → State σ
  | _, st, [] => st
  | checks, st, batch :: rest =>
    match checks.step with
    | none => st.cancel
    | some checks =>
      let (os, st) := st.send provider batch
      oneByOne check provider checks (st.apply check batch os) rest

/-- Sends the batches of a window, all of them before any outcome is applied. -/
def sendWindow (provider : Provider σ) (st : State σ) :
    List (List Pending) → List (List Outcome) × State σ
  | [] => ([], st)
  | batch :: rest =>
    let (os, st) := st.send provider batch
    let (all, st) := sendWindow provider st rest
    (os :: all, st)

/-- Applies the outcomes of a window in the order in which its batches were sent. -/
def applyWindow (check : Bool) (st : State σ) : List (List Pending) → List (List Outcome) → State σ
  | batch :: rest, os :: all => applyWindow check (st.apply check batch os) rest all
  | _, _ => st

/-- Sends batches in windows, each window after a check. -/
def byWindows (check : Bool) (provider : Provider σ) :
    Checks → State σ → List (List (List Pending)) → State σ
  | _, st, [] => st
  | checks, st, window :: rest =>
    match checks.step with
    | none => st.cancel
    | some checks =>
      let (all, st) := sendWindow provider st window
      byWindows check provider checks (applyWindow check st window all) rest

/-- The refusal to cut a list by a number that is not whole. -/
def notWhole : Failure := .wrongType "'float' object cannot be interpreted as an integer"

/-- The batches of what is left to translate. -/
def batchesOf (s : Settings) (ps : List Pending) : Except Failure (List (List Pending)) :=
  match s.batchSize with
  | none => .ok (chunks ps.length ps)
  | some (.whole n) => .ok (chunks n ps)
  | some .fractional => .error notWhole

/-- Sends batches as the settings say. -/
def dispatch (s : Settings) (provider : Provider σ) (checks : Checks) (st : State σ)
    (batches : List (List Pending)) : Except Failure (State σ) :=
  match s.maxConcurrency with
  | .whole 1 => .ok (oneByOne s.checkPlaceholders provider checks st batches)
  | .whole n => .ok (byWindows s.checkPlaceholders provider checks st (chunks n batches))
  | .fractional => .error notWhole

/-! ## Whole syncs -/

/-- A sync that has not sent anything. -/
def start (hashes : Hashes) (service : σ) (source target : Text) (data : Catalog) (skipped : Nat) :
    State σ :=
  ⟨⟨data, source, target, [], [], [], skipped, false⟩, hashes, [], service⟩

/-- Records the start of a sync. -/
def recordStart (target : Text) (keys batches : Nat) : Logged Unit :=
  .record .info (target ++ ": translating " ++ Text.ofNumber keys ++ " keys in " ++
    Text.ofNumber batches ++ " batch(es)")

/-- The record at the end of a sync, if something failed. -/
def endRecords (r : Result) : List Record :=
  if r.failed.isEmpty then []
  else [⟨.warning, r.target ++ ": " ++ Text.ofNumber r.failed.length ++ " of " ++
    Text.ofNumber r.requested.length ++ " translations failed"⟩]

/-- Brings a target catalog up to date with its source. -/
def run (s : Settings) (provider : Provider σ) (hashes : Hashes) (service : σ) (checks : Checks)
    (sourceLocale targetLocale : Text) (source target : Catalog) : Logged (State σ) := do
  let ps ← .lift ((pending s.retranslateChanged hashes source target).mapError .encoding)
  let st := start hashes service sourceLocale targetLocale target (source.leaves.length - ps.length)
  if ps.isEmpty then
    .record .debug (targetLocale ++ ": nothing to translate")
    return st
  let batches ← .lift (batchesOf s ps)
  recordStart targetLocale ps.length batches.length
  let st ← .lift (dispatch s provider checks st batches)
  ⟨st.records ++ endRecords st.result, .ok st⟩

end Localization.Sync
