import Localization.Json.Reader
import Localization.Provider.Prompt

/-!
# A service that generates content

Every request is one call; the key travels beside the address, never in it. The text is looked up in
the first part of the first candidate of the reply.
-/

namespace Localization.Provider.Gemini

/-- A call of the service. -/
structure Call where
  url : Text
  key : Text
  system : Text
  prompt : Text
  temperature : Text
  maxTokens : Nat

/-- The answer to a call. -/
structure Response where
  status : Int
  body : Text

/-- What stands for the service. -/
def name : Text := "gemini"

/-- The model that is asked when none is chosen. -/
def standardModel : Text := "gemini-2.5-flash"

/-- The address of a model. -/
def address (model : Text) : Text :=
  "https://generativelanguage.googleapis.com/v1beta/models/" ++ model ++ ":generateContent"

/-- The call for a request. -/
def callOf (key model : Text) (r : Request) : Call :=
  ⟨address model, key, systemPrompt, Provider.prompt r, "0.3", 2048⟩

/-- The first item of a list. -/
def first? : Json → Option Json
  | .arr (j :: _) => some j
  | _ => none

/-- The text that a reply holds. -/
def reply? (j : Json) : Option Json := do
  let candidate ← (← j.field? "candidates") |> first?
  let content ← candidate.field? "content"
  let part ← (← content.field? "parts") |> first?
  part.field? "text"

/-- Reads the answer to a call. -/
def read (response : Response) : Except Failure Text :=
  if response.status ≠ 200 then
    .error (.provider name ("HTTP " ++ Text.ofInteger response.status ++ " - " ++ response.body))
  else
    match Json.read response.body with
    | .error f => .error (.invalid (f.message response.body))
    | .ok j =>
      match reply? j with
      | none => .error (.provider name "No translation returned")
      | some (.str t) => .ok (cleaned t)
      | some other =>
        .error (.noMember ("'" ++ other.kindName ++ "' object has no attribute 'strip'"))

/-- The service; `send` makes one call. It needs a key. -/
def service {σ : Type} (key model : Text) (send : σ → Call → Except Failure Response × σ) :
    Except Failure (Provider σ) :=
  if key.isEmpty then .error (.invalid "Gemini API key is required")
  else .ok (ofSingle "GeminiProvider" name fun s r =>
    let (response, s) := send s (callOf key model r)
    (response.bind read, s))

end Localization.Provider.Gemini
