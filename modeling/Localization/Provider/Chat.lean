import Localization.Provider.Prompt

/-!
# A chat service

Every request is a conversation of two messages, the standing instruction and the prompt. A reply
without content counts as an empty one.
-/

namespace Localization.Provider.Chat

/-- A call of the chat service. -/
structure Call where
  model : Text
  temperature : Text
  messages : List (Text × Text)

/-- What stands for the service. -/
def name : Text := "openai"

/-- The model that is asked when none is chosen. -/
def standardModel : Text := "gpt-4o-mini"

/-- How freely a model may answer. -/
def temperature : Text := "0.3"

/-- The call for a request. -/
def callOf (model : Text) (r : Request) : Call :=
  ⟨model, temperature, [("system", systemPrompt), ("user", prompt r)]⟩

/-- The chat service; `send` makes one call. It needs a key unless it comes with a client. -/
def service {σ : Type} (key : Text) (hasClient : Bool) (model : Text)
    (send : σ → Call → Except Failure (Option Text) × σ) : Except Failure (Provider σ) :=
  if key.isEmpty && !hasClient then .error (.invalid "OpenAI API key is required")
  else .ok (ofSingle "OpenAIProvider" name fun s r =>
    let (reply, s) := send s (callOf model r)
    (reply.map fun content => cleaned (content.getD []), s))

end Localization.Provider.Chat
