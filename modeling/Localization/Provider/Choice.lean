import Localization.Config.Basic
import Localization.Provider.Chat
import Localization.Provider.DeepL
import Localization.Provider.Gemini

/-!
# Which service translates

The settings of a project name a service and hold its key. A service without a key and a service
that is not known are refused.
-/

namespace Localization.Provider

/-- A service that was chosen, with what it needs. -/
inductive Choice where
  | chat (key model : Json)
  | gemini (key model : Json)
  | deepL (key : Json)

namespace Choice

/-- The service that settings name. -/
def ofConfig (s : ServiceConfig) : Except Failure Choice :=
  if !s.apiKey.isTruthy then .error (.config ("No API key configured for " ++ s.provider))
  else if s.provider = Chat.name then
    .ok (.chat s.apiKey (if s.model.isTruthy then s.model else .str Chat.standardModel))
  else if s.provider = Gemini.name then
    .ok (.gemini s.apiKey (if s.model.isTruthy then s.model else .str Gemini.standardModel))
  else if s.provider = DeepL.name then .ok (.deepL s.apiKey)
  else .error (.config ("Unknown translation provider: " ++ s.provider))

/-- How calls of the services are made. -/
structure Senders (σ : Type) where
  chat : σ → Chat.Call → Except Failure (Option Text) × σ
  gemini : σ → Gemini.Call → Except Failure Gemini.Response × σ
  deepL : σ → DeepL.Call → Except Failure DeepL.Items × σ

/-- The service that was chosen. -/
def service {σ : Type} (senders : Senders σ) : Choice → Except Failure (Provider σ)
  | .chat key model => Chat.service key.bare true model.bare senders.chat
  | .gemini key model => Gemini.service key.bare model.bare senders.gemini
  | .deepL key => DeepL.service key.bare true senders.deepL

/-- What stands for a chosen service. -/
def name : Choice → Text
  | .chat _ _ => Chat.name
  | .gemini _ _ => Gemini.name
  | .deepL _ => DeepL.name

/-- The model that a chosen service is asked for, if it has models. -/
def model? : Choice → Option Json
  | .chat _ model => some model
  | .gemini _ model => some model
  | .deepL _ => none

/-- The address of a chosen service, if it has one of its own. -/
def address? : Choice → Option Text
  | .gemini _ model => some (Gemini.address model.bare)
  | _ => none

end Choice

end Localization.Provider
