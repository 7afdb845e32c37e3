import CartoonDemo.Types
import CartoonDemo.Library.PyFind

/-!
# CartoonDemo.Agents.Messages

The **errors of the agents** (`agents/errors.py`) and their texts (`agents/messages.py`). A reason
that might quote a prompt or a credential is left out of the text.
-/

namespace CartoonDemo

namespace Agents

/-- The subclasses of `AgentError`. -/
inductive AgentErrorKind
  | inputValidation | outputValidation | promptLoad | configuration
  deriving DecidableEq, Repr

/-- `code`. -/
def AgentErrorKind.code : AgentErrorKind → String
  | inputValidation => "AGT_INPUT"
  | outputValidation => "AGT_OUTPUT"
  | promptLoad => "AGT_PROMPT"
  | configuration => "AGT_CONFIG"

/-- An `AgentError`. -/
structure AgentError where
  kind : AgentErrorKind
  message : String
  agentId : Option AgentId := none
  deriving DecidableEq, Repr

/-- `_SENSITIVE_REASON_MARKERS`. -/
def sensitiveReasonMarkers : List String :=
  ["prompt", "response", "api_key", "api-key", "sk-", "secret", "top_secret"]

/-- `s.lower()`, as far as it makes a difference to a search for ASCII text. -/
def lowered (s : String) : List Char :=
  s.toList.flatMap fun c =>
    if c.toNat = 0x130 then ['i', Char.ofNat 0x307]
    else if c.toNat = 0x212a then ['k']
    else [c.toLower]

/-- `_bounded_reason`. -/
def boundedReason (reason : String) : String :=
  if sensitiveReasonMarkers.any fun marker => (PyStr.cut marker.toList (lowered reason)).isSome
  then "validation failed"
  else reason

/-- The texts of the errors differ in their code alone. -/
def AgentErrorKind.messageOf (kind : AgentErrorKind) (agentId : AgentId) (reason : String) : String :=
  kind.code ++ ": agent=" ++ agentId.value ++ " — " ++ boundedReason reason

/-- `output_validation_message`. -/
def outputValidationMessage : AgentId → String → String := AgentErrorKind.outputValidation.messageOf

/-- `prompt_load_message`. -/
def promptLoadMessage : AgentId → String → String := AgentErrorKind.promptLoad.messageOf

end Agents

end CartoonDemo
