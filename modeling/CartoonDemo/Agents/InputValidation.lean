import CartoonDemo.Agents.Messages
import CartoonDemo.Agents.Types

/-!
# CartoonDemo.Agents.InputValidation

The **validation of agent inputs** (`agents/validation/input.py`): what each agent checks of its input
before it calls a provider. A refused input is an `AgentInputValidationError`; each check passes
exactly the inputs that its lemma says.
-/

namespace CartoonDemo

namespace Agents

/-- What the topic selector is given. -/
structure TopicSelectionInput where
  candidates : List CandidateStory

/-- What the scenario generator is given. -/
structure ScenarioGenerationInput where
  topic : TopicSelectionOutput

/-- What the critic is given. -/
structure CriticInput where
  scenario : ScenarioOutput
  revisionNumber : Int

/-- `MAX_TOPIC_CANDIDATES`. -/
def maxTopicCandidates : Nat := 100

/-- `input_validation_message`. -/
def inputValidationMessage : AgentId → String → String := AgentErrorKind.inputValidation.messageOf

/-- The `AgentInputValidationError` with this reason. -/
def inputError (agentId : AgentId) (reason : String) : AgentError :=
  ⟨.inputValidation, inputValidationMessage agentId reason, some agentId⟩

namespace InputValidator

/-- `validate_topic_selection`. -/
def validateTopicSelection (input : TopicSelectionInput) : Except AgentError Unit :=
  if input.candidates.length = 0 then .error (inputError .topicSelector "empty candidates")
  else if input.candidates.length > maxTopicCandidates then
    .error (inputError .topicSelector
      ("candidate count exceeds " ++ toString maxTopicCandidates))
  else .ok ()

/-- `validate_scenario_generation`. -/
def validateScenarioGeneration (input : ScenarioGenerationInput) : Except AgentError Unit :=
  if input.topic.outcome ≠ .topicSelected then
    .error (inputError .scenarioGenerator "topic outcome is not topic_selected")
  else .ok ()

/-- `validate_critic`. -/
def validateCritic (input : CriticInput) : Except AgentError Unit :=
  if input.scenario.panels.length = 0 then .error (inputError .critic "empty panels")
  else if PyStr.strip input.scenario.punchline = "" then
    .error (inputError .critic "blank punchline")
  else .ok ()

theorem validateTopicSelection_ok_iff {input : TopicSelectionInput} :
    validateTopicSelection input = .ok () ↔
      0 < input.candidates.length ∧ input.candidates.length ≤ maxTopicCandidates := by
  rw [validateTopicSelection]
  split
  · next hempty => exact iff_of_false (by simp) fun h => absurd hempty h.1.ne'
  · next hempty =>
      split
      · next hmany => exact iff_of_false (by simp) fun h => absurd h.2 hmany.not_ge
      · next hmany => exact iff_of_true rfl ⟨Nat.pos_of_ne_zero hempty, Nat.le_of_not_gt hmany⟩

theorem validateScenarioGeneration_ok_iff {input : ScenarioGenerationInput} :
    validateScenarioGeneration input = .ok () ↔ input.topic.outcome = .topicSelected := by
  rw [validateScenarioGeneration]
  split
  · next hother => exact iff_of_false (by simp) hother
  · next hselected => exact iff_of_true rfl (not_not.mp hselected)

theorem validateCritic_ok_iff {input : CriticInput} :
    validateCritic input = .ok () ↔
      input.scenario.panels ≠ [] ∧ PyStr.strip input.scenario.punchline ≠ "" := by
  rw [validateCritic]
  split
  · next hempty => exact iff_of_false (by simp) fun h => h.1 (List.length_eq_zero_iff.mp hempty)
  · next hempty =>
      split
      · next hblank => exact iff_of_false (by simp) fun h => h.2 hblank
      · next hblank => exact iff_of_true rfl ⟨mt List.length_eq_zero_iff.mpr hempty, hblank⟩

end InputValidator

end Agents

end CartoonDemo
