import CartoonDemo.Agents.JsonExtract
import CartoonDemo.Agents.Messages
import CartoonDemo.Agents.Types
import CartoonDemo.Library.JsonSchema

/-!
# CartoonDemo.Agents.OutputValidation

The **validation of provider outputs** (`agents/validation/schema.py`, `agents/schemas/*.json`):
the text is parsed, checked against the schema of the stage and turned into the output of the
stage, with the checks that the code makes once more by hand.

Section variables stand for `json.loads`, for the text of the error that `jsonschema.validate`
chooses, and for Python's `str` of a value that is not a string.
-/

namespace CartoonDemo

namespace Agents

/-! ### Schemas

The JSON schemas of the three agents, keyword by keyword.
-/

/-- The keywords of an object without further properties. -/
def objectKeywords (required : List String) (fields : List (String × Schema)) : List Schema :=
  [.type [.object], .onlyProperties (fields.map Prod.fst), .required required, .properties fields]

/-- A text. -/
def stringSchema : Schema := .type [.string]

/-- A score: `"type": "number", "minimum": 0.0, "maximum": 1.0`. -/
def scoreSchema : Schema := .all [.type [.number], .minimum 0, .maximum 1]

/-- The seven scores, by name. -/
def scoreNames : List String :=
  ["technical_relevance", "developer_relevance", "discussion_interest", "humour_potential",
   "irony_contradiction", "visual_scenario_potential", "background_knowledge_required"]

/-- The scores of a topic, or null. -/
def scoresSchema : Schema := .all
  [.type [.object, .null], .onlyProperties scoreNames,
   .properties (scoreNames.map fun name => (name, scoreSchema)), .required scoreNames]

/-- A topic that was not selected, with the reason. -/
def alternativeSchema : Schema :=
  .all (objectKeywords ["topic", "rationale"] [("topic", stringSchema), ("rationale", stringSchema)])

/-- The `properties` of a topic selection. -/
def topicFields : List (String × Schema) :=
  [("outcome", .all [.type [.string], .enum ["topic_selected", "no_suitable_topic"]]),
   ("selected_topic", .type [.string, .null]),
   ("why_interesting", .type [.string, .null]),
   ("cartoon_angle", .type [.string, .null]),
   ("scores", scoresSchema),
   ("alternatives", .all [.type [.array], .items alternativeSchema])]

/-- The condition of the two cases of the topic schema. -/
def outcomeIs (outcome : String) : Schema :=
  .all [.properties [("outcome", .const outcome)], .required ["outcome"]]

/-- What is `required` when a topic was selected. -/
def selectedNames : List String :=
  ["selected_topic", "why_interesting", "cartoon_angle", "scores", "alternatives"]

/-- What is not null then. -/
def selectedFields : List (String × Schema) :=
  [("selected_topic", .type [.string]), ("why_interesting", .type [.string]),
   ("cartoon_angle", .type [.string]), ("scores", .type [.object])]

/-- What is null, or empty, when none was. -/
def unselectedFields : List (String × Schema) :=
  [("selected_topic", .type [.null]), ("why_interesting", .type [.null]),
   ("cartoon_angle", .type [.null]), ("scores", .type [.null]), ("alternatives", .maxItems 0)]

/-- What the schema asks of each outcome. -/
def topicCases : Schema := .all
  [.ifThen (outcomeIs "topic_selected") (.all [.required selectedNames, .properties selectedFields]),
   .ifThen (outcomeIs "no_suitable_topic")
     (.all [.required ["alternatives"], .properties unselectedFields])]

/-- `topic_selection.json`. -/
def topicSelectionSchema : Schema := .all (topicCases :: objectKeywords ["outcome"] topicFields)

/-- A panel: a scene and its dialogue. -/
def panelSchema : Schema :=
  .all (objectKeywords ["scene", "dialogue"] [("scene", stringSchema), ("dialogue", stringSchema)])

/-- The `properties` of a scenario. -/
def scenarioFields : List (String × Schema) :=
  [("topic", stringSchema), ("premise", stringSchema),
   ("characters", .all [.type [.array], .items stringSchema, .minItems 1]),
   ("panels", .all [.type [.array], .minItems 3, .maxItems 4, .items panelSchema]),
   ("punchline", stringSchema)]

/-- `scenario.json`. -/
def scenarioSchema : Schema :=
  .all (objectKeywords ["topic", "premise", "characters", "panels", "punchline"] scenarioFields)

/-- The `properties` of a critic's issue. -/
def issueFields : List (String × Schema) :=
  [("dimension", .all [.type [.string],
      .enum ["technical_accuracy", "scenario_quality", "publication_quality"]]),
   ("description", .all [.type [.string], .maxLength 2000])]

/-- An issue. -/
def issueSchema : Schema := .all (objectKeywords ["dimension", "description"] issueFields)

/-- The `properties` of a review. -/
def criticFields : List (String × Schema) :=
  [("status", .all [.type [.string], .enum ["PASS", "REVISE"]]),
   ("issues", .all [.type [.array], .items issueSchema]),
   ("suggested_changes", .all [.type [.array], .items stringSchema])]

/-- `critic.json`. -/
def criticSchema : Schema :=
  .all (objectKeywords ["status", "issues", "suggested_changes"] criticFields)

/-! ### Exceptions

Besides its own errors, the code that reads a parsed answer can run into what Python raises for a
value of another type.
-/

/-- What a validation raises: an `AgentError`, or an exception of the language by its name. -/
inductive OutputException
  | agent (e : AgentError)
  | py (name : String)
  deriving DecidableEq

/-- What `json.loads` makes of a text. -/
inductive LoadsResult
  | value (v : Json)
  /-- `JSONDecodeError`, with its `msg`. -/
  | decodeError (msg : String)
  /-- Another exception, such as the `ValueError` of an integer with too many digits or a
  `RecursionError`. -/
  | otherError (name : String)

/-- `_raise_output_error`. -/
def outputError (agentId : AgentId) (reason : String) : OutputException :=
  .agent ⟨.outputValidation, outputValidationMessage agentId reason, some agentId⟩

/-- `fields[key]`. -/
def item (fields : List (String × Json)) (key : String) : Except OutputException Json :=
  match fields.lookup key with
  | some v => .ok v
  | none => .error (.py "KeyError")

/-- `for item in value`. -/
def iterate : Json → Except OutputException (List Json)
  | .arr values => .ok values
  | .obj fields => .ok (fields.map fun field => .str field.1)
  | .str s => .ok (s.toList.map fun c => .str (String.ofList [c]))
  | _ => .error (.py "TypeError")

/-! ### Parsing

`parse_provider_content`, and the schema check that follows it.
-/

/-- `MAX_JSON_DEPTH`. -/
def maxJsonDepth : Nat := 32

/-- `RESPONSE_CONTENT_MAX_BYTES`. -/
def responseContentMax : Nat := 1048576

/-- `ParsedProviderPayload`. -/
structure ParsedProviderPayload where
  data : List (String × Json)
  rawLength : Nat

section Validation

variable (loads : String → LoadsResult) (bestMessage : Schema → Json → String)
  (render : Json → String)

/-- `_max_json_depth`. -/
def checkMaxJsonDepth (data : Json) : Except OutputException Unit :=
  if data.nesting ≤ maxJsonDepth then .ok ()
  else .error (.agent ⟨.outputValidation, "JSON depth exceeds 32", none⟩)

/-- `parse_provider_content`. -/
def parseProviderContent (content : String) (agentId : AgentId) :
    Except OutputException ParsedProviderPayload :=
  if content.length > responseContentMax then
    .error (outputError agentId "response content exceeds size limit")
  else if PyStr.strip content = "" then .error (outputError agentId "empty content")
  else match loads (extractJsonPayload content) with
    | .decodeError msg => .error (outputError agentId ("invalid JSON: " ++ msg))
    | .otherError name => .error (.py name)
    | .value (.obj data) => do
        checkMaxJsonDepth (.obj data)
        return ⟨data, content.length⟩
    | .value _ => .error (outputError agentId "JSON root must be object")

/-- `jsonschema.validate`, with the error that the validation raises instead. -/
def validateSchema (schema : Schema) (data : Json) (agentId : AgentId) : Except OutputException Unit :=
  if schema.accepts data then .ok () else .error (outputError agentId (bestMessage schema data))

/-! ### Topic selection -/

/-- `_validate_score_range`. -/
def validateScoreRange (value : Json) (fieldName : String) (agentId : AgentId) :
    Except OutputException PyFloat :=
  let inRange (score : Option PyFloat) : Except OutputException PyFloat :=
    match score with
    | none => .error (.py "OverflowError")
    | some score =>
        if score.lt PyFloat.zero || PyFloat.lt (.finite 1) score then
          .error (outputError agentId ("score " ++ fieldName ++ " outside 0.0..1.0"))
        else .ok score
  match value with
  | .bool b => inRange (PyFloat.ofInt b.toInt)
  | .int n => inRange (PyFloat.ofInt n)
  | .float x => inRange (some x)
  | _ => .error (outputError agentId ("invalid score for " ++ fieldName))

/-- A score of the scores of a topic. -/
def readScore (scores : List (String × Json)) (fieldName : String) : Except OutputException PyFloat := do
  let value ← item scores fieldName
  validateScoreRange value fieldName .topicSelector

/-- `EvaluationScores(...)`, with every score checked in turn. -/
def readScores (scores : List (String × Json)) : Except OutputException EvaluationScores := do
  let technicalRelevance ← readScore scores "technical_relevance"
  let developerRelevance ← readScore scores "developer_relevance"
  let discussionInterest ← readScore scores "discussion_interest"
  let humourPotential ← readScore scores "humour_potential"
  let ironyContradiction ← readScore scores "irony_contradiction"
  let visualScenarioPotential ← readScore scores "visual_scenario_potential"
  let backgroundKnowledgeRequired ← readScore scores "background_knowledge_required"
  return {
    technicalRelevance, developerRelevance, discussionInterest, humourPotential, ironyContradiction,
    visualScenarioPotential, backgroundKnowledgeRequired }

/-- The text of a required field. -/
def itemText (fields : List (String × Json)) (key : String) : Except OutputException String := do
  let value ← item fields key
  return value.toStr render

/-- The alternative of an item that is a dict. -/
def readAlternatives : List Json → Except OutputException (List TopicAlternative)
  | [] => .ok []
  | .obj fields :: values => do
      let topic ← itemText render fields "topic"
      let rationale ← itemText render fields "rationale"
      let alternatives ← readAlternatives values
      return ⟨topic, rationale⟩ :: alternatives
  | _ :: values => readAlternatives values

/-- `TopicSelectionOutcome(value)`. -/
def outcomeOfValue : String → Except OutputException TopicSelectionOutcome
  | "topic_selected" => .ok .topicSelected
  | "no_suitable_topic" => .ok .noSuitableTopic
  | _ => .error (.py "ValueError")

/-- `validate_topic_output`. -/
def validateTopicOutput (payload : ParsedProviderPayload) (promptVersion : String) :
    Except OutputException TopicSelectionOutput := do
  let data := payload.data
  validateSchema bestMessage topicSelectionSchema (.obj data) .topicSelector
  let outcome ← outcomeOfValue (← itemText render data "outcome")
  match outcome with
  | .topicSelected =>
      match Json.get data "scores" with
      | .obj scoresRaw => do
          let scores ← readScores scoresRaw
          let alternatives ← readAlternatives render
            (← iterate ((data.lookup "alternatives").getD (.arr [])))
          let selectedTopic ← itemText render data "selected_topic"
          let whyInteresting ← itemText render data "why_interesting"
          let cartoonAngle ← itemText render data "cartoon_angle"
          return {
            outcome, promptVersion, selectedTopic, whyInteresting, cartoonAngle, scores, alternatives }
      | _ => .error (outputError .topicSelector "missing scores")
  | .noSuitableTopic => return { outcome, promptVersion }

/-! ### Scenarios -/

/-- The panel of an item that is a dict. -/
def readPanels : List Json → Except OutputException (List ScenarioPanel)
  | [] => .ok []
  | .obj fields :: values => do
      let scene ← itemText render fields "scene"
      let dialogue ← itemText render fields "dialogue"
      let panels ← readPanels values
      return ⟨scene, dialogue⟩ :: panels
  | _ :: values => readPanels values

/-- `validate_scenario_output`. -/
def validateScenarioOutput (payload : ParsedProviderPayload) (promptVersion : String) :
    Except OutputException ScenarioOutput := do
  let data := payload.data
  validateSchema bestMessage scenarioSchema (.obj data) .scenarioGenerator
  match (data.lookup "panels").getD (.arr []) with
  | .arr panelsRaw => do
      if panelsRaw.length < 3 ∨ panelsRaw.length > 4 then
        .error (outputError .scenarioGenerator
          ("panel count " ++ toString panelsRaw.length ++ " outside 3..4"))
      let panels ← readPanels render panelsRaw
      let characters ← iterate ((data.lookup "characters").getD (.arr []))
      let topic ← itemText render data "topic"
      let premise ← itemText render data "premise"
      let punchline ← itemText render data "punchline"
      return {
        topic, premise, characters := characters.map (Json.toStr render), panels, punchline,
        promptVersion }
  | _ => .error (outputError .scenarioGenerator "panels must be an array")

/-! ### Critic -/

/-- `CRITIC_ISSUE_DESCRIPTION_MAX`. -/
def criticIssueDescriptionMax : Nat := 2000

/-- `CriticDimension(value)`. -/
def dimensionOfValue : String → Except OutputException CriticDimension
  | "technical_accuracy" => .ok .technicalAccuracy
  | "scenario_quality" => .ok .scenarioQuality
  | "publication_quality" => .ok .publicationQuality
  | _ => .error (.py "ValueError")

/-- `CriticStatus(value)`; the code then asks whether it is one of the two that there are. -/
def statusOfValue : String → Except OutputException CriticStatus
  | "PASS" => .ok .pass
  | "REVISE" => .ok .revise
  | _ => .error (.py "ValueError")

/-- The issue of an item that is a dict. -/
def readIssues : List Json → Except OutputException (List CriticIssue)
  | [] => .ok []
  | .obj fields :: values => do
      let description := Json.strOf render fields "description" ""
      if description.length > criticIssueDescriptionMax then
        .error (outputError .critic "issue description exceeds max length")
      let dimension ← dimensionOfValue (← itemText render fields "dimension")
      let issues ← readIssues values
      return ⟨dimension, description⟩ :: issues
  | _ :: values => readIssues values

/-- `validate_critic_output`. -/
def validateCriticOutput (payload : ParsedProviderPayload) (promptVersion : String) :
    Except OutputException CriticOutput := do
  let data := payload.data
  validateSchema bestMessage criticSchema (.obj data) .critic
  let status ← statusOfValue (← itemText render data "status")
  let issues ← readIssues render ((data.lookup "issues").getD (.arr [])).items
  let suggestedChanges :=
    ((data.lookup "suggested_changes").getD (.arr [])).items.map (Json.toStr render)
  return { status, issues, suggestedChanges, promptVersion }

end Validation

end Agents

end CartoonDemo
