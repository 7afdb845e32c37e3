import CartoonDemo.Api.Serialization
import CartoonDemo.Workflow.RepoReaders

/-!
# CartoonDemo.Api.Output

The **output package of a workflow**: `ReadModelAssembler.assemble_output` puts what the four
stages have stored under one roof, and `map_workflow_output` (`api/mappers.py`) hands it on. A
stage that has not stored anything has no section; neither has one whose content is not an object,
the collected stories apart.

`iso` stands for `astimezone(UTC).isoformat()`.
-/

namespace CartoonDemo

namespace PyObject

mutual

/-- What `json.loads` has made, as a Python value. -/
def ofJson : Json → PyObject
  | .null => .none
  | .bool b => .bool b
  | .int n => .int n
  | .float x => .float x
  | .str s => .str s
  | .arr items => .list (ofJsonItems items)
  | .obj fields => .mapping (ofJsonFields fields)

/-- The items of a JSON array. -/
def ofJsonItems : List Json → List PyObject
  | [] => []
  | item :: items => ofJson item :: ofJsonItems items

/-- The fields of a JSON object. -/
def ofJsonFields : List (String × Json) → List (String × PyObject)
  | [] => []
  | (name, value) :: fields => (name, ofJson value) :: ofJsonFields fields

end

mutual

/-- **JSON is written as it is.** -/
@[simp] theorem toJsonValue_ofJson : ∀ value : Json, (ofJson value).toJsonValue = value
  | .null => rfl
  | .bool _ => rfl
  | .int _ => rfl
  | .float _ => rfl
  | .str _ => rfl
  | .arr items => congrArg Json.arr (toJsonItems_ofJson items)
  | .obj fields => congrArg Json.obj (toJsonFields_ofJson fields)

theorem toJsonItems_ofJson : ∀ items : List Json, toJsonItems (ofJsonItems items) = items
  | [] => rfl
  | item :: items => by
      rw [ofJsonItems, toJsonItems, toJsonValue_ofJson item, toJsonItems_ofJson items]

theorem toJsonFields_ofJson :
    ∀ fields : List (String × Json), toJsonFields (ofJsonFields fields) = fields
  | [] => rfl
  | (name, value) :: fields => by
      rw [ofJsonFields, toJsonFields, toJsonValue_ofJson value, toJsonFields_ofJson fields]

end

theorem toJsonFields_append (xs ys : List (String × PyObject)) :
    toJsonFields (xs ++ ys) = toJsonFields xs ++ toJsonFields ys := by
  induction xs with
  | nil => rfl
  | cons x xs ih => rw [List.cons_append, toJsonFields, toJsonFields, ih, List.cons_append]

end PyObject

/-- `WorkflowOutput`. -/
structure WorkflowOutput where
  workflowId : String
  state : WorkflowState
  package : List (String × PyObject)
  isComplete : Bool
  failureReason : Option String

namespace ReadModelAssembler

/-- A row of `ai_invocations`, as the output shows it. -/
structure InvocationView where
  invocationId : String
  agentName : String
  provider : String
  model : String
  status : InvocationStatus
  startedAt : Time
  completedAt : Option Time

/-- What the repositories return for the workflow. -/
structure OutputReads where
  active : ArtifactType → Option ArtifactRecord
  content : String → Except PyException Json
  transitions : List WorkflowTransitionRecord
  invocations : List InvocationView

section Sections

variable (iso : Time → String)

/-- The source of the package: the collected stories. -/
def sourceSection (r : ArtifactRecord) (content : Json) : Option PyObject :=
  let stories :=
    match content with
    | .obj fields => (fields.lookup "stories").getD (.arr [])
    | _ => .arr []
  some (.mapping [
    ("artifact_id", .str r.artifactId),
    ("version", .int r.version),
    ("logical_version", .int r.logicalVersion),
    ("story_count", .int stories.items.length),
    ("collected_at", .str (iso r.createdAt)),
    ("content", .ofJson content)])

/-- The topic of the package. -/
def topicSection (r : ArtifactRecord) : Json → Option PyObject
  | .obj content => some (.mapping [
      ("artifact_id", .str r.artifactId),
      ("version", .int r.version),
      ("selected_topic", .ofJson ((content.lookup "selected_topic").getD (.str ""))),
      ("rationale", .ofJson ((Json.get content "rationale").orElse
        ((content.lookup "why_interesting").getD (.str "")))),
      ("confidence", .ofJson (Json.get content "confidence")),
      ("content", .ofJson (.obj content))])
  | _ => none

/-- The scenario of the package. -/
def scenarioSection (r : ArtifactRecord) : Json → Option PyObject
  | .obj content => some (.mapping [
      ("artifact_id", .str r.artifactId),
      ("version", .int r.version),
      ("logical_version", .int r.logicalVersion),
      ("premise", .ofJson ((content.lookup "premise").getD (.str ""))),
      ("characters", .ofJson ((content.lookup "characters").getD (.arr []))),
      ("panels", .ofJson ((content.lookup "panels").getD (.arr []))),
      ("punchline", .ofJson (Json.get content "punchline")),
      ("content", .ofJson (.obj content))])
  | _ => none

/-- The review of the package. -/
def criticSection (r : ArtifactRecord) : Json → Option PyObject
  | .obj content => some (.mapping [
      ("artifact_id", .str r.artifactId),
      ("version", .int r.version),
      ("verdict", .ofJson ((Json.get content "verdict").orElse
        ((content.lookup "status").getD (.str "")))),
      ("dimensions", .ofJson ((content.lookup "dimensions").getD (.obj []))),
      ("content", .ofJson (.obj content))])
  | _ => none

/-- One entry of `ai_invocations`. -/
def invocationSummary (i : InvocationView) : PyObject :=
  .mapping [
    ("invocation_id", .str i.invocationId),
    ("agent_name", .str i.agentName),
    ("provider", .str i.provider),
    ("model", .str i.model),
    ("status", .str i.status.value),
    ("started_at", .str (iso i.startedAt)),
    ("completed_at", .optional (fun t => .str (iso t)) i.completedAt)]

/-- The execution of the package. -/
def executionSection (reads : OutputReads) (w : WorkflowRecord) : PyObject :=
  .mapping [
    ("workflow_id", .str w.workflowId),
    ("state", .str w.state.value),
    ("state_version", .int w.stateVersion),
    ("revision_count", .int w.revisionCount),
    ("created_at", .str (iso w.createdAt)),
    ("updated_at", .str (iso w.updatedAt)),
    ("transition_count", .int reads.transitions.length),
    ("failure_reason", .optional .str w.failureReason),
    ("invocations", .list (reads.invocations.map (invocationSummary iso)))]

/-- The section of one artifact type, if there is one. -/
def OutputReads.entry (reads : OutputReads) (key : String) (t : ArtifactType)
    (build : ArtifactRecord → Json → Option PyObject) :
    Except PyException (List (String × PyObject)) :=
  match reads.active t with
  | none => .ok []
  | some r => do
      let content ← reads.content r.artifactId
      return (build r content).toList.map fun value => (key, value)

/-- `workflow.failure_reason or state.value.lower()`. -/
def endReason (w : WorkflowRecord) : String :=
  match w.failureReason with
  | none | some "" => w.state.value.toLower
  | some reason => reason

/-- `assemble_output`. -/
def assembleOutput (reads : OutputReads) (w : WorkflowRecord) : Except PyException WorkflowOutput := do
  let source ← reads.entry "source" .collectedStories (sourceSection iso)
  let topic ← reads.entry "topic" .topicSelection topicSection
  let scenario ← reads.entry "scenario" .scenario scenarioSection
  let critic ← reads.entry "critic" .criticReview criticSection
  return {
    workflowId := w.workflowId
    state := w.state
    package := source ++ topic ++ scenario ++ critic ++ [("execution", executionSection iso reads w)]
    isComplete := w.state = .approved
    failureReason :=
      if w.state.isTerminal && w.state ≠ .approved then
        some (endReason w)
      else none }

end Sections

end ReadModelAssembler

namespace ApiTypes

/-- The body of `GET /workflows/{id}/output`. -/
structure WorkflowOutputResponse (Package Opt : Type) where
  workflowId : String
  state : WorkflowState
  package : Package
  isComplete : Bool
  failureReason : Opt

/-- The fields of the dataclass, in their order. -/
def WorkflowOutputResponse.toObject
    (r : WorkflowOutputResponse (List (String × PyObject)) (Option String)) : PyObject :=
  .dataclass [
    ("workflow_id", .str r.workflowId),
    ("state", .enumMember r.state.value),
    ("package", .mapping r.package),
    ("is_complete", .bool r.isComplete),
    ("failure_reason", .optional .str r.failureReason)]

end ApiTypes

open ApiTypes

/-- `map_workflow_output`. -/
def mapWorkflowOutput (output : WorkflowOutput) :
    WorkflowOutputResponse (List (String × PyObject)) (Option String) :=
  { workflowId := output.workflowId, state := output.state, package := output.package,
    isComplete := output.isComplete, failureReason := output.failureReason }

end CartoonDemo
