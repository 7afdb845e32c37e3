import CartoonDemo.Api.Responses
import CartoonDemo.Library.Json
import CartoonDemo.Library.PyIsoformat

/-!
# CartoonDemo.Api.Serialization

How the server **writes a response** (`api/serialization.py`): one recursive function turns
dataclasses, enumerations, datetimes and containers into what JSON has. `PyObject` is what that
function tells apart; each response says which object it is (`toObject`), its fields in the order of
the dataclass.
-/

namespace CartoonDemo

/-- A Python value, as `_to_json_value` takes it apart. -/
inductive PyObject
  | none
  | dataclass (fields : List (String × PyObject))
  | enumMember (value : String)
  | datetime (d : PyDatetime)
  | tuple (items : List PyObject)
  | list (items : List PyObject)
  /-- A mapping, its keys as `str` gives them. -/
  | mapping (items : List (String × PyObject))
  | bool (b : Bool)
  | int (n : ℤ)
  | float (x : PyFloat)
  | str (s : String)

namespace PyObject

mutual

/-- `_to_json_value`. -/
def toJsonValue : PyObject → Json
  | none => .null
  | dataclass fields => .obj (toJsonFields fields)
  | enumMember value => .str value
  | datetime d => .str (String.ofList d.isoformat)
  | tuple items => .arr (toJsonItems items)
  | list items => .arr (toJsonItems items)
  | mapping items => .obj (toJsonFields items)
  | bool b => .bool b
  | int n => .int n
  | float x => .float x
  | str s => .str s

/-- The items of a list. -/
def toJsonItems : List PyObject → List Json
  | [] => []
  | item :: items => item.toJsonValue :: toJsonItems items

/-- The fields of a mapping or of a dataclass. -/
def toJsonFields : List (String × PyObject) → List (String × Json)
  | [] => []
  | (name, value) :: fields => (name, value.toJsonValue) :: toJsonFields fields

end

theorem toJsonItems_map {α : Type} (f : α → PyObject) (xs : List α) :
    toJsonItems (xs.map f) = xs.map fun x => (f x).toJsonValue := by
  induction xs with
  | nil => rfl
  | cons x xs ih => rw [List.map_cons, List.map_cons, toJsonItems, ih]

theorem toJsonFields_map {α : Type} (name : α → String) (f : α → PyObject) (xs : List α) :
    toJsonFields (xs.map fun x => (name x, f x)) = xs.map fun x => (name x, (f x).toJsonValue) := by
  induction xs with
  | nil => rfl
  | cons x xs ih => rw [List.map_cons, List.map_cons, toJsonFields, ih]

/-- A value of type `X | None`. -/
def optional {α : Type} (f : α → PyObject) : Option α → PyObject
  | .none => .none
  | .some x => f x

end PyObject

/-! ### The objects of the responses -/

namespace ApiTypes

/-- The fields of the dataclass, in their order. -/
def InitiateWorkflowApiResponse.toObject
    (r : InitiateWorkflowApiResponse PyDatetime (Option String)) : PyObject :=
  .dataclass [
    ("workflow_id", .str r.workflowId),
    ("state", .enumMember r.state.value),
    ("state_version", .int r.stateVersion),
    ("created_at", .datetime r.createdAt),
    ("trace_id", .optional .str r.traceId)]

/-- The fields of the dataclass, in their order. -/
def WorkflowStatusResponse.toObject (r : WorkflowStatusResponse PyDatetime (Option String)) :
    PyObject :=
  .dataclass [
    ("workflow_id", .str r.workflowId),
    ("state", .enumMember r.state.value),
    ("state_version", .int r.stateVersion),
    ("created_at", .datetime r.createdAt),
    ("updated_at", .datetime r.updatedAt),
    ("revision_count", .int r.revisionCount),
    ("failure_reason", .optional .str r.failureReason)]

/-- The fields of the dataclass, in their order. -/
def TransitionRecordResponse.toObject (r : TransitionRecordResponse PyDatetime (Option String)) :
    PyObject :=
  .dataclass [
    ("transition_id", .str r.transitionId),
    ("from_state", .enumMember r.fromState.value),
    ("to_state", .enumMember r.toState.value),
    ("reason", .str r.reason),
    ("occurred_at", .datetime r.occurredAt),
    ("actor", .optional .str r.actor)]

/-- The fields of the dataclass, in their order. -/
def WorkflowHistoryResponse.toObject (r : WorkflowHistoryResponse PyDatetime (Option String)) :
    PyObject :=
  .dataclass [
    ("workflow_id", .str r.workflowId),
    ("transitions", .tuple (r.transitions.map TransitionRecordResponse.toObject))]

/-- The fields of the dataclass, in their order. -/
def SubmitApprovalApiResponse.toObject (r : SubmitApprovalApiResponse) : PyObject :=
  .dataclass [
    ("workflow_id", .str r.workflowId),
    ("action", .enumMember r.action.value),
    ("from_state", .enumMember r.fromState.value),
    ("to_state", .enumMember r.toState.value),
    ("state_version", .int r.stateVersion),
    ("transition_id", .str r.transitionId)]

/-- The fields of the dataclass, in their order. -/
def TimelineEventResponse.toObject
    (r : TimelineEventResponse PyDatetime (Option TaskType) (List (String × String))) : PyObject :=
  .dataclass [
    ("occurred_at", .datetime r.occurredAt),
    ("event_type", .str r.eventType),
    ("summary", .str r.summary),
    ("state", .optional (fun state => .enumMember state.value) r.state),
    ("task_type", .optional (fun taskType => .enumMember taskType.value) r.taskType),
    ("attributes", .mapping (r.attributes.map fun (key, value) => (key, .str value)))]

/-- The fields of the dataclass, in their order. -/
def WorkflowTimelineResponse.toObject
    (r : WorkflowTimelineResponse PyDatetime (Option TaskType) (List (String × String))) :
    PyObject :=
  .dataclass [
    ("workflow_id", .str r.workflowId),
    ("events", .tuple (r.events.map TimelineEventResponse.toObject))]

end ApiTypes

/-- `dataclass_to_json_dict`. -/
def dataclassToJsonDict (obj : PyObject) : Json := obj.toJsonValue

end CartoonDemo
