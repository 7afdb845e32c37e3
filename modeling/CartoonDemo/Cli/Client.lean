import CartoonDemo.Api.Serialization

/-!
# CartoonDemo.Cli.Client

How the client **reads a response** (`cli/client.py`): one function by hand for each response. A
field that may be missing is taken over as it was found, so `None`, a text or an enumeration member
on the server is `null` or a text on the client (`onClient`).

What the server writes is read back, but for datetimes whose offset is a part of a second
(`responses_read_back`).
-/

namespace CartoonDemo

open ApiTypes

/-! ### Access to a value of JSON -/

namespace Json

/-- `data[key]`; `none` is a `KeyError` or a `TypeError`. -/
def subscript (data : Json) (key : String) : Option Json :=
  match data with
  | .obj fields => fields.lookup key
  | _ => none

/-- `data.get(key, default)`; `none` is an `AttributeError`. -/
def getOr (data : Json) (key : String) (default : Json) : Option Json :=
  match data with
  | .obj fields => some ((fields.lookup key).getD default)
  | _ => none

/-- What a loop over a value runs through; `none` is a `TypeError`. -/
def iterate : Json → Option (List Json)
  | .arr items => some items
  | .obj fields => some (fields.map fun field => .str field.1)
  | .str s => some (s.toList.map fun c => .str (String.singleton c))
  | _ => none

end Json

/-! ### The functions of the client -/

namespace Client

/-- `_parse_datetime`. -/
def parseDatetime (value : String) : Option PyDatetime :=
  PyDatetime.fromisoformat (PyStr.replaceChar 'Z' PyDatetime.utcZone value.toList)

section Parse

-- Python's `str` of a value that is not a string
variable (render : Json → String)

/-- `_parse_state`. -/
def parseState (value : Json) : Option WorkflowState :=
  WorkflowState.all.find? fun state => state.value = value.toStr render

/-- `_parse_action`. -/
def parseAction (value : Json) : Option ApprovalAction :=
  [ApprovalAction.approve, .reject, .requestRegeneration].find? fun action =>
    action.value = value.toStr render

/-- `_parse_initiate_response`. -/
def parseInitiateResponse (data : Json) : Option (InitiateWorkflowApiResponse PyDatetime Json) := do
  let workflowId ← data.subscript "workflow_id"
  let state ← parseState render (← data.subscript "state")
  let stateVersion ← (← data.subscript "state_version").toInt
  let createdAt ← parseDatetime ((← data.subscript "created_at").toStr render)
  let traceId ← data.getOr "trace_id" .null
  return { workflowId := workflowId.toStr render, state, stateVersion, createdAt, traceId }

/-- `_parse_status_response`. -/
def parseStatusResponse (data : Json) : Option (WorkflowStatusResponse PyDatetime Json) := do
  let workflowId ← data.subscript "workflow_id"
  let state ← parseState render (← data.subscript "state")
  let stateVersion ← (← data.subscript "state_version").toInt
  let createdAt ← parseDatetime ((← data.subscript "created_at").toStr render)
  let updatedAt ← parseDatetime ((← data.subscript "updated_at").toStr render)
  let revisionCount ← (← data.getOr "revision_count" (.int 0)).toInt
  let failureReason ← data.getOr "failure_reason" .null
  return { workflowId := workflowId.toStr render, state, stateVersion, createdAt, updatedAt,
           revisionCount, failureReason }

/-- One element of `transitions`. -/
def parseTransition (item : Json) : Option (TransitionRecordResponse PyDatetime Json) := do
  let transitionId ← item.subscript "transition_id"
  let fromState ← parseState render (← item.subscript "from_state")
  let toState ← parseState render (← item.subscript "to_state")
  let reason ← item.subscript "reason"
  let occurredAt ← parseDatetime ((← item.subscript "occurred_at").toStr render)
  let actor ← item.getOr "actor" .null
  return { transitionId := transitionId.toStr render, fromState, toState,
           reason := reason.toStr render, occurredAt, actor }

/-- `_parse_history_response`. -/
def parseHistoryResponse (data : Json) : Option (WorkflowHistoryResponse PyDatetime Json) := do
  let items ← (← data.getOr "transitions" (.arr [])).iterate
  let transitions ← items.mapM (parseTransition render)
  let workflowId ← data.subscript "workflow_id"
  return { workflowId := workflowId.toStr render, transitions }

/-- One element of `events`. -/
def parseEvent (item : Json) : Option (TimelineEventResponse PyDatetime Json Json) := do
  let occurredAt ← parseDatetime ((← item.subscript "occurred_at").toStr render)
  let eventType ← item.subscript "event_type"
  let summary ← item.subscript "summary"
  let shown ← item.getOr "state" .null
  let state ←
    if shown.truthy then (parseState render (← item.subscript "state")).map some else some none
  let taskType ← item.getOr "task_type" .null
  let attributes ← item.getOr "attributes" (.obj [])
  return { occurredAt, eventType := eventType.toStr render, summary := summary.toStr render, state,
           taskType, attributes }

/-- `_parse_timeline_response`. -/
def parseTimelineResponse (data : Json) :
    Option (WorkflowTimelineResponse PyDatetime Json Json) := do
  let items ← (← data.getOr "events" (.arr [])).iterate
  let events ← items.mapM (parseEvent render)
  let workflowId ← data.subscript "workflow_id"
  return { workflowId := workflowId.toStr render, events }

/-- `_parse_approval_response`. -/
def parseApprovalResponse (data : Json) : Option SubmitApprovalApiResponse := do
  let workflowId ← data.subscript "workflow_id"
  let action ← parseAction render (← data.subscript "action")
  let fromState ← parseState render (← data.subscript "from_state")
  let toState ← parseState render (← data.subscript "to_state")
  let stateVersion ← (← data.subscript "state_version").toInt
  let transitionId ← data.subscript "transition_id"
  return { workflowId := workflowId.toStr render, action, fromState, toState, stateVersion,
           transitionId := transitionId.toStr render }

end Parse

end Client

/-! ### A response on the client

The client keeps optional fields as the JSON values that it has received.
-/

/-- A value of type `str | None`. -/
def textOrNull : Option String → Json
  | none => .null
  | some s => .str s

/-- A value of type `TaskType | None`: an enumeration member is equal to its text. -/
def taskTypeOrNull : Option TaskType → Json
  | none => .null
  | some taskType => .str taskType.value

/-- An optional state in JSON. -/
def stateOrNull : Option WorkflowState → Json
  | none => .null
  | some state => .str state.value

/-- A value of type `Mapping[str, str]`. -/
def textMapping (attributes : List (String × String)) : Json :=
  .obj (attributes.map fun (key, value) => (key, .str value))

namespace ApiTypes

/-- The response as the client has it. -/
def InitiateWorkflowApiResponse.onClient
    (r : InitiateWorkflowApiResponse PyDatetime (Option String)) :
    InitiateWorkflowApiResponse PyDatetime Json :=
  { r with traceId := textOrNull r.traceId }

/-- The response as the client has it. -/
def WorkflowStatusResponse.onClient (r : WorkflowStatusResponse PyDatetime (Option String)) :
    WorkflowStatusResponse PyDatetime Json :=
  { r with failureReason := textOrNull r.failureReason }

/-- The transition as the client has it. -/
def TransitionRecordResponse.onClient (r : TransitionRecordResponse PyDatetime (Option String)) :
    TransitionRecordResponse PyDatetime Json :=
  { r with actor := textOrNull r.actor }

/-- The response as the client has it. -/
def WorkflowHistoryResponse.onClient (r : WorkflowHistoryResponse PyDatetime (Option String)) :
    WorkflowHistoryResponse PyDatetime Json :=
  { r with transitions := r.transitions.map TransitionRecordResponse.onClient }

/-- The event as the client has it. -/
def TimelineEventResponse.onClient
    (r : TimelineEventResponse PyDatetime (Option TaskType) (List (String × String))) :
    TimelineEventResponse PyDatetime Json Json :=
  { r with taskType := taskTypeOrNull r.taskType, attributes := textMapping r.attributes }

/-- The response as the client has it. -/
def WorkflowTimelineResponse.onClient
    (r : WorkflowTimelineResponse PyDatetime (Option TaskType) (List (String × String))) :
    WorkflowTimelineResponse PyDatetime Json Json :=
  { r with events := r.events.map TimelineEventResponse.onClient }

end ApiTypes

/-! ### Field by field -/

section Fields

@[simp] theorem toJsonValue_optional_str (o : Option String) :
    (PyObject.optional .str o).toJsonValue = textOrNull o := by cases o <;> rfl

theorem toJsonValue_optional_taskType (o : Option TaskType) :
    (PyObject.optional (fun taskType => .enumMember taskType.value) o).toJsonValue =
      taskTypeOrNull o := by cases o <;> rfl

theorem toJsonValue_optional_state (o : Option WorkflowState) :
    (PyObject.optional (fun state => .enumMember state.value) o).toJsonValue = stateOrNull o := by
  cases o <;> rfl

theorem toJsonValue_attributes (attributes : List (String × String)) :
    (PyObject.mapping (attributes.map fun (key, value) => (key, .str value))).toJsonValue =
      textMapping attributes := by
  rw [PyObject.toJsonValue, textMapping]
  exact congrArg Json.obj (PyObject.toJsonFields_map Prod.fst (fun a => .str a.2) attributes)

variable (render : Json → String)

@[simp] theorem Client.parseState_value (state : WorkflowState) :
    Client.parseState render (.str state.value) = some state := by
  cases state <;> rfl

@[simp] theorem Client.parseAction_value (action : ApprovalAction) :
    Client.parseAction render (.str action.value) = some action := by
  cases action <;> rfl

@[simp] theorem Client.parseDatetime_isoformat (d : PyDatetime) :
    Client.parseDatetime (String.ofList d.isoformat) = PyDatetime.fromisoformat d.isoformat := by
  rw [Client.parseDatetime, String.toList_ofList, PyDatetime.replaceChar_isoformat]

theorem truthy_state (state : WorkflowState) : (Json.str state.value).truthy = true := by
  cases state <;> rfl

/-- What is read item by item is read as a list. -/
theorem mapM_map_eq_some_iff {α β γ : Type} {f : β → Option γ} {write : α → β} {dest : α → γ}
    {xs : List α} :
    (xs.map write).mapM f = some (xs.map dest) ↔ ∀ x ∈ xs, f (write x) = some (dest x) := by
  induction xs with
  | nil => simp
  | cons x xs ih =>
      rw [List.map_cons, List.map_cons, List.mapM_cons, List.forall_mem_cons, ← ih]
      cases hx : f (write x) with
      | none => simp
      | some y =>
          cases hxs : (xs.map write).mapM f with
          | none => simp
          | some ys => simp

end Fields

/-! ### Reading back

One equivalence for each function of the client.
-/

/-- The offset of a datetime is none, zero or a second at least. -/
def PyDatetime.ReadBack (d : PyDatetime) : Prop := ∀ o ∈ d.offset, o = 0 ∨ 1000000 ≤ o.natAbs

namespace Client

variable (render : Json → String)

theorem parseInitiateResponse_toObject
    (r : InitiateWorkflowApiResponse PyDatetime (Option String)) :
    parseInitiateResponse render (dataclassToJsonDict r.toObject) =
      (PyDatetime.fromisoformat r.createdAt.isoformat).map fun d =>
        { r.onClient with createdAt := d } := by
  simp [parseInitiateResponse, dataclassToJsonDict, InitiateWorkflowApiResponse.toObject,
    PyObject.toJsonValue, PyObject.toJsonFields, Json.subscript, Json.getOr, List.lookup_cons,
    Json.toStr, Json.toInt, InitiateWorkflowApiResponse.onClient, Option.map_eq_bind]

theorem parseInitiateResponse_iff (r : InitiateWorkflowApiResponse PyDatetime (Option String)) :
    parseInitiateResponse render (dataclassToJsonDict r.toObject) = some r.onClient ↔
      r.createdAt.ReadBack := by
  rw [parseInitiateResponse_toObject, PyDatetime.ReadBack, ← PyDatetime.fromisoformat_isoformat_iff]
  cases PyDatetime.fromisoformat r.createdAt.isoformat with
  | none => simp
  | some d => simp [InitiateWorkflowApiResponse.onClient]

theorem parseStatusResponse_iff (r : WorkflowStatusResponse PyDatetime (Option String)) :
    parseStatusResponse render (dataclassToJsonDict r.toObject) = some r.onClient ↔
      r.createdAt.ReadBack ∧ r.updatedAt.ReadBack := by
  have hparse : parseStatusResponse render (dataclassToJsonDict r.toObject) =
      (PyDatetime.fromisoformat r.createdAt.isoformat).bind fun created =>
        (PyDatetime.fromisoformat r.updatedAt.isoformat).map fun updated =>
          { r.onClient with createdAt := created, updatedAt := updated } := by
    simp [parseStatusResponse, dataclassToJsonDict, WorkflowStatusResponse.toObject,
      PyObject.toJsonValue, PyObject.toJsonFields, Json.subscript, Json.getOr, List.lookup_cons,
      Json.toStr, Json.toInt, WorkflowStatusResponse.onClient, Option.map_eq_bind]
  rw [hparse, PyDatetime.ReadBack, PyDatetime.ReadBack, ← PyDatetime.fromisoformat_isoformat_iff,
    ← PyDatetime.fromisoformat_isoformat_iff]
  cases PyDatetime.fromisoformat r.createdAt.isoformat with
  | none => simp
  | some created =>
      cases PyDatetime.fromisoformat r.updatedAt.isoformat with
      | none => simp
      | some updated => simp [WorkflowStatusResponse.onClient]

theorem parseTransition_iff (t : TransitionRecordResponse PyDatetime (Option String)) :
    parseTransition render t.toObject.toJsonValue = some t.onClient ↔ t.occurredAt.ReadBack := by
  have hparse : parseTransition render t.toObject.toJsonValue =
      (PyDatetime.fromisoformat t.occurredAt.isoformat).map fun d =>
        { t.onClient with occurredAt := d } := by
    simp [parseTransition, TransitionRecordResponse.toObject, PyObject.toJsonValue,
      PyObject.toJsonFields, Json.subscript, Json.getOr, List.lookup_cons, Json.toStr,
      TransitionRecordResponse.onClient, Option.map_eq_bind]
  rw [hparse, PyDatetime.ReadBack, ← PyDatetime.fromisoformat_isoformat_iff]
  cases PyDatetime.fromisoformat t.occurredAt.isoformat with
  | none => simp
  | some d => simp [TransitionRecordResponse.onClient]

/-- Every transition of a history has to be read back. -/
theorem parseHistoryResponse_iff (r : WorkflowHistoryResponse PyDatetime (Option String)) :
    parseHistoryResponse render (dataclassToJsonDict r.toObject) = some r.onClient ↔
      ∀ t ∈ r.transitions, t.occurredAt.ReadBack := by
  have hparse : parseHistoryResponse render (dataclassToJsonDict r.toObject) =
      ((r.transitions.map fun t => t.toObject.toJsonValue).mapM (parseTransition render)).map
        fun transitions => { r.onClient with transitions } := by
    simp [parseHistoryResponse, dataclassToJsonDict, WorkflowHistoryResponse.toObject,
      PyObject.toJsonValue, PyObject.toJsonFields, PyObject.toJsonItems_map, Json.subscript,
      Json.getOr, Json.iterate, List.lookup_cons, Json.toStr, WorkflowHistoryResponse.onClient,
      Option.map_eq_bind, Function.comp_def]
  have hitems : (∀ t ∈ r.transitions, t.occurredAt.ReadBack) ↔
      (r.transitions.map fun t => t.toObject.toJsonValue).mapM (parseTransition render) =
        some (r.transitions.map TransitionRecordResponse.onClient) := by
    rw [mapM_map_eq_some_iff]
    exact forall₂_congr fun t _ => (parseTransition_iff render t).symm
  rw [hparse, hitems]
  cases (r.transitions.map fun t => t.toObject.toJsonValue).mapM (parseTransition render) with
  | none => simp
  | some transitions => simp [WorkflowHistoryResponse.onClient]

theorem toJsonValue_event
    (e : TimelineEventResponse PyDatetime (Option TaskType) (List (String × String))) :
    e.toObject.toJsonValue = .obj [
      ("occurred_at", .str (String.ofList e.occurredAt.isoformat)),
      ("event_type", .str e.eventType),
      ("summary", .str e.summary),
      ("state", stateOrNull e.state),
      ("task_type", taskTypeOrNull e.taskType),
      ("attributes", textMapping e.attributes)] := by
  rw [TimelineEventResponse.toObject, ← toJsonValue_attributes, ← toJsonValue_optional_taskType,
    ← toJsonValue_optional_state]
  simp only [PyObject.toJsonValue, PyObject.toJsonFields]

theorem parseEvent_iff
    (e : TimelineEventResponse PyDatetime (Option TaskType) (List (String × String))) :
    parseEvent render e.toObject.toJsonValue = some e.onClient ↔ e.occurredAt.ReadBack := by
  have hparse : parseEvent render e.toObject.toJsonValue =
      (PyDatetime.fromisoformat e.occurredAt.isoformat).map fun d =>
        { e.onClient with occurredAt := d } := by
    rw [toJsonValue_event]
    cases hstate : e.state with
    | none =>
        simp [parseEvent, Json.subscript, Json.getOr, List.lookup_cons, Json.toStr,
          TimelineEventResponse.onClient, Option.map_eq_bind, hstate, stateOrNull,
          Json.truthy]
    | some state =>
        simp [parseEvent, Json.subscript, Json.getOr, List.lookup_cons, Json.toStr,
          TimelineEventResponse.onClient, Option.map_eq_bind, hstate, stateOrNull,
          truthy_state]
  rw [hparse, PyDatetime.ReadBack, ← PyDatetime.fromisoformat_isoformat_iff]
  cases PyDatetime.fromisoformat e.occurredAt.isoformat with
  | none => simp
  | some d => simp [TimelineEventResponse.onClient]

/-- Every event of a timeline has to be read back. -/
theorem parseTimelineResponse_iff
    (r : WorkflowTimelineResponse PyDatetime (Option TaskType) (List (String × String))) :
    parseTimelineResponse render (dataclassToJsonDict r.toObject) = some r.onClient ↔
      ∀ e ∈ r.events, e.occurredAt.ReadBack := by
  have hparse : parseTimelineResponse render (dataclassToJsonDict r.toObject) =
      ((r.events.map fun e => e.toObject.toJsonValue).mapM (parseEvent render)).map
        fun events => { r.onClient with events } := by
    simp [parseTimelineResponse, dataclassToJsonDict, WorkflowTimelineResponse.toObject,
      PyObject.toJsonValue, PyObject.toJsonFields, PyObject.toJsonItems_map, Json.subscript,
      Json.getOr, Json.iterate, List.lookup_cons, Json.toStr, WorkflowTimelineResponse.onClient,
      Option.map_eq_bind, Function.comp_def]
  have hitems : (∀ e ∈ r.events, e.occurredAt.ReadBack) ↔
      (r.events.map fun e => e.toObject.toJsonValue).mapM (parseEvent render) =
        some (r.events.map TimelineEventResponse.onClient) := by
    rw [mapM_map_eq_some_iff]
    exact forall₂_congr fun e _ => (parseEvent_iff render e).symm
  rw [hparse, hitems]
  cases (r.events.map fun e => e.toObject.toJsonValue).mapM (parseEvent render) with
  | none => simp
  | some events => simp [WorkflowTimelineResponse.onClient]

theorem parseApprovalResponse_toObject (r : SubmitApprovalApiResponse) :
    parseApprovalResponse render (dataclassToJsonDict r.toObject) = some r := by
  simp [parseApprovalResponse, dataclassToJsonDict, SubmitApprovalApiResponse.toObject,
    PyObject.toJsonValue, PyObject.toJsonFields, Json.subscript, List.lookup_cons, Json.toStr,
    Json.toInt]

/-- **Responses are read back as they were written**: each response whose datetimes have no offset
below a second, except zero, and no other. -/
theorem responses_read_back :
    (∀ r : InitiateWorkflowApiResponse PyDatetime (Option String),
      parseInitiateResponse render (dataclassToJsonDict r.toObject) = some r.onClient ↔
        r.createdAt.ReadBack) ∧
    (∀ r : WorkflowStatusResponse PyDatetime (Option String),
      parseStatusResponse render (dataclassToJsonDict r.toObject) = some r.onClient ↔
        r.createdAt.ReadBack ∧ r.updatedAt.ReadBack) ∧
    (∀ r : WorkflowHistoryResponse PyDatetime (Option String),
      parseHistoryResponse render (dataclassToJsonDict r.toObject) = some r.onClient ↔
        ∀ t ∈ r.transitions, t.occurredAt.ReadBack) ∧
    (∀ r : WorkflowTimelineResponse PyDatetime (Option TaskType) (List (String × String)),
      parseTimelineResponse render (dataclassToJsonDict r.toObject) = some r.onClient ↔
        ∀ e ∈ r.events, e.occurredAt.ReadBack) ∧
    ∀ r : SubmitApprovalApiResponse,
      parseApprovalResponse render (dataclassToJsonDict r.toObject) = some r :=
  ⟨parseInitiateResponse_iff render, parseStatusResponse_iff render, parseHistoryResponse_iff render,
    parseTimelineResponse_iff render, parseApprovalResponse_toObject render⟩

/-- A clock that is a microsecond ahead of UTC. -/
def microsecondAhead : PyDatetime :=
  { wall := 63745056000000000, offset := some 1, wall_lt := by decide +kernel,
    offset_lt := by decide +kernel }

/-- It is read back as the same reading of a clock in UTC, which is another instant. -/
theorem offset_lost :
    microsecondAhead.isoformat = "2021-01-01T00:00:00+00:00:00.000001".toList ∧
    ∀ render, parseInitiateResponse render (dataclassToJsonDict
        (InitiateWorkflowApiResponse.mk "wf" .created 0 microsecondAhead none).toObject) =
      some ⟨"wf", .created, 0, PyDatetime.ofUtc _ microsecondAhead.wall_lt, .null⟩ ∧
    (PyDatetime.ofUtc _ microsecondAhead.wall_lt).instant ≠ microsecondAhead.instant := by
  have hread : PyDatetime.fromisoformat microsecondAhead.isoformat =
      some (PyDatetime.ofUtc _ microsecondAhead.wall_lt) := by
    rw [PyDatetime.fromisoformat_isoformat]
    exact PyDatetime.build_clock (PyDatetime.ofUtc _ microsecondAhead.wall_lt)
  refine ⟨by decide +kernel, fun render => ⟨?_, by decide⟩⟩
  rw [parseInitiateResponse_toObject, hread]
  rfl

end Client

end CartoonDemo
