import CartoonDemo.Types

/-!
# CartoonDemo.Api.Responses

The **responses of the REST API** (`api/types.py`). A client takes some fields over as it finds
them, without making a string or an enumeration of them; the type of these fields is a parameter
(`Opt`, `Task`, `Attributes`), as is the type of a point in time. The handlers of `Api.Routes` have
records of their own for the two responses that they build.
-/

namespace CartoonDemo

namespace ApiTypes

/-- The body of `POST /workflows`. `Stamp` and `Opt` are what the server and the client have for a
time and for an optional text. -/
structure InitiateWorkflowApiResponse (Stamp Opt : Type) where
  workflowId : String
  state : WorkflowState
  stateVersion : Int
  createdAt : Stamp
  traceId : Opt
  deriving DecidableEq, Repr

/-- The body of `GET /workflows/{id}`. -/
structure WorkflowStatusResponse (Stamp Opt : Type) where
  workflowId : String
  state : WorkflowState
  stateVersion : Int
  createdAt : Stamp
  updatedAt : Stamp
  revisionCount : Int
  failureReason : Opt
  deriving DecidableEq, Repr

/-- One transition of the history. -/
structure TransitionRecordResponse (Stamp Opt : Type) where
  transitionId : String
  fromState : WorkflowState
  toState : WorkflowState
  reason : String
  occurredAt : Stamp
  actor : Opt
  deriving DecidableEq, Repr

/-- The body of `GET /workflows/{id}/history`. -/
structure WorkflowHistoryResponse (Stamp Opt : Type) where
  workflowId : String
  transitions : List (TransitionRecordResponse Stamp Opt)
  deriving DecidableEq, Repr

/-- The body of `POST /workflows/{id}/approval`. -/
structure SubmitApprovalApiResponse where
  workflowId : String
  action : ApprovalAction
  fromState : WorkflowState
  toState : WorkflowState
  stateVersion : Int
  transitionId : String
  deriving DecidableEq, Repr

/-- One event of the timeline. -/
structure TimelineEventResponse (Stamp Task Attributes : Type) where
  occurredAt : Stamp
  eventType : String
  summary : String
  state : Option WorkflowState
  taskType : Task
  attributes : Attributes
  deriving DecidableEq, Repr

/-- The body of `GET /workflows/{id}/timeline`. -/
structure WorkflowTimelineResponse (Stamp Task Attributes : Type) where
  workflowId : String
  events : List (TimelineEventResponse Stamp Task Attributes)
  deriving DecidableEq, Repr

end ApiTypes

end CartoonDemo
