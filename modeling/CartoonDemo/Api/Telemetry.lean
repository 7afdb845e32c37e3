import CartoonDemo.Api.Validation
import CartoonDemo.Observability.Logger

/-!
# CartoonDemo.Api.Telemetry

**The workflow id in a trace** (`api/telemetry.py`, `workflow/telemetry.py`). The approval route names
the id when it starts its span, before the `try` of its handler; `initiate_workflow` names it before
its first write. The tracer redacts what it is given, and refuses a text that is nothing but a
secret: an id of the form `sk-…` is one.

What else the two routes and the engine emit holds texts of their own only, or puts the id where
nothing is redacted.
-/

namespace CartoonDemo

open Observability

/-- An exception of the telemetry. -/
def Observability.TelemetryError.toPy : TelemetryError → PyException
  | .invalidLogEnvelope message => .other "InvalidLogEnvelopeError" message
  | .redactionRequired message => .other "RedactionRequiredError" message
  | .py name => .other name ""

/-- What the tracer does with `{"workflow_id": workflow_id}`, in `start_span` as in
`set_attribute`; no correlation is bound there. -/
def traceWorkflowId (workflowId : String) : Except PyException Unit :=
  match validateTraceAttributeMap (fun name => "'" ++ name ++ "'")
      [("workflow_id", .str workflowId)] with
  | .ok _ => .ok ()
  | .error e => .error e.toPy

/-- `start_route_span(SPAN_APPROVAL, attributes={"workflow_id": wf_id})`. -/
def startRouteSpan (workflowId : String) : Except RouteException Unit :=
  (traceWorkflowId workflowId).mapError .py

/-- `WorkflowTelemetry.emit_initiated`. -/
def emitInitiated (workflowId : String) : Except PyException Unit := traceWorkflowId workflowId

/-- The tracer accepts the id. -/
def traceable (workflowId : String) : Bool := (traceWorkflowId workflowId).isOk

theorem traceable_iff {workflowId : String} :
    traceable workflowId ↔ traceWorkflowId workflowId = .ok () := by
  rw [traceable]
  cases traceWorkflowId workflowId <;> simp [Except.isOk, Except.toBool]

theorem startRouteSpan_ok_iff {workflowId : String} :
    startRouteSpan workflowId = .ok () ↔ traceable workflowId := by
  rw [traceable_iff, startRouteSpan]
  cases traceWorkflowId workflowId <;> simp [Except.mapError]

/-- What the tracer raises for an id that is nothing but a secret. -/
def unredactable : PyException :=
  .other "RedactionRequiredError" "Unredactable secret in telemetry value"

theorem traceWorkflowId_of_secret {workflowId : String}
    (h : isEntirelySecret workflowId (some "workflow_id")) :
    traceWorkflowId workflowId = .error unredactable := by
  have hkeys : checkForbiddenTraceKeys (fun name => "'" ++ name ++ "'")
      [("workflow_id", .str workflowId)] = .ok () :=
    checkForbiddenTraceKeys_single _ _ (by decide)
  have hmap : validateTraceAttributeMap (fun name => "'" ++ name ++ "'")
      [("workflow_id", .str workflowId)] =
        .error (.redactionRequired "Unredactable secret in telemetry value") := by
    rw [validateTraceAttributeMap, hkeys, redactAttributeMap_secret h]
    rfl
  rw [traceWorkflowId, hmap]
  rfl

theorem RequestValidator.workflowIdChar_plain {x : Char} (h : workflowIdChar x) :
    PyStr.isSpace x = false ∧ x ≠ '.' ∧ x ≠ ':' ∧ x ≠ '=' := by
  refine ⟨?_, ?_, ?_, ?_⟩
  · have hbounds : (48 ≤ x.toNat ∧ x.toNat ≤ 122) ∨ x = '-' := by
      simp only [workflowIdChar, Bool.or_eq_true, Bool.and_eq_true, decide_eq_true_eq] at h
      have hle : ∀ {a b : Char}, a ≤ b → a.toNat ≤ b.toNat := fun h => UInt32.le_iff_toNat_le.mp h
      rcases h with (((⟨hlow, hhigh⟩ | ⟨hlow, hhigh⟩) | ⟨hlow, hhigh⟩) | rfl) | rfl
      · exact Or.inl ⟨le_trans (by decide) (hle hlow), le_trans (hle hhigh) (by decide)⟩
      · exact Or.inl ⟨le_trans (by decide) (hle hlow), hle hhigh⟩
      · exact Or.inl ⟨hle hlow, le_trans (hle hhigh) (by decide)⟩
      · exact Or.inl (by decide)
      · exact Or.inr rfl
    rcases hbounds with ⟨hlow, hhigh⟩ | rfl
    · simp only [PyStr.isSpace, Bool.or_eq_false_iff, Bool.and_eq_false_iff, decide_eq_false_iff_not]
      omega
    · decide
  · rintro rfl
    exact absurd h (by decide)
  · rintro rfl
    exact absurd h (by decide)
  · rintro rfl
    exact absurd h (by decide)

theorem RequestValidator.length_of_sanitizeText {field : String} {maxLen : ℕ} {raw x : String}
    (h : sanitizeText field maxLen raw = .ok x) : x.length ≤ maxLen := by
  unfold sanitizeText at h
  dsimp only at h
  split at h
  · exact absurd h (by simp)
  · split at h
    · exact absurd h (by simp)
    · next hlen =>
      split at h
      · obtain rfl := Except.ok.inj h
        exact Nat.le_of_not_lt hlen
      · exact absurd h (by simp)

/-- An id of identifier characters is not lengthened, so it is refused only as a secret. -/
theorem traceWorkflowId_of_validated {raw workflowId : String}
    (hid : RequestValidator.validateWorkflowId raw = .ok workflowId)
    (h : isEntirelySecret workflowId (some "workflow_id") = false) :
    traceWorkflowId workflowId = .ok () := by
  obtain ⟨htext, hchars⟩ := RequestValidator.validateWorkflowId_ok hid
  have hgrowth : growth workflowId.toList = 0 := by
    refine growth_eq_zero fun x hx => ?_
    exact RequestValidator.workflowIdChar_plain (List.all_eq_true.mp hchars x hx)
  have hlength : (applyStringScrubbers workflowId (some "workflow_id")).length ≤
      maxScalarStringLength := by
    calc (applyStringScrubbers workflowId (some "workflow_id")).length
        ≤ workflowId.length + growth workflowId.toList := length_applyStringScrubbers_le _ _
      _ = workflowId.length := by rw [hgrowth, Nat.add_zero]
      _ ≤ RequestValidator.maxWorkflowIdLen := RequestValidator.length_of_sanitizeText htext
      _ ≤ maxScalarStringLength := by decide
  rw [traceWorkflowId, validateTraceAttributeMap_str _ (by decide) h hlength]

end CartoonDemo
