import CartoonDemo.Api.Validation
import CartoonDemo.Library.PyFind
import CartoonDemo.Library.Regex

/-!
# CartoonDemo.Cli.Validation

The **validation of the command line** (`cli/validation.py`): `InputValidator` looks at what a user
types before anything is sent, and the `RequestValidator` of the API looks at it again. Both accept
the same texts and make the same of them, because each comes down to one description of the valid
texts (`ValidId`, `ValidText`).
-/

namespace CartoonDemo

namespace InputValidator

/-- `CliUsageError`. -/
structure CliUsageError where
  message : String
  deriving DecidableEq, Repr

/-- `raise CliUsageError`. -/
def usageError {α : Type} (message : String) : Except CliUsageError α := .error ⟨message⟩

def maxWorkflowIdLen : Nat := 128
def maxCorrelationIdLen : Nat := 128
def maxActorLen : Nat := 256

/-- `WORKFLOW_ID_PATTERN`. -/
def workflowIdPattern : Regex :=
  .seqs [.start, .chars RequestValidator.workflowIdChar 1 none, .finish]

/-- `validate_workflow_id`. -/
def validateWorkflowId (required : Bool) : Option String → Except CliUsageError String
  | none => if required then usageError "workflow_id is required" else .ok ""
  | some raw =>
      let stripped := PyStr.strip raw
      if required ∧ stripped = "" then usageError "workflow_id must not be empty"
      else if maxWorkflowIdLen < stripped.length then
        usageError ("workflow_id exceeds maximum length of " ++ toString maxWorkflowIdLen)
      else if stripped ≠ "" ∧ !Regex.matchesPrefix workflowIdPattern stripped.toList then
        usageError "workflow_id contains invalid characters"
      else .ok stripped

/-- `_sanitize_printable_ascii`. -/
def sanitizePrintableAscii (field : String) (maxLen : Nat) (required : Bool) :
    Option String → Except CliUsageError (Option String)
  | none => if required then usageError (field ++ " is required") else .ok none
  | some value =>
      let stripped := PyStr.strip value
      if required ∧ stripped = "" then usageError (field ++ " must not be empty")
      else if stripped = "" then .ok none
      else if maxLen < stripped.length then
        usageError (field ++ " exceeds maximum length of " ++ toString maxLen)
      else if stripped.toList.any fun c => c.toNat < 32 || 126 < c.toNat then
        usageError (field ++ " contains invalid characters")
      else .ok (some stripped)

/-- `validate_workflow_id` where the flag was given. -/
def validateGivenId : Option String → Except CliUsageError (Option String)
  | none => .ok none
  | some raw => (validateWorkflowId true (some raw)).map some

/-- `validate_initiate_fields`. -/
def validateInitiateFields (workflowId correlationId actor : Option String) :
    Except CliUsageError InitiateWorkflowApiRequest := do
  let workflowId ← validateGivenId workflowId
  let correlationId ← sanitizePrintableAscii "correlation_id" maxCorrelationIdLen false correlationId
  let actor ← sanitizePrintableAscii "actor" maxActorLen false actor
  -- a validated text is not empty, so each is truthy unless it is `None`
  if workflowId.isNone && correlationId.isNone && actor.isNone then
    usageError "initiate requires at least one of --workflow-id, --correlation-id, or --actor"
  else return { workflowId, correlationId, actor }

/-- `_VALID_APPROVAL_ACTIONS`. -/
def validApprovalActions : List String := ["APPROVE", "REJECT", "REQUEST_REGENERATION"]

/-- `validate_approval_action`. -/
def validateApprovalAction : Option String → Except CliUsageError String
  | none => usageError "action is required"
  | some raw =>
      let token := RequestValidator.upper (PyStr.strip raw)
      if token ∈ validApprovalActions then .ok token
      else usageError ("Unknown approval action: " ++ PyStr.strip raw)

/-- `validate_actor`. -/
def validateActor (required : Bool) : Option String → Except CliUsageError (Option String) :=
  sanitizePrintableAscii "actor" maxActorLen required

/-! ### Valid texts

What both sides ask of a text, in their common terms.
-/

/-- A valid text of at most so many printable characters, as it is left of a given one. -/
def ValidText (maxLen : Nat) (raw w : String) : Prop :=
  w = PyStr.strip raw ∧ w ≠ "" ∧ w.length ≤ maxLen ∧ w.toList.all RequestValidator.printable

/-- A valid identifier, as it is left of a given text. -/
def ValidId (raw w : String) : Prop :=
  w = PyStr.strip raw ∧ w ≠ "" ∧ w.length ≤ maxWorkflowIdLen ∧
    w.toList.all RequestValidator.workflowIdChar

theorem printable_of_workflowIdChar {c : Char} (h : RequestValidator.workflowIdChar c) :
    RequestValidator.printable c := by
  simp only [RequestValidator.workflowIdChar, Bool.or_eq_true, Bool.and_eq_true,
    decide_eq_true_eq] at h
  simp only [RequestValidator.printable, Bool.and_eq_true, decide_eq_true_eq]
  have hle : ∀ {a b : Char}, a ≤ b → a.toNat ≤ b.toNat := fun h => UInt32.le_iff_toNat_le.mp h
  rcases h with (((⟨hlow, hhigh⟩ | ⟨hlow, hhigh⟩) | ⟨hlow, hhigh⟩) | rfl) | rfl
  · exact ⟨Nat.le_trans (by decide) (hle hlow), Nat.le_trans (hle hhigh) (by decide)⟩
  · exact ⟨Nat.le_trans (by decide) (hle hlow), Nat.le_trans (hle hhigh) (by decide)⟩
  · exact ⟨Nat.le_trans (by decide) (hle hlow), Nat.le_trans (hle hhigh) (by decide)⟩
  · decide
  · decide

theorem ValidId.validText {raw w : String} (h : ValidId raw w) : ValidText maxWorkflowIdLen raw w :=
  ⟨h.1, h.2.1, h.2.2.1, List.all_eq_true.mpr fun c hc =>
    printable_of_workflowIdChar (List.all_eq_true.mp h.2.2.2 c hc)⟩

/-- A valid text is valid as it is. -/
theorem ValidText.again {maxLen : Nat} {raw w : String} (h : ValidText maxLen raw w) :
    ValidText maxLen w w :=
  ⟨by rw [h.1, PyStr.strip_strip], h.2⟩

theorem ValidId.again {raw w : String} (h : ValidId raw w) : ValidId w w :=
  ⟨by rw [h.1, PyStr.strip_strip], h.2⟩

/-! ### What the validators accept

The validators of the API go over characters, those of the command line over patterns.
-/

theorem sanitizeText_ok_iff {field : String} {maxLen : Nat} {raw w : String} :
    RequestValidator.sanitizeText field maxLen raw = .ok w ↔ ValidText maxLen raw w := by
  rw [RequestValidator.sanitizeText, ValidText]
  constructor
  · intro h
    split at h
    · cases h
    · next hempty =>
      split at h
      · cases h
      · next hlen =>
        split at h
        · next hchars =>
          obtain rfl := Except.ok.inj h
          exact ⟨rfl, hempty, Nat.le_of_not_lt hlen, hchars⟩
        · cases h
  · rintro ⟨rfl, hempty, hlen, hchars⟩
    rw [if_neg hempty, if_neg (Nat.not_lt.mpr hlen), if_pos hchars]

theorem apiValidateWorkflowId_ok_iff {raw w : String} :
    RequestValidator.validateWorkflowId raw = .ok w ↔ ValidId raw w := by
  constructor
  · intro h
    obtain ⟨htext, hchars⟩ := RequestValidator.validateWorkflowId_ok h
    obtain ⟨hw, hempty, hlen, -⟩ := sanitizeText_ok_iff.mp htext
    exact ⟨hw, hempty, hlen, hchars⟩
  · intro h
    have htext : RequestValidator.sanitizeText "workflow_id" RequestValidator.maxWorkflowIdLen raw =
        .ok w := sanitizeText_ok_iff.mpr h.validText
    rw [RequestValidator.validateWorkflowId, htext]
    show (if w.toList.all RequestValidator.workflowIdChar then _ else _) = _
    rw [if_pos h.2.2.2]
    rfl

/-- A stripped text does not end with a line feed. -/
theorem newline_not_last {raw : String} {u : List Char} :
    (PyStr.strip raw).toList ≠ u ++ ['\n'] := by
  intro h
  have hagain : PyStr.stripList (PyStr.strip raw).toList = (PyStr.strip raw).toList := by
    rw [← PyStr.toList_strip, PyStr.strip_strip]
  rw [h, PyStr.stripList_append_right (List.forall_mem_singleton.mpr (by decide))] at hagain
  -- stripping makes a text no longer
  have hle : (PyStr.stripList u).length ≤ u.length := by
    obtain ⟨rest, hrest⟩ := List.rdropWhile_prefix PyStr.isSpace (u.dropWhile PyStr.isSpace)
    have hdrop := (List.dropWhile_sublist PyStr.isSpace (l := u)).length_le
    have hlen := congrArg List.length hrest
    rw [List.length_append] at hlen
    rw [PyStr.stripList]
    omega
  have hlen := congrArg List.length hagain
  rw [List.length_append, List.length_singleton] at hlen
  omega

/-- What the pattern matches: identifier characters, up to the end or to the end of a line. -/
theorem mem_run_workflowIdPattern {s : List Char} {m : Regex.Cursor} :
    m ∈ Regex.run workflowIdPattern (.ofText s) ↔
      ∃ w rest, s = w ++ rest ∧ (∀ x ∈ w, RequestValidator.workflowIdChar x) ∧ 1 ≤ w.length ∧
        (rest = [] ∨ rest = ['\n']) ∧ m = ⟨w.reverse ++ [], rest, []⟩ := by
  rw [workflowIdPattern]
  simp only [Regex.mem_run_seqs_cons, Regex.mem_run_seqs_nil, Regex.mem_run_start,
    Regex.mem_run_finish]
  constructor
  · rintro ⟨c, ⟨-, rfl⟩, d, hd, e, ⟨hend, rfl⟩, rfl⟩
    obtain ⟨w, rest, hafter, hw, hlen, -, rfl⟩ := Regex.mem_run_chars.mp hd
    exact ⟨w, rest, hafter, hw, hlen, hend, rfl⟩
  · rintro ⟨w, rest, hafter, hw, hlen, hend, rfl⟩
    refine ⟨_, ⟨rfl, rfl⟩, ⟨w.reverse ++ [], rest, []⟩, ?_, _, ⟨hend, rfl⟩, rfl⟩
    exact Regex.mem_run_chars.mpr ⟨w, rest, hafter, hw, hlen, by simp, rfl⟩

/-- The pattern accepts the stripped texts of identifier characters. -/
theorem matches_workflowIdPattern {raw : String} (hempty : PyStr.strip raw ≠ "") :
    Regex.matchesPrefix workflowIdPattern (PyStr.strip raw).toList =
      (PyStr.strip raw).toList.all RequestValidator.workflowIdChar := by
  have hne : (PyStr.strip raw).toList ≠ [] := fun h => hempty (String.toList_inj.mp h)
  rw [Bool.eq_iff_iff, Regex.matchesPrefix, Bool.not_eq_true', List.isEmpty_eq_false_iff_exists_mem,
    List.all_eq_true]
  constructor
  · rintro ⟨m, hm⟩
    obtain ⟨w, rest, htext, hw, -, hend | hend, -⟩ := mem_run_workflowIdPattern.mp hm
    · rw [htext, hend, List.append_nil]
      exact hw
    · exact absurd (htext.trans (by rw [hend])) newline_not_last
  · intro hall
    exact ⟨_, mem_run_workflowIdPattern.mpr ⟨_, [], (List.append_nil _).symm, hall,
      List.length_pos_iff.mpr hne, Or.inl rfl, rfl⟩⟩

theorem validateWorkflowId_ok_iff {raw w : String} :
    validateWorkflowId true (some raw) = .ok w ↔ ValidId raw w := by
  rw [validateWorkflowId, ValidId]
  constructor
  · intro h
    split at h
    · cases h
    · next hempty =>
      have hne : PyStr.strip raw ≠ "" := fun heq => hempty ⟨rfl, heq⟩
      split at h
      · cases h
      · next hlen =>
        split at h
        · cases h
        · next hmatch =>
          obtain rfl := Except.ok.inj h
          rw [matches_workflowIdPattern hne] at hmatch
          refine ⟨rfl, hne, Nat.le_of_not_lt hlen, ?_⟩
          by_contra hchars
          exact hmatch ⟨hne, by rw [Bool.eq_false_of_not_eq_true hchars]; rfl⟩
  · rintro ⟨rfl, hne, hlen, hchars⟩
    rw [if_neg fun h => hne h.2, if_neg (Nat.not_lt.mpr hlen), if_neg]
    rw [matches_workflowIdPattern hne, hchars]
    simp

theorem not_any_unprintable {s : List Char} :
    ¬ (s.any fun c => c.toNat < 32 || 126 < c.toNat) ↔ s.all RequestValidator.printable := by
  rw [List.any_eq_true, List.all_eq_true]
  constructor
  · intro h c hc
    by_contra hprintable
    refine h ⟨c, hc, ?_⟩
    simp only [RequestValidator.printable, Bool.and_eq_true, decide_eq_true_eq] at hprintable
    simp only [Bool.or_eq_true, decide_eq_true_eq]
    omega
  · rintro h ⟨c, hc, hbad⟩
    have hprintable := h c hc
    simp only [RequestValidator.printable, Bool.and_eq_true, decide_eq_true_eq] at hprintable
    simp only [Bool.or_eq_true, decide_eq_true_eq] at hbad
    omega

theorem sanitizePrintableAscii_ok_iff {field : String} {maxLen : Nat} {required : Bool}
    {raw w : String} :
    sanitizePrintableAscii field maxLen required (some raw) = .ok (some w) ↔ ValidText maxLen raw w := by
  rw [sanitizePrintableAscii, ValidText]
  constructor
  · intro h
    split at h
    · cases h
    · split at h
      · cases h
      · next hempty =>
        split at h
        · cases h
        · next hlen =>
          split at h
          · cases h
          · next hchars =>
            obtain rfl := Option.some.inj (Except.ok.inj h)
            exact ⟨rfl, hempty, Nat.le_of_not_lt hlen, not_any_unprintable.mp hchars⟩
  · rintro ⟨rfl, hne, hlen, hchars⟩
    rw [if_neg fun h => hne h.2, if_neg hne, if_neg (Nat.not_lt.mpr hlen),
      if_neg (not_any_unprintable.mpr hchars)]

theorem sanitizeString_ok_iff {field : String} {maxLen : Nat} {raw w : String} :
    RequestValidator.sanitizeString field maxLen (some raw) = .ok (some w) ↔
      ValidText maxLen raw w := by
  rw [← @sanitizeText_ok_iff field maxLen raw w]
  constructor
  · intro h
    obtain ⟨v, hv, heq⟩ := except_map_ok h
    obtain rfl := Option.some.inj heq
    exact hv
  · intro h
    rw [RequestValidator.sanitizeString, h]
    rfl

/-! ### Actions -/

theorem parseAction_ok_iff {raw : String} {action : ApprovalAction} :
    RequestValidator.parseAction raw = .ok action ↔
      RequestValidator.upper (PyStr.strip raw) = action.value := by
  constructor
  · intro h
    rw [RequestValidator.parseAction] at h
    split at h
    · next htoken => obtain rfl := Except.ok.inj h; exact htoken
    · split at h
      · next htoken => obtain rfl := Except.ok.inj h; exact htoken
      · split at h
        · next htoken => obtain rfl := Except.ok.inj h; exact htoken
        · cases h
  · intro h
    rw [RequestValidator.parseAction, h]
    cases action <;> rfl

/-- The tokens of the command line are the values of the enumeration. -/
theorem mem_validApprovalActions {token : String} :
    token ∈ validApprovalActions ↔ ∃ action : ApprovalAction, action.value = token := by
  rw [validApprovalActions]
  simp only [List.mem_cons, List.not_mem_nil, or_false]
  constructor
  · rintro (rfl | rfl | rfl)
    · exact ⟨.approve, rfl⟩
    · exact ⟨.reject, rfl⟩
    · exact ⟨.requestRegeneration, rfl⟩
  · rintro ⟨action, rfl⟩
    cases action with
    | approve => exact Or.inl rfl
    | reject => exact Or.inr (Or.inl rfl)
    | requestRegeneration => exact Or.inr (Or.inr rfl)

theorem validateApprovalAction_ok_iff {raw token : String} :
    validateApprovalAction (some raw) = .ok token ↔
      ∃ action : ApprovalAction, RequestValidator.parseAction raw = .ok action ∧
        action.value = token := by
  rw [validateApprovalAction]
  constructor
  · intro h
    split at h
    · next hmem =>
      obtain ⟨action, haction⟩ := mem_validApprovalActions.mp hmem
      exact ⟨action, parseAction_ok_iff.mpr haction.symm, haction.trans (Except.ok.inj h)⟩
    · cases h
  · rintro ⟨action, hparse, rfl⟩
    have htoken := parseAction_ok_iff.mp hparse
    rw [if_pos (mem_validApprovalActions.mpr ⟨action, htoken.symm⟩), htoken]

/-- With nothing else in the body an approval is accepted as its action is. -/
theorem validateApprovalFields_action {raw : String} {action : ApprovalAction} :
    RequestValidator.validateApprovalFields { action := raw } none = .ok { action } ↔
      RequestValidator.parseAction raw = .ok action := by
  rw [RequestValidator.validateApprovalFields]
  cases hparse : RequestValidator.parseAction raw with
  | error e =>
      rw [except_error_bind]
      exact iff_of_false (by simp) (by simp)
  | ok parsed =>
      have hrest : (RequestValidator.validateApprovalFields { action := raw } none) =
          .ok { action := parsed } := by
        rw [RequestValidator.validateApprovalFields, hparse]
        rfl
      rw [RequestValidator.validateApprovalFields, hparse] at hrest
      rw [hrest]
      simp

/-! ### What is sent

A request that the command line lets through is the one that the API reads.
-/

/-- A field of the body a client sends: what is `None` is left out. -/
def fieldOf : Option String → JsonField
  | none => .null
  | some s => .text s

/-- `_initiate_request_to_json`. -/
def initiateRequestToJson (request : InitiateWorkflowApiRequest) : InitiateBody :=
  { workflowId := fieldOf request.workflowId, correlationId := fieldOf request.correlationId,
    actor := fieldOf request.actor }

/-- `validate_actor` where the flag was given. -/
def validateGivenActor : Option String → Except CliUsageError (Option String)
  | none => .ok none
  | some raw => validateActor true (some raw)

/-- The fields of an `approve`, as `parse` validates them. -/
def validateApproveFields (workflowId action actor : Option String) :
    Except CliUsageError (String × String × Option String) := do
  let workflowId ← validateWorkflowId true workflowId
  let token ← validateApprovalAction action
  let actor ← validateGivenActor actor
  return (workflowId, token, actor)

/-- The body of `submit_approval`, for the request that `ApproveHandler` makes. -/
def approvalToJson (token : String) (actor : Option String) : ApprovalBody :=
  { action := token, actor := fieldOf actor }

/-- What a sanitizer of the command line lets through, the API takes as it is. -/
theorem sanitizeField_fieldOf {field field' : String} {maxLen : Nat} {required : Bool}
    {raw value : Option String} (h : sanitizePrintableAscii field maxLen required raw = .ok value) :
    RequestValidator.sanitizeField field' maxLen (fieldOf value) = .ok value := by
  cases value with
  | none => rfl
  | some w =>
      cases raw with
      | none =>
          rw [sanitizePrintableAscii] at h
          split at h <;> cases h
      | some text => exact sanitizeString_ok_iff.mpr (sanitizePrintableAscii_ok_iff.mp h).again

theorem validateIdField_fieldOf {raw value : Option String} (h : validateGivenId raw = .ok value) :
    RequestValidator.validateIdField (fieldOf value) = .ok value := by
  cases raw with
  | none => obtain rfl := Except.ok.inj h; rfl
  | some text =>
      obtain ⟨w, hw, rfl⟩ := except_map_ok h
      have hagain := apiValidateWorkflowId_ok_iff.mpr (validateWorkflowId_ok_iff.mp hw).again
      rw [fieldOf, RequestValidator.validateIdField, RequestValidator.validateOptionalId, hagain]
      rfl

theorem validateInitiateFields_sent {workflowId correlationId actor : Option String}
    {request : InitiateWorkflowApiRequest}
    (h : validateInitiateFields workflowId correlationId actor = .ok request) :
    RequestValidator.validateInitiateFields (initiateRequestToJson request) = .ok request := by
  obtain ⟨w, hw, h⟩ := except_bind_ok h
  obtain ⟨c, hc, h⟩ := except_bind_ok h
  obtain ⟨a, ha, h⟩ := except_bind_ok h
  split at h
  · cases h
  · obtain rfl := Except.ok.inj h
    have hcorr : RequestValidator.sanitizeField "correlation_id"
        RequestValidator.maxCorrelationIdLen (fieldOf c) = .ok c := sanitizeField_fieldOf hc
    have hactor : RequestValidator.sanitizeField "actor" RequestValidator.maxActorLen (fieldOf a) =
        .ok a := sanitizeField_fieldOf ha
    simp only [RequestValidator.validateInitiateFields, initiateRequestToJson,
      validateIdField_fieldOf hw, except_ok_bind, hcorr, hactor]
    rfl

theorem validateApproveFields_sent {workflowId action actor : Option String} {w token : String}
    {sentActor : Option String}
    (h : validateApproveFields workflowId action actor = .ok (w, token, sentActor)) :
    RequestValidator.validateWorkflowId w = .ok w ∧
      ∃ parsed : ApprovalAction, parsed.value = token ∧
        RequestValidator.validateApprovalFields (approvalToJson token sentActor) none =
          .ok { action := parsed, actor := sentActor } := by
  obtain ⟨id, hid, h⟩ := except_bind_ok h
  obtain ⟨value, hvalue, h⟩ := except_bind_ok h
  obtain ⟨sent, hsent, h⟩ := except_bind_ok h
  obtain ⟨rfl, rfl, rfl⟩ : id = w ∧ value = token ∧ sent = sentActor := by
    simpa using Except.ok.inj h
  constructor
  · cases workflowId with
    | none => cases hid
    | some raw => exact apiValidateWorkflowId_ok_iff.mpr (validateWorkflowId_ok_iff.mp hid).again
  · cases action with
    | none => cases hvalue
    | some raw =>
        obtain ⟨parsed, -, rfl⟩ := validateApprovalAction_ok_iff.mp hvalue
        have hactor : RequestValidator.sanitizeField "actor" RequestValidator.maxActorLen
            (fieldOf sent) = .ok sent := by
          cases actor with
          | none => obtain rfl := Except.ok.inj hsent; rfl
          | some raw =>
              have hsanitized : sanitizePrintableAscii "actor" maxActorLen true (some raw) =
                  .ok sent := hsent
              exact sanitizeField_fieldOf hsanitized
        refine ⟨parsed, rfl, ?_⟩
        rw [RequestValidator.validateApprovalFields, approvalToJson,
          RequestValidator.parseAction_value, except_ok_bind, hactor]
        rfl

/-- **The command line and the API agree on valid input.** They accept the same identifiers,
correlation ids, actors and actions and make the same of them; what the command line accepts and
sends passes both validations of a route as it is; and what is validated is validated again. -/
theorem command_line_and_api_agree :
    -- identifiers
    (∀ x w : String, validateWorkflowId true (some x) = .ok w ↔
      RequestValidator.validateWorkflowId x = .ok w) ∧
    -- correlation ids and actors
    (∀ (required : Bool) (x w : String),
      (sanitizePrintableAscii "correlation_id" maxCorrelationIdLen required (some x) = .ok (some w) ↔
        RequestValidator.sanitizeString "correlation_id" RequestValidator.maxCorrelationIdLen
          (some x) = .ok (some w)) ∧
      (validateActor required (some x) = .ok (some w) ↔
        RequestValidator.sanitizeString "actor" RequestValidator.maxActorLen (some x) =
          .ok (some w))) ∧
    -- actions
    (∀ (x : String) (action : ApprovalAction), validateApprovalAction (some x) = .ok action.value ↔
      RequestValidator.validateApprovalFields { action := x } none = .ok { action }) ∧
    (∀ x token : String, validateApprovalAction (some x) = .ok token →
      ∃ action : ApprovalAction, action.value = token) ∧
    -- what is sent
    (∀ (workflowId correlationId actor : Option String) (request : InitiateWorkflowApiRequest),
      validateInitiateFields workflowId correlationId actor = .ok request →
        RequestValidator.validateInitiateFields (initiateRequestToJson request) = .ok request ∧
        RequestValidator.validateInitiateBody request = .ok request) ∧
    (∀ (workflowId action actor sentActor : Option String) (w token : String),
      validateApproveFields workflowId action actor = .ok (w, token, sentActor) →
        RequestValidator.validateWorkflowId w = .ok w ∧
        ∃ parsed : ApprovalAction, parsed.value = token ∧
          RequestValidator.validateApprovalFields (approvalToJson token sentActor) none =
            .ok { action := parsed, actor := sentActor } ∧
          RequestValidator.validateApprovalBody { action := parsed, actor := sentActor } none =
            .ok { action := parsed, actor := sentActor }) ∧
    -- what is validated again
    (∀ x w : String, validateWorkflowId true (some x) = .ok w →
      validateWorkflowId true (some w) = .ok w ∧ RequestValidator.validateWorkflowId w = .ok w) ∧
    (∀ (field : String) (maxLen : Nat) (required : Bool) (x w : String),
      sanitizePrintableAscii field maxLen required (some x) = .ok (some w) →
        sanitizePrintableAscii field maxLen required (some w) = .ok (some w) ∧
        RequestValidator.sanitizeString field maxLen (some w) = .ok (some w)) ∧
    (∀ x token : String, validateApprovalAction (some x) = .ok token →
      validateApprovalAction (some token) = .ok token) := by
  refine ⟨?_, ?_, ?_, ?_, ?_, ?_, ?_, ?_, ?_⟩
  · intro x w
    rw [validateWorkflowId_ok_iff, apiValidateWorkflowId_ok_iff]
  · intro required x w
    exact ⟨sanitizePrintableAscii_ok_iff.trans sanitizeString_ok_iff.symm,
      sanitizePrintableAscii_ok_iff.trans sanitizeString_ok_iff.symm⟩
  · intro x action
    rw [validateApprovalFields_action, validateApprovalAction_ok_iff]
    constructor
    · rintro ⟨parsed, hparse, hvalue⟩
      obtain rfl : parsed = action := by
        cases parsed <;> cases action <;> first | rfl | exact absurd hvalue (by decide)
      exact hparse
    · exact fun hparse => ⟨action, hparse, rfl⟩
  · intro x token h
    obtain ⟨action, -, hvalue⟩ := validateApprovalAction_ok_iff.mp h
    exact ⟨action, hvalue⟩
  · intro workflowId correlationId actor request h
    have hsent := validateInitiateFields_sent h
    exact ⟨hsent, RequestValidator.validateInitiateBody_again hsent⟩
  · intro workflowId action actor sentActor w token h
    obtain ⟨hid, parsed, hvalue, hsent⟩ := validateApproveFields_sent h
    exact ⟨hid, parsed, hvalue, hsent, RequestValidator.validateApprovalBody_again hsent⟩
  · intro x w h
    have hagain := (validateWorkflowId_ok_iff.mp h).again
    exact ⟨validateWorkflowId_ok_iff.mpr hagain, apiValidateWorkflowId_ok_iff.mpr hagain⟩
  · intro field maxLen required x w h
    have hagain := (sanitizePrintableAscii_ok_iff.mp h).again
    exact ⟨sanitizePrintableAscii_ok_iff.mpr hagain, sanitizeString_ok_iff.mpr hagain⟩
  · intro x token h
    obtain ⟨action, -, rfl⟩ := validateApprovalAction_ok_iff.mp h
    exact validateApprovalAction_ok_iff.mpr ⟨action, RequestValidator.parseAction_value action, rfl⟩

/-- A padded identifier, a blank actor and a lower-case action. -/
theorem command_line_and_api_agree_padded :
    RequestValidator.validateWorkflowId "wf-1" = .ok "wf-1" ∧
    RequestValidator.validateInitiateFields { workflowId := .text "wf-1" } =
      .ok { workflowId := some "wf-1" } ∧
    (∃ parsed : ApprovalAction, parsed.value = "REJECT" ∧
      RequestValidator.validateApprovalFields { action := "REJECT" } none =
        .ok { action := parsed }) ∧
    RequestValidator.sanitizeString "actor" 256 (some "ann") = .ok (some "ann") ∧
    validateApprovalAction (some "REJECT") = .ok "REJECT" := by
  obtain ⟨-, -, -, -, hinitiate, happrove, hid, htext, haction⟩ := command_line_and_api_agree
  have hreject : validateApprovalAction (some "reject ") = .ok "REJECT" := by decide +kernel
  refine ⟨(hid " wf-1" "wf-1" (by decide +kernel)).2,
    (hinitiate (some "wf-1 ") none (some " ") { workflowId := some "wf-1" } (by decide +kernel)).1,
    ?_, (htext "actor" 256 true " ann" "ann" (by decide +kernel)).2, haction _ _ hreject⟩
  obtain ⟨-, parsed, hvalue, hsent, -⟩ :=
    happrove (some "wf-1") (some "reject ") none none "wf-1" "REJECT" (by decide +kernel)
  exact ⟨parsed, hvalue, hsent⟩

end InputValidator

end CartoonDemo
