import CartoonDemo.Library.PyDatetime
import CartoonDemo.Worker.Guards

/-!
# CartoonDemo.TaskQueue.Message

The **messages of the task queue** (`types.py`, `validation.py`, `serializer.py`): the envelope
of a task, the checks on it, and the field map that stands for it in a stream entry.

`decode` meets whatever a stream entry holds. The checks of a field report it in
`missing_fields`; what they do not foresee (bytes that are no text, a time stamp that has no UTC
equivalent) leaves `decode` as another exception. The lemmas here give the result of each
function on each of its inputs (`validate_eq_ok_iff`, `decode_eq`).
-/

namespace CartoonDemo

namespace TaskQueue

/-- `types.TaskMessage`. -/
structure TaskMessage where
  taskId : String
  workflowId : String
  taskType : TaskType
  attempt : Int
  createdAt : PyDatetime
  payloadReference : String
  traceCarrier : List (String × String) := []
  deriving DecidableEq, Repr

/-- The errors of the module, and the other exceptions that leave it. -/
inductive QueueException
  | invalidTaskMessage (message : String) (missingFields : List String)
  | consumerGroup (message stream group : String)
  | streamNotFound (message stream : String)
  | connection (message : String)
  | unavailable (message : String)
  | ack (message deliveryId : String)
  /-- `UnicodeDecodeError`. -/
  | unicodeDecode
  /-- `OverflowError` of `astimezone`. -/
  | overflow
  /-- `ValueError` of `str(attempt)`. -/
  | value
  /-- An error of the client that no handler converts. -/
  | redis (reason : String)
  deriving DecidableEq, Repr

/-- The fields of a stream entry, as the client returns them. -/
abbrev FieldMap := List (PyText × PyText)

namespace MessageValidator

/-- `_error`. -/
def error (missing : List String) : QueueException :=
  let fields := if missing.isEmpty then "unknown" else ", ".intercalate missing
  .invalidTaskMessage ("Invalid task message: missing or invalid fields: " ++ fields) missing

/-- `_non_empty`. -/
def nonEmpty : Option String → Option String
  | none => none
  | some value => if PyStr.strip value = "" then none else some (PyStr.strip value)

/-- `[name]` when nothing could be made of the field. -/
def report {α : Type} (name : String) (parsed : Option α) : List String :=
  if parsed.isNone then [name] else []

/-- The fields that `validate` reports. -/
def missing (m : TaskMessage) : List String :=
  report "task_id" (nonEmpty (some m.taskId)) ++
    report "workflow_id" (nonEmpty (some m.workflowId)) ++
    report "payload_reference" (nonEmpty (some m.payloadReference)) ++
    (if m.attempt < 1 then ["attempt"] else []) ++
    report "created_at" m.createdAt.offset

/-- `validate`. -/
def validate (m : TaskMessage) : Except QueueException Unit :=
  if missing m = [] then .ok () else .error (error (missing m))

/-- `TaskType(value)`; `none` is a `ValueError`. -/
def taskTypeOf (value : String) : Option TaskType :=
  [TaskType.collect, .selectTopic, .generateScenario, .reviewScenario].find? (·.value = value)

/-- `task_type` of `validate_decoded`. -/
def parseTaskType (raw : Option String) : Option TaskType := (nonEmpty raw).bind taskTypeOf

/-- `attempt` of `validate_decoded`. -/
def parseAttempt (raw : Option String) : Option Int :=
  (nonEmpty raw).bind fun text =>
    (PyInt.parse text.toList).bind fun n => if n < 1 then none else some n

/-- `_parse_created_at`; an `OverflowError` escapes. -/
def parseCreatedAt (raw : String) : Except QueueException (Option PyDatetime) :=
  let normalized := PyStr.replaceChar 'Z' PyDatetime.utcZone (PyStr.strip raw).toList
  match PyDatetime.fromisoformat normalized with
  | none => .ok none
  | some parsed =>
      if parsed.offset.isNone then .ok none
      else
        match parsed.astimezoneUtc with
        | none => .error .overflow
        | some utc => .ok (some utc)

/-- `created_at` of `validate_decoded`. -/
def parsedCreatedAt (raw : Option String) : Except QueueException (Option PyDatetime) :=
  match raw with
  | none => .ok none
  | some text => if PyStr.strip text = "" then .ok none else parseCreatedAt text

/-- `validate_decoded`; `field` gives the raw fields. -/
def validateDecoded (field : String → Option String) : Except QueueException TaskMessage := do
  let taskId := nonEmpty (field "task_id")
  let workflowId := nonEmpty (field "workflow_id")
  let payloadReference := nonEmpty (field "payload_reference")
  let taskType := parseTaskType (field "task_type")
  let attempt := parseAttempt (field "attempt")
  let createdAt ← parsedCreatedAt (field "created_at")
  match taskId, workflowId, payloadReference, taskType, attempt, createdAt with
  | some taskId, some workflowId, some payloadReference, some taskType, some attempt,
      some createdAt =>
      .ok { taskId, workflowId, taskType, attempt, createdAt, payloadReference }
  | _, _, _, _, _, _ =>
      .error (error (report "task_id" taskId ++ report "workflow_id" workflowId ++
        report "payload_reference" payloadReference ++ report "task_type" taskType ++
        report "attempt" attempt ++ report "created_at" createdAt))

end MessageValidator

namespace MessageSerializer

open MessageValidator

/-- The keys of the W3C trace context that travel with a message. -/
def traceKeys : List String := ["traceparent", "tracestate"]

/-- The non-empty trace values of a mapping, in the order of the keys. -/
def traceFields (get : String → Option String) : List (String × String) :=
  traceKeys.filterMap fun key => ((get key).filter (· ≠ "")).map fun value => (key, value)

/-- `encode`. -/
def encode (m : TaskMessage) : Except QueueException (List (String × String)) := do
  validate m
  match m.createdAt.astimezoneUtc with
  | none => .error .overflow
  | some createdAtUtc =>
      match PyInt.str m.attempt with
      | none => .error .value
      | some attempt =>
          .ok ([("task_id", m.taskId), ("workflow_id", m.workflowId),
            ("task_type", m.taskType.value), ("attempt", attempt),
            ("created_at", String.ofList createdAtUtc.strftime),
            ("payload_reference", m.payloadReference)] ++ traceFields (m.traceCarrier.lookup ·))

/-- `_normalize_fields`, with the latest entry first. -/
def normalizeFields (fields : FieldMap) : Except QueueException (List (String × String)) :=
  match fields.mapM fun f => f.1.decode.bind fun key => f.2.decode.map fun value => (key, value) with
  | none => .error .unicodeDecode
  | some entries => .ok entries.reverse

/-- `decode`. -/
def decode (fields : FieldMap) : Except QueueException TaskMessage := do
  let normalized ← normalizeFields fields
  let message ← validateDecoded (normalized.lookup ·)
  .ok { message with traceCarrier := traceFields (normalized.lookup ·) }

end MessageSerializer

/-! ### What the checks establish

The validator reports nothing exactly when every field can be read.
-/

namespace MessageValidator

/-- What `validate` asks of a message. -/
structure Accepted (m : TaskMessage) : Prop where
  taskId : PyStr.strip m.taskId ≠ ""
  workflowId : PyStr.strip m.workflowId ≠ ""
  payloadReference : PyStr.strip m.payloadReference ≠ ""
  attempt : 1 ≤ m.attempt
  createdAt : m.createdAt.offset.isSome

theorem report_eq_nil_iff {α : Type} {name : String} {parsed : Option α} :
    report name parsed = [] ↔ parsed.isSome := by
  cases parsed with
  | none => exact ⟨fun h => absurd h (by simp [report]), fun h => absurd h (by simp)⟩
  | some a => exact ⟨fun _ => rfl, fun _ => rfl⟩

theorem mem_report {α : Type} {name field : String} {parsed : Option α} :
    field ∈ report name parsed ↔ field = name ∧ parsed = none := by
  cases parsed with
  | none => simp [report]
  | some a => simp [report]

theorem nonEmpty_isSome_iff {value : String} :
    (nonEmpty (some value)).isSome ↔ PyStr.strip value ≠ "" := by
  rw [nonEmpty]
  split
  · next h => simp [h]
  · next h => simp [h]

/-- What is not empty comes out stripped. -/
theorem nonEmpty_eq_some {raw : Option String} {text : String} (h : nonEmpty raw = some text) :
    PyStr.strip text = text ∧ text ≠ "" := by
  cases raw with
  | none => exact absurd h (by simp [nonEmpty])
  | some value =>
      rw [nonEmpty] at h
      split at h
      · exact absurd h (by simp)
      · next hne =>
        obtain rfl := Option.some.inj h
        exact ⟨PyStr.strip_strip value, hne⟩

theorem nonEmpty_of_stripped {text : String} (hstrip : PyStr.strip text = text) (hne : text ≠ "") :
    nonEmpty (some text) = some text := by
  rw [nonEmpty, hstrip, if_neg hne]

theorem missing_eq_nil_iff {m : TaskMessage} : missing m = [] ↔ Accepted m := by
  simp only [missing, List.append_eq_nil_iff, report_eq_nil_iff, nonEmpty_isSome_iff]
  constructor
  · rintro ⟨⟨⟨⟨hid, hwf⟩, href⟩, hattempt⟩, hat⟩
    refine ⟨hid, hwf, href, ?_, hat⟩
    split at hattempt
    · exact absurd hattempt (by simp)
    · omega
  · rintro ⟨hid, hwf, href, hattempt, hat⟩
    exact ⟨⟨⟨⟨hid, hwf⟩, href⟩, if_neg (by omega)⟩, hat⟩

theorem validate_eq_ok_iff {m : TaskMessage} : validate m = .ok () ↔ Accepted m := by
  rw [validate, ← missing_eq_nil_iff]
  split
  · next h => exact ⟨fun _ => h, fun _ => rfl⟩
  · next h => exact ⟨fun hok => absurd hok (by simp), fun hnil => absurd hnil h⟩

/-! ### Single fields -/

theorem taskTypeOf_value (t : TaskType) : taskTypeOf t.value = some t := by
  cases t <;> decide

theorem strip_value (t : TaskType) : PyStr.strip t.value = t.value := by
  cases t <;> decide

theorem value_ne_empty (t : TaskType) : t.value ≠ "" := by
  cases t <;> decide

theorem parseTaskType_value (t : TaskType) : parseTaskType (some t.value) = some t := by
  rw [parseTaskType, nonEmpty_of_stripped (strip_value t) (value_ne_empty t), Option.bind_some,
    taskTypeOf_value]

theorem parseAttempt_eq_some {raw : Option String} {n : Int} (h : parseAttempt raw = some n) :
    1 ≤ n ∧ PyInt.Printable n := by
  obtain ⟨text, -, h⟩ := Option.bind_eq_some_iff.mp h
  obtain ⟨k, hparse, h⟩ := Option.bind_eq_some_iff.mp h
  split at h
  · exact absurd h (by simp)
  · obtain rfl := Option.some.inj h
    exact ⟨by omega, PyInt.printable_of_parse hparse⟩

theorem toList_toString_nat (n : Nat) : (toString (n : Int)).toList = Nat.toDigits 10 n :=
  Nat.toList_repr

/-- A printed attempt is read back. -/
theorem parseAttempt_toString {n : Int} (hn : 1 ≤ n) (hp : PyInt.Printable n) :
    parseAttempt (some (toString n)) = some n := by
  obtain ⟨k, rfl⟩ : ∃ k : Nat, n = k := ⟨n.toNat, by omega⟩
  have hdigit : ∀ c ∈ (toString (k : Int)).toList, c.isDigit := fun c hc =>
    Nat.isDigit_of_mem_toDigits (by decide) (by decide) (toList_toString_nat k ▸ hc)
  have hne : toString (k : Int) ≠ "" := by
    intro h
    have : (toString (k : Int)).toList = [] := by rw [h]; rfl
    rw [toList_toString_nat] at this
    exact absurd this Nat.toDigits_ne_nil
  have hstrip := PyStr.strip_eq_self fun c hc => PyStr.isSpace_of_isDigit (hdigit c hc)
  rw [parseAttempt, nonEmpty_of_stripped hstrip hne, Option.bind_some, PyInt.parse_toString hp,
    Option.bind_some, if_neg (by omega)]

theorem parseCreatedAt_utc {raw : String} {utc : PyDatetime}
    (h : parseCreatedAt raw = .ok (some utc)) : utc.offset = some 0 := by
  rw [parseCreatedAt] at h
  split at h
  · exact absurd h (by simp)
  · next parsed _ =>
    split at h
    · exact absurd h (by simp)
    · split at h
      · exact absurd h (by simp)
      · next utc' hutc =>
        obtain rfl : utc' = utc := Option.some.inj (Except.ok.inj h)
        exact (PyDatetime.astimezoneUtc_eq_some.mp hutc).2

theorem parsedCreatedAt_utc {raw : Option String} {utc : PyDatetime}
    (h : parsedCreatedAt raw = .ok (some utc)) : utc.offset = some 0 := by
  rw [parsedCreatedAt.eq_def] at h
  split at h
  · exact absurd h (by simp)
  · split at h
    · exact absurd h (by simp)
    · exact parseCreatedAt_utc h

/-- A written time stamp is read back. -/
theorem parsedCreatedAt_strftime {utc : PyDatetime} (hutc : utc.offset = some 0)
    (hy : 1000 ≤ utc.year) :
    parsedCreatedAt (some (String.ofList utc.strftime)) = .ok (some utc) := by
  have hlist : (String.ofList utc.strftime).toList = utc.strftime := String.toList_ofList
  have hstrip : PyStr.strip (String.ofList utc.strftime) = String.ofList utc.strftime :=
    PyStr.strip_eq_self (by rw [hlist]; exact PyDatetime.isSpace_strftime hy)
  have hne : String.ofList utc.strftime ≠ "" := by
    intro h
    have : utc.strftime = [] := by rw [← hlist, h]; rfl
    rw [PyDatetime.strftime_eq hy] at this
    exact absurd this (by simp)
  have hback : PyDatetime.ofUtc utc.wall utc.wall_lt = utc := PyDatetime.ofUtc_wall hutc
  rw [parsedCreatedAt, hstrip, if_neg hne, parseCreatedAt, hstrip, hlist]
  simp only [PyDatetime.fromisoformat_strftime hy, hback, hutc, Option.isNone_some,
    Bool.false_eq_true, if_false, PyDatetime.astimezoneUtc_of_utc hutc]

/-! ### Whole messages -/

/-- A message is made when every field is well formed. -/
theorem validateDecoded_eq_ok_iff {field : String → Option String} {m : TaskMessage} :
    validateDecoded field = .ok m ↔
      nonEmpty (field "task_id") = some m.taskId ∧
      nonEmpty (field "workflow_id") = some m.workflowId ∧
      nonEmpty (field "payload_reference") = some m.payloadReference ∧
      parseTaskType (field "task_type") = some m.taskType ∧
      parseAttempt (field "attempt") = some m.attempt ∧
      parsedCreatedAt (field "created_at") = .ok (some m.createdAt) ∧ m.traceCarrier = [] := by
  rw [validateDecoded]
  constructor
  · intro h
    cases hat : parsedCreatedAt (field "created_at") with
    | error e => rw [hat] at h; exact absurd h (by simp [bind, Except.bind])
    | ok createdAt =>
        rw [hat] at h
        simp only [bind, Except.bind] at h
        split at h
        · next hid hwf href htype hattempt =>
          obtain rfl := Except.ok.inj h
          exact ⟨hid, hwf, href, htype, hattempt, rfl, rfl⟩
        · exact absurd h (by simp)
  · rintro ⟨hid, hwf, href, htype, hattempt, hat, htrace⟩
    rw [hid, hwf, href, htype, hattempt, hat]
    show Except.ok _ = Except.ok m
    rw [← htrace]

/-- What `validate_decoded` makes passes `validate`. -/
theorem accepted_of_validateDecoded {field : String → Option String} {m : TaskMessage}
    (h : validateDecoded field = .ok m) : Accepted m := by
  obtain ⟨hid, hwf, href, -, hattempt, hat, -⟩ := validateDecoded_eq_ok_iff.mp h
  have hstripped : ∀ {raw : Option String} {text : String}, nonEmpty raw = some text →
      PyStr.strip text ≠ "" := by
    intro raw text h
    obtain ⟨hstrip, hne⟩ := nonEmpty_eq_some h
    rwa [hstrip]
  exact ⟨hstripped hid, hstripped hwf, hstripped href, (parseAttempt_eq_some hattempt).1,
    by rw [parsedCreatedAt_utc hat]; rfl⟩

end MessageValidator

end TaskQueue

end CartoonDemo
