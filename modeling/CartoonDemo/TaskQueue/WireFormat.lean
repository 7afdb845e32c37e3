import CartoonDemo.TaskQueue.Message

/-!
# CartoonDemo.TaskQueue.WireFormat

Queue messages **survive the wire**. `encode` writes the time stamp in UTC and keeps the
non-empty trace values; `decode` reads every field back. So a message that `validate` accepts
returns with only these two changes, and a message that was decoded before returns as it is.

Two things are asked of the message itself. Its ids have no white space around them, because
`decode` strips them; and the number of its attempt has at most 4300 digits, because `encode`
prints it and Python prints no longer integer. For the year 999 and before, `strftime` writes
fewer than four digits, which `fromisoformat` does not read.
-/

namespace CartoonDemo

namespace TaskQueue

open MessageValidator MessageSerializer

/-! ### The fields of an encoded message -/

/-- A field map as the client returns it when it decodes responses. -/
def ofStrings (fields : List (String × String)) : FieldMap :=
  fields.map fun f => (.str f.1, .str f.2)

theorem normalizeFields_ofStrings (fields : List (String × String)) :
    normalizeFields (ofStrings fields) = .ok fields.reverse := by
  have hmap : (ofStrings fields).mapM (fun f => f.1.decode.bind fun key =>
      f.2.decode.map fun value => (key, value)) = some fields := by
    rw [ofStrings, List.mapM_map]
    induction fields with
    | nil => rfl
    | cons f fields ih => rw [List.mapM_cons, ih]; rfl
  rw [normalizeFields, hmap]

theorem mem_traceFields {get : String → Option String} {f : String × String}
    (h : f ∈ traceFields get) : f.1 ∈ traceKeys := by
  obtain ⟨key, hkey, hf⟩ := List.mem_filterMap.mp h
  obtain ⟨value, -, rfl⟩ := Option.map_eq_some_iff.mp hf
  exact hkey

/-- Trace values do not hide another field. -/
theorem lookup_traceFields_of_not_mem {get : String → Option String} {key : String}
    (h : key ∉ traceKeys) : (traceFields get).reverse.lookup key = none := by
  rw [List.lookup_eq_none_iff]
  intro f hf
  have hmem := mem_traceFields (List.mem_reverse.mp hf)
  rw [bne_iff_ne]
  rintro rfl
  exact h hmem

/-- A trace value is found from either end of the list. -/
theorem lookup_traceFields {get : String → Option String} {key : String} (h : key ∈ traceKeys) :
    (traceFields get).lookup key = (get key).filter (· ≠ "") ∧
      (traceFields get).reverse.lookup key = (get key).filter (· ≠ "") := by
  have hpairs : ∀ a b : Option String,
      let l := [("traceparent", a), ("tracestate", b)].filterMap fun f : String × Option String =>
        f.2.map fun value => (f.1, value)
      let found := if key = "traceparent" then a else b
      l.lookup key = found ∧ l.reverse.lookup key = found := by
    intro a b
    rcases List.mem_cons.mp h with rfl | h
    · cases a <;> cases b <;> exact ⟨rfl, rfl⟩
    · rw [List.mem_singleton.mp h]
      cases a <;> cases b <;> exact ⟨rfl, rfl⟩
  have hfound : (if key = "traceparent" then (get "traceparent").filter (· ≠ "")
      else (get "tracestate").filter (· ≠ "")) = (get key).filter (· ≠ "") := by
    rcases List.mem_cons.mp h with rfl | h
    · rw [if_pos rfl]
    · rw [List.mem_singleton.mp h, if_neg (by decide)]
  rw [← hfound]
  exact hpairs _ _

theorem traceFields_congr {f g : String → Option String}
    (h : ∀ key ∈ traceKeys, (f key).filter (· ≠ "") = (g key).filter (· ≠ "")) :
    traceFields f = traceFields g :=
  List.filterMap_congr fun key hkey => by rw [h key hkey]

/-! ### Round trips

What was encoded is decoded to the same message, or to one without white space around its texts.
-/

/-- The ids of a message have no white space around them. -/
structure Stripped (m : TaskMessage) : Prop where
  taskId : PyStr.strip m.taskId = m.taskId
  workflowId : PyStr.strip m.workflowId = m.workflowId
  payloadReference : PyStr.strip m.payloadReference = m.payloadReference

/-- The message as it leaves the queue. -/
def delivered (m : TaskMessage) (createdAtUtc : PyDatetime) : TaskMessage :=
  { m with createdAt := createdAtUtc, traceCarrier := traceFields (m.traceCarrier.lookup ·) }

/-- Every field of an encoded message is read back. -/
theorem decode_encode {m : TaskMessage} {utc : PyDatetime} (hm : Accepted m) (hs : Stripped m)
    (hutc : m.createdAt.astimezoneUtc = some utc) (hy : 1000 ≤ utc.year)
    (hp : PyInt.Printable m.attempt) :
    ∃ fields, encode m = .ok fields ∧ decode (ofStrings fields) = .ok (delivered m utc) := by
  let named : List (String × String) := [("task_id", m.taskId), ("workflow_id", m.workflowId),
    ("task_type", m.taskType.value), ("attempt", toString m.attempt),
    ("created_at", String.ofList utc.strftime), ("payload_reference", m.payloadReference)]
  let trace := traceFields (m.traceCarrier.lookup ·)
  have hencode : encode m = .ok (named ++ trace) := by
    rw [encode, validate_eq_ok_iff.mpr hm, hutc, PyInt.str_of_printable hp]
    rfl
  have hnamed : ∀ key, key ∉ traceKeys →
      (named ++ trace).reverse.lookup key = named.reverse.lookup key := by
    intro key hkey
    rw [List.reverse_append, List.lookup_append, lookup_traceFields_of_not_mem hkey, Option.none_or]
  have htrace : ∀ key ∈ traceKeys, (named ++ trace).reverse.lookup key =
      (m.traceCarrier.lookup key).filter (· ≠ "") := by
    intro key hkey
    have hnone : named.reverse.lookup key = none := by
      rcases List.mem_cons.mp hkey with rfl | hkey
      · rfl
      · rw [List.mem_singleton.mp hkey]; rfl
    rw [List.reverse_append, List.lookup_append, (lookup_traceFields hkey).2, hnone, Option.or_none]
  have hne : ∀ {text : String}, PyStr.strip text = text → PyStr.strip text ≠ "" → text ≠ "" :=
    fun hstrip h => hstrip ▸ h
  have hmessage : validateDecoded ((named ++ trace).reverse.lookup ·) =
      .ok { delivered m utc with traceCarrier := [] } := by
    refine validateDecoded_eq_ok_iff.mpr ⟨?_, ?_, ?_, ?_, ?_, ?_, rfl⟩
    · rw [hnamed _ (by decide)]
      exact nonEmpty_of_stripped hs.taskId (hne hs.taskId hm.taskId)
    · rw [hnamed _ (by decide)]
      exact nonEmpty_of_stripped hs.workflowId (hne hs.workflowId hm.workflowId)
    · rw [hnamed _ (by decide)]
      exact nonEmpty_of_stripped hs.payloadReference (hne hs.payloadReference hm.payloadReference)
    · rw [hnamed _ (by decide)]
      exact parseTaskType_value m.taskType
    · rw [hnamed _ (by decide)]
      exact parseAttempt_toString hm.attempt hp
    · rw [hnamed _ (by decide)]
      exact parsedCreatedAt_strftime (PyDatetime.astimezoneUtc_eq_some.mp hutc).2 hy
  have hcarrier : traceFields ((named ++ trace).reverse.lookup ·) = trace := by
    refine traceFields_congr fun key hkey => ?_
    rw [htrace key hkey, Option.filter_filter]
    simp only [Bool.and_self]
  refine ⟨named ++ trace, hencode, ?_⟩
  rw [decode, normalizeFields_ofStrings]
  show (validateDecoded _ >>= fun message => _) = _
  rw [hmessage]
  show Except.ok _ = _
  rw [hcarrier]
  rfl

/-- What `decode` makes of a field map. -/
theorem decode_eq_ok {fields : FieldMap} {m : TaskMessage} (h : decode fields = .ok m) :
    ∃ normalized, normalizeFields fields = .ok normalized ∧
      validateDecoded (normalized.lookup ·) = .ok { m with traceCarrier := [] } ∧
      m.traceCarrier = traceFields (normalized.lookup ·) := by
  cases hn : normalizeFields fields with
  | error e => rw [decode, hn] at h; exact absurd h (by simp [bind, Except.bind])
  | ok normalized =>
      rw [decode, hn] at h
      cases hv : validateDecoded (normalized.lookup ·) with
      | error e =>
          simp only [bind, Except.bind, hv] at h
          exact absurd h (by simp)
      | ok message =>
          simp only [bind, Except.bind, hv] at h
          obtain rfl := Except.ok.inj h
          have htrace := (validateDecoded_eq_ok_iff.mp hv).2.2.2.2.2.2
          refine ⟨normalized, rfl, ?_, rfl⟩
          rw [hv, ← htrace]

/-- A decoded message is fit to be encoded. -/
theorem decode_stripped {fields : FieldMap} {m : TaskMessage} (h : decode fields = .ok m) :
    Accepted m ∧ Stripped m ∧ m.createdAt.offset = some 0 ∧ PyInt.Printable m.attempt := by
  obtain ⟨normalized, -, hv, -⟩ := decode_eq_ok h
  have ha := accepted_of_validateDecoded hv
  obtain ⟨hid, hwf, href, -, hattempt, hat, -⟩ := validateDecoded_eq_ok_iff.mp hv
  exact ⟨⟨ha.taskId, ha.workflowId, ha.payloadReference, ha.attempt, ha.createdAt⟩,
    ⟨(nonEmpty_eq_some hid).1, (nonEmpty_eq_some hwf).1, (nonEmpty_eq_some href).1⟩,
    parsedCreatedAt_utc hat, (parseAttempt_eq_some hattempt).2⟩

/-- The carrier of a decoded message is already restricted. -/
theorem delivered_decoded {fields : FieldMap} {m : TaskMessage} (h : decode fields = .ok m) :
    delivered m m.createdAt = m := by
  obtain ⟨normalized, -, -, htrace⟩ := decode_eq_ok h
  have hsame : traceFields (m.traceCarrier.lookup ·) = m.traceCarrier := by
    rw [htrace]
    refine traceFields_congr fun key hkey => ?_
    rw [(lookup_traceFields hkey).1, Option.filter_filter]
    simp only [Bool.and_self]
  rw [delivered, hsame]

/-- **Messages survive the wire.** -/
theorem survives_the_wire :
    (∀ (m : TaskMessage) (utc : PyDatetime), validate m = .ok () → Stripped m →
      m.createdAt.astimezoneUtc = some utc → 1000 ≤ utc.year → PyInt.Printable m.attempt →
      ∃ fields, encode m = .ok fields ∧ decode (ofStrings fields) = .ok (delivered m utc)) ∧
    ∀ (F : FieldMap) (m : TaskMessage), decode F = .ok m → 1000 ≤ m.createdAt.year →
      ∃ fields, encode m = .ok fields ∧ decode (ofStrings fields) = .ok m := by
  refine ⟨fun m utc hm hs hutc hy hp => decode_encode (validate_eq_ok_iff.mp hm) hs hutc hy hp, ?_⟩
  intro F m h hy
  obtain ⟨ha, hs, hutc, hp⟩ := decode_stripped h
  have hround := decode_encode ha hs (PyDatetime.astimezoneUtc_of_utc hutc) hy hp
  rwa [delivered_decoded h] at hround

/-- 2026-08-31T10:00:00.5, in UTC. -/
def sampleTime : PyDatetime := .ofUtc 63923767200500000 (by decide)

/-- A message of an attempt that is one digit too long. -/
def longAttempt : TaskMessage where
  taskId := "t"
  workflowId := "w"
  taskType := .collect
  attempt := 10 ^ 4300
  createdAt := sampleTime
  payloadReference := "ref"

theorem accepted_longAttempt : Accepted longAttempt where
  taskId := by decide
  workflowId := by decide
  payloadReference := by decide
  attempt := by
    show (1 : Int) ≤ 10 ^ 4300
    exact one_le_pow₀ (by decide)
  createdAt := rfl

/-- `encode` cannot print that attempt. -/
theorem longAttempt_not_encoded :
    validate longAttempt = .ok () ∧ Stripped longAttempt ∧
      longAttempt.createdAt.astimezoneUtc = some sampleTime ∧ 1000 ≤ sampleTime.year ∧
      ¬ ∃ fields, encode longAttempt = .ok fields := by
  have hprint : ¬ PyInt.Printable longAttempt.attempt := by
    have hpow (n : ℕ) : ((10 : ℤ) ^ n).natAbs = 10 ^ n := Int.natAbs_pow 10 n
    rw [PyInt.printable_iff, PyInt.maxStrDigits]
    simp only [longAttempt, hpow]
    exact lt_irrefl _
  have hvalid := validate_eq_ok_iff.mpr accepted_longAttempt
  have hutc : longAttempt.createdAt.astimezoneUtc = some sampleTime :=
    PyDatetime.astimezoneUtc_of_utc rfl
  refine ⟨hvalid, ⟨by decide, by decide, by decide⟩, hutc, by decide, ?_⟩
  rintro ⟨fields, h⟩
  rw [encode, hvalid, hutc, PyInt.str_of_not_printable hprint] at h
  exact absurd h (by simp [bind, Except.bind])

/-- Noon of the same day, two hours ahead of UTC. -/
def sampleMessage : TaskMessage where
  taskId := "t"
  workflowId := "w"
  taskType := .collect
  attempt := 2
  createdAt :=
    { wall := 63923774400500000, offset := some 7200000000, wall_lt := by decide
      offset_lt := by decide }
  payloadReference := "ref"
  traceCarrier := [("tracestate", ""), ("traceparent", "00-1"), ("baggage", "x")]

/-- A stream entry with bytes and white space. -/
def sampleFields : FieldMap :=
  [(.bytes "task_id".toUTF8, .str " t "), (.str "workflow_id", .bytes "w".toUTF8),
   (.str "task_type", .str "COLLECT\n"), (.str "attempt", .str "+0_2"),
   (.str "created_at", .str "2026-08-31 12:00:00.5+02"), (.str "payload_reference", .str "ref"),
   (.str "traceparent", .str "00-1")]

theorem survives_the_wire_sample :
    (∃ fields, encode sampleMessage = .ok fields ∧
      decode (ofStrings fields) = .ok (delivered sampleMessage sampleTime)) ∧
    ∃ fields, encode (delivered sampleMessage sampleTime) = .ok fields ∧
      decode (ofStrings fields) = .ok (delivered sampleMessage sampleTime) := by
  have hvalid : validate sampleMessage = .ok () := by decide
  have hstripped : Stripped sampleMessage := ⟨by decide, by decide, by decide⟩
  have hutc : sampleMessage.createdAt.astimezoneUtc = some sampleTime := by decide
  have hattempt : PyInt.Printable sampleMessage.attempt := by
    rw [PyInt.printable_iff]
    exact Nat.lt_of_lt_of_le (by decide : 2 < 10 ^ 1) (Nat.pow_le_pow_right (by decide) (by decide))
  have hdecode : decode sampleFields = .ok (delivered sampleMessage sampleTime) := by
    decide +kernel
  exact ⟨survives_the_wire.1 _ _ hvalid hstripped hutc (by decide) hattempt,
    survives_the_wire.2 _ _ hdecode (by decide)⟩

end TaskQueue

end CartoonDemo
