import CartoonDemo.TaskQueue.RedisQueue

/-!
# CartoonDemo.TaskQueue.Untrusted

What a **stream entry of any content** does to the queue. `decode` reports the fields that are
absent or ill formed, and `dequeue` acknowledges the entry, unless one of two things happens that
no check foresees: bytes that are not UTF-8 end `decode` with a `UnicodeDecodeError`, and a time
stamp close to an end of the calendar, whose UTC equivalent does not exist, with an
`OverflowError`. Then the entry stays pending, at the head of what is claimed next.

`Foreseen` is the absence of both. `handledCleanly_iff` says that it is exactly what an entry
needs in order to be decoded or reported, delivered or acknowledged, and not given out again once
it was found malformed.
-/

namespace CartoonDemo

namespace TaskQueue

open MessageValidator MessageSerializer

/-- The text of a field: of the last entry of that name. -/
def textOf (F : FieldMap) (name : String) : Option String :=
  (F.reverse.find? fun f => f.1.decode = some name).bind fun f => f.2.decode

/-- Every key and every value is text. -/
def Textual (F : FieldMap) : Prop := ∀ f ∈ F, f.1.Decodes ∧ f.2.Decodes

/-- What `_parse_created_at` hands to `fromisoformat`. -/
def isoOf (text : String) : List Char :=
  PyStr.replaceChar 'Z' PyDatetime.utcZone (PyStr.strip text).toList

/-- The time stamp has an offset, and its UTC equivalent is not a year from 1 to 9999. -/
def BeyondCalendar (F : FieldMap) : Prop :=
  ∃ text d, textOf F "created_at" = some text ∧ PyDatetime.fromisoformat (isoOf text) = some d ∧
    d.offset.isSome ∧ d.astimezoneUtc = none

/-- An entry that meets only checks. -/
def Foreseen (F : FieldMap) : Prop := Textual F ∧ ¬ BeyondCalendar F

/-- What the text of a required field has to be. -/
def FieldText (name text : String) : Prop :=
  if name = "task_type" then ∃ t : TaskType, PyStr.strip text = t.value
  else if name = "attempt" then ∃ n, PyInt.parse (PyStr.strip text).toList = some n ∧ 1 ≤ n
  else if name = "created_at" then
    ∃ d utc, PyDatetime.fromisoformat (isoOf text) = some d ∧ d.offset.isSome ∧
      d.astimezoneUtc = some utc
  else PyStr.strip text ≠ ""

/-- A required field is there and well formed. -/
def WellFormed (F : FieldMap) (name : String) : Prop :=
  ∃ text, textOf F name = some text ∧ FieldText name text

/-- `REQUIRED_STREAM_FIELDS`. -/
def requiredFields : List String :=
  ["task_id", "workflow_id", "task_type", "attempt", "created_at", "payload_reference"]

/-- What `decode` is to do with a field map. -/
def DecodesCleanly (F : FieldMap) : Prop :=
  match decode F with
  | .ok m => validate m = .ok ()
  | .error (.invalidTaskMessage _ missing) =>
      ∀ name, name ∈ missing ↔ name ∈ requiredFields ∧ ¬ WellFormed F name
  | .error _ => False

/-- What `dequeue` is to do with an entry that it obtains: deliver it, or acknowledge it and
report it as invalid. -/
def DequeuedCleanly (F : FieldMap) : Prop :=
  ∀ (q : RedisTaskQueue) (env : Outages) (now : Time) (stream group consumer : String)
    (s : RedisStream) (id : StreamId), env.ack = none →
    (q.obtain env stream group consumer s).2 = .ok (some (id, F)) →
    (∃ d : PendingDelivery, (q.dequeue env now stream group consumer s).2 = .ok (some d) ∧
        d.deliveryId = id ∧ decode F = .ok d.message) ∨
      ∃ text missing,
        (q.dequeue env now stream group consumer s).2 = .error (.invalidTaskMessage text missing) ∧
        id ∉ (q.dequeue env now stream group consumer s).1.pending.map Prod.fst

/-- A malformed entry is given out once at most, in every run. -/
def DeliveredOnce (F : FieldMap) : Prop :=
  (∀ m, decode F ≠ .ok m) → ∀ (q : RedisTaskQueue) (s : RedisStream) (as : List QueueAction)
    (id : StreamId), (∀ a ∈ as, a.AckSucceeds) → deliveries q (id, F) s as ≤ 1

/-- The entry does not wedge the queue. -/
def HandledCleanly (F : FieldMap) : Prop :=
  DecodesCleanly F ∧ DequeuedCleanly F ∧ DeliveredOnce F

/-! ### Fields as text -/

/-- Both texts of a field. -/
def decodeField (f : PyText × PyText) : Option (String × String) :=
  f.1.decode.bind fun key => f.2.decode.map fun value => (key, value)

theorem decodeField_isSome_iff {f : PyText × PyText} :
    (decodeField f).isSome ↔ f.1.Decodes ∧ f.2.Decodes := by
  rw [← PyText.decode_isSome_iff, ← PyText.decode_isSome_iff, decodeField]
  cases f.1.decode with
  | none => simp
  | some key => simp

/-- Fields that decode, decode to their texts. -/
theorem mapM_decodeField {F : FieldMap} {entries : List (String × String)}
    (h : F.mapM decodeField = some entries) :
    Textual F ∧ ∀ name, entries.reverse.lookup name = textOf F name := by
  induction F generalizing entries with
  | nil =>
      obtain rfl : entries = [] := by simpa using h.symm
      exact ⟨fun f hf => absurd hf (by simp), fun name => rfl⟩
  | cons f F ih =>
      rw [List.mapM_cons] at h
      obtain ⟨entry, hentry, h⟩ := Option.bind_eq_some_iff.mp h
      obtain ⟨rest, hrest, h⟩ := Option.bind_eq_some_iff.mp h
      obtain rfl := Option.some.inj h
      obtain ⟨htext, hlookup⟩ := ih hrest
      have hf := decodeField_isSome_iff.mp (Option.isSome_of_eq_some hentry)
      refine ⟨fun f' hf' => ?_, fun name => ?_⟩
      · rcases List.mem_cons.mp hf' with rfl | hf'
        · exact hf
        · exact htext f' hf'
      · obtain ⟨key, hkey, hpair⟩ := Option.bind_eq_some_iff.mp hentry
        obtain ⟨value, hvalue, rfl⟩ := Option.map_eq_some_iff.mp hpair
        rw [List.reverse_cons, List.lookup_append, hlookup, textOf, textOf, List.reverse_cons,
          List.find?_append]
        cases hfind : F.reverse.find? fun f => f.1.decode = some name with
        | some g =>
            have hg := decodeField_isSome_iff.mpr
              (htext g (List.mem_reverse.mp (List.mem_of_find?_eq_some hfind)))
            obtain ⟨pair, hpair⟩ := Option.isSome_iff_exists.mp hg
            obtain ⟨k, -, hv⟩ := Option.bind_eq_some_iff.mp hpair
            obtain ⟨v, hv, -⟩ := Option.map_eq_some_iff.mp hv
            rw [Option.bind_some, hv, Option.some_or, Option.some_or, Option.bind_some, hv]
        | none =>
            rw [Option.bind_none, Option.none_or, Option.none_or, List.lookup_singleton]
            by_cases hname : name = key
            · rw [if_pos (by simpa using hname), List.find?_cons_of_pos (by simp [hkey, hname]),
                Option.bind_some]
              exact hvalue.symm
            · rw [if_neg (by simpa using hname),
                List.find?_cons_of_neg (by simp [hkey, Ne.symm hname])]
              rfl

theorem mapM_decodeField_isSome {F : FieldMap} (h : Textual F) :
    ∃ entries, F.mapM decodeField = some entries := by
  induction F with
  | nil => exact ⟨[], rfl⟩
  | cons f F ih =>
      obtain ⟨rest, hrest⟩ := ih fun f' hf' => h f' (List.mem_cons_of_mem _ hf')
      obtain ⟨entry, hentry⟩ := Option.isSome_iff_exists.mp
        (decodeField_isSome_iff.mpr (h f (List.mem_cons_self ..)))
      exact ⟨entry :: rest, by rw [List.mapM_cons, hentry, hrest]; rfl⟩

theorem normalizeFields_of_textual {F : FieldMap} (h : Textual F) :
    ∃ normalized, normalizeFields F = .ok normalized ∧
      ∀ name, normalized.lookup name = textOf F name := by
  obtain ⟨entries, hentries⟩ := mapM_decodeField_isSome h
  refine ⟨entries.reverse, ?_, (mapM_decodeField hentries).2⟩
  have hmap : (F.mapM fun f => f.1.decode.bind fun key => f.2.decode.map fun value => (key, value)) =
      some entries := hentries
  rw [normalizeFields, hmap]

theorem normalizeFields_of_not_textual {F : FieldMap} (h : ¬ Textual F) :
    normalizeFields F = .error .unicodeDecode := by
  have hnone : F.mapM decodeField = none := by
    cases hentries : F.mapM decodeField with
    | none => rfl
    | some entries => exact absurd (mapM_decodeField hentries).1 h
  have hmap : (F.mapM fun f => f.1.decode.bind fun key => f.2.decode.map fun value => (key, value)) =
      none := hnone
  rw [normalizeFields, hmap]

/-! ### What each parser makes of a field

Whether it accepts the text, and what it raises.
-/

theorem nonEmpty_isSome {raw : Option String} :
    (nonEmpty raw).isSome ↔ ∃ text, raw = some text ∧ PyStr.strip text ≠ "" := by
  cases raw with
  | none => simp [nonEmpty]
  | some text => simp [nonEmpty_isSome_iff]

theorem taskTypeOf_eq_some {text : String} {t : TaskType} (h : taskTypeOf text = some t) :
    t.value = text := by
  simpa using List.find?_some h

theorem parseTaskType_isSome {raw : Option String} :
    (parseTaskType raw).isSome ↔
      ∃ text, raw = some text ∧ ∃ t : TaskType, PyStr.strip text = t.value := by
  constructor
  · intro h
    obtain ⟨t, ht⟩ := Option.isSome_iff_exists.mp h
    obtain ⟨text, htext, ht⟩ := Option.bind_eq_some_iff.mp ht
    cases raw with
    | none => exact absurd htext (by simp [nonEmpty])
    | some value =>
        rw [nonEmpty] at htext
        split at htext
        · exact absurd htext (by simp)
        · obtain rfl := Option.some.inj htext
          exact ⟨value, rfl, t, (taskTypeOf_eq_some ht).symm⟩
  · rintro ⟨text, rfl, t, ht⟩
    rw [parseTaskType, nonEmpty, ht, if_neg (value_ne_empty t), Option.bind_some, taskTypeOf_value]
    rfl

theorem parseAttempt_isSome {raw : Option String} :
    (parseAttempt raw).isSome ↔ ∃ text, raw = some text ∧
      ∃ n, PyInt.parse (PyStr.strip text).toList = some n ∧ 1 ≤ n := by
  constructor
  · intro h
    obtain ⟨n, hn⟩ := Option.isSome_iff_exists.mp h
    obtain ⟨text, htext, hn'⟩ := Option.bind_eq_some_iff.mp hn
    obtain ⟨k, hparse, hk⟩ := Option.bind_eq_some_iff.mp hn'
    split at hk
    · exact absurd hk (by simp)
    · cases raw with
      | none => exact absurd htext (by simp [nonEmpty])
      | some value =>
          rw [nonEmpty] at htext
          split at htext
          · exact absurd htext (by simp)
          · obtain rfl := Option.some.inj htext
            exact ⟨value, rfl, k, hparse, by omega⟩
  · rintro ⟨text, rfl, n, hn, hpos⟩
    have hne : PyStr.strip text ≠ "" := by
      intro h
      rw [h] at hn
      exact absurd (hn.symm.trans (by decide : PyInt.parse "".toList = none)) (by simp)
    rw [parseAttempt, nonEmpty, if_neg hne, Option.bind_some, hn, Option.bind_some,
      if_neg (by omega)]
    rfl

/-- The four ends of parsing a time stamp. -/
theorem parsedCreatedAt_cases (raw : Option String) :
    (parsedCreatedAt raw = .ok none ∧ ∀ text d, raw = some text →
        PyDatetime.fromisoformat (isoOf text) = some d → d.offset = none) ∨
    (∃ text d utc, raw = some text ∧ PyDatetime.fromisoformat (isoOf text) = some d ∧
        d.offset.isSome ∧ d.astimezoneUtc = some utc ∧ parsedCreatedAt raw = .ok (some utc)) ∨
    ∃ text d, raw = some text ∧ PyDatetime.fromisoformat (isoOf text) = some d ∧
        d.offset.isSome ∧ d.astimezoneUtc = none ∧ parsedCreatedAt raw = .error .overflow := by
  cases raw with
  | none => exact Or.inl ⟨rfl, fun text d h => absurd h (by simp)⟩
  | some text =>
      by_cases hempty : PyStr.strip text = ""
      · refine Or.inl ⟨by rw [parsedCreatedAt, if_pos hempty], fun text' d htext hd => ?_⟩
        obtain rfl := Option.some.inj htext
        have hnone : PyDatetime.fromisoformat (isoOf text) = none := by
          rw [isoOf, hempty]
          decide
        exact absurd (hnone.symm.trans hd) (by simp)
      · have hparse : parsedCreatedAt (some text) = parseCreatedAt text := by
          rw [parsedCreatedAt, if_neg hempty]
        rw [hparse, parseCreatedAt, ← isoOf]
        cases hd : PyDatetime.fromisoformat (isoOf text) with
        | none =>
            refine Or.inl ⟨rfl, fun text' d htext hd' => ?_⟩
            obtain rfl := Option.some.inj htext
            exact absurd (hd.symm.trans hd') (by simp)
        | some d =>
            cases hoffset : d.offset with
            | none =>
                refine Or.inl ⟨by simp [hoffset], fun text' d' htext hd' => ?_⟩
                obtain rfl := Option.some.inj htext
                obtain rfl := Option.some.inj (hd.symm.trans hd')
                exact hoffset
            | some o =>
                cases hutc : d.astimezoneUtc with
                | some utc =>
                    exact Or.inr (Or.inl ⟨text, d, utc, rfl, hd, by simp [hoffset], hutc,
                      by simp [hoffset, hutc]⟩)
                | none =>
                    exact Or.inr (Or.inr ⟨text, d, rfl, hd, by simp [hoffset], hutc,
                      by simp [hoffset, hutc]⟩)

/-! ### Decoding -/

/-- The fields that `validate_decoded` reports. -/
def reported (field : String → Option String) (createdAt : Option PyDatetime) : List String :=
  report "task_id" (nonEmpty (field "task_id")) ++
    report "workflow_id" (nonEmpty (field "workflow_id")) ++
    report "payload_reference" (nonEmpty (field "payload_reference")) ++
    report "task_type" (parseTaskType (field "task_type")) ++
    report "attempt" (parseAttempt (field "attempt")) ++ report "created_at" createdAt

/-- Without an overflow, a message is made or fields are reported. -/
theorem validateDecoded_cases {field : String → Option String} {createdAt : Option PyDatetime}
    (h : parsedCreatedAt (field "created_at") = .ok createdAt) :
    (∃ m, validateDecoded field = .ok m) ∨
      validateDecoded field = .error (error (reported field createdAt)) := by
  rw [validateDecoded, h]
  simp only [bind, Except.bind]
  split
  · exact Or.inl ⟨_, rfl⟩
  · exact Or.inr rfl

theorem fieldText_id {name : String} (h : name ∈ ["task_id", "workflow_id", "payload_reference"])
    (text : String) : FieldText name text ↔ PyStr.strip text ≠ "" := by
  simp only [List.mem_cons, List.not_mem_nil, or_false] at h
  rcases h with rfl | rfl | rfl <;> exact Iff.rfl

/-- Every required field is reported when it is not well formed. -/
theorem mem_reported {F : FieldMap} {createdAt : Option PyDatetime}
    (h : parsedCreatedAt (textOf F "created_at") = .ok createdAt) {name : String} :
    name ∈ reported (textOf F) createdAt ↔ name ∈ requiredFields ∧ ¬ WellFormed F name := by
  have hid : ∀ name ∈ ["task_id", "workflow_id", "payload_reference"],
      (nonEmpty (textOf F name) = none ↔ ¬ WellFormed F name) := by
    intro name hname
    rw [← Option.not_isSome_iff_eq_none, nonEmpty_isSome, not_iff_not]
    exact exists_congr fun text => and_congr_right fun _ => (fieldText_id hname text).symm
  have htype : parseTaskType (textOf F "task_type") = none ↔ ¬ WellFormed F "task_type" := by
    rw [← Option.not_isSome_iff_eq_none, parseTaskType_isSome, not_iff_not]
    exact Iff.rfl
  have hattempt : parseAttempt (textOf F "attempt") = none ↔ ¬ WellFormed F "attempt" := by
    rw [← Option.not_isSome_iff_eq_none, parseAttempt_isSome, not_iff_not]
    exact Iff.rfl
  have hat : createdAt = none ↔ ¬ WellFormed F "created_at" := by
    rcases parsedCreatedAt_cases (textOf F "created_at") with
      ⟨hnone, hoffset⟩ | ⟨text, d, utc, htext, hd, ho, hutc, hsome⟩ | ⟨_, _, _, _, _, _, herror⟩
    · obtain rfl := Except.ok.inj (hnone.symm.trans h)
      refine ⟨fun _ hw => ?_, fun _ => rfl⟩
      obtain ⟨text, htext, d, utc, hd, ho, -⟩ := hw
      rw [hoffset text d htext hd] at ho
      exact absurd ho (by simp)
    · obtain rfl := Except.ok.inj (hsome.symm.trans h)
      exact ⟨fun hnone => absurd hnone (by simp),
        fun hw => absurd ⟨text, htext, d, utc, hd, ho, hutc⟩ hw⟩
    · exact absurd (herror.symm.trans h) (by simp)
  simp only [reported, List.mem_append, mem_report]
  constructor
  · rintro (((((⟨rfl, hn⟩ | ⟨rfl, hn⟩) | ⟨rfl, hn⟩) | ⟨rfl, hn⟩) | ⟨rfl, hn⟩) | ⟨rfl, hn⟩)
    · exact ⟨by decide, (hid _ (by decide)).mp hn⟩
    · exact ⟨by decide, (hid _ (by decide)).mp hn⟩
    · exact ⟨by decide, (hid _ (by decide)).mp hn⟩
    · exact ⟨by decide, htype.mp hn⟩
    · exact ⟨by decide, hattempt.mp hn⟩
    · exact ⟨by decide, hat.mp hn⟩
  · rintro ⟨hreq, hw⟩
    simp only [requiredFields, List.mem_cons, List.not_mem_nil, or_false] at hreq
    rcases hreq with rfl | rfl | rfl | rfl | rfl | rfl
    · exact Or.inl (Or.inl (Or.inl (Or.inl (Or.inl ⟨rfl, (hid _ (by decide)).mpr hw⟩))))
    · exact Or.inl (Or.inl (Or.inl (Or.inl (Or.inr ⟨rfl, (hid _ (by decide)).mpr hw⟩))))
    · exact Or.inl (Or.inl (Or.inr ⟨rfl, htype.mpr hw⟩))
    · exact Or.inl (Or.inr ⟨rfl, hattempt.mpr hw⟩)
    · exact Or.inr ⟨rfl, hat.mpr hw⟩
    · exact Or.inl (Or.inl (Or.inl (Or.inr ⟨rfl, (hid _ (by decide)).mpr hw⟩)))

/-- A foreseen entry is decoded, or its ill-formed fields are reported. -/
theorem decode_of_foreseen {F : FieldMap} (h : Foreseen F) :
    (∃ m, decode F = .ok m ∧ Accepted m) ∨
      ∃ missing, decode F = .error (error missing) ∧
        ∀ name, name ∈ missing ↔ name ∈ requiredFields ∧ ¬ WellFormed F name := by
  obtain ⟨normalized, hn, hlookup⟩ := normalizeFields_of_textual h.1
  obtain ⟨createdAt, hat⟩ : ∃ createdAt, parsedCreatedAt (textOf F "created_at") = .ok createdAt := by
    rcases parsedCreatedAt_cases (textOf F "created_at") with
      ⟨hnone, -⟩ | ⟨_, _, utc, -, -, -, -, hsome⟩ | ⟨text, d, htext, hd, ho, hutc, -⟩
    · exact ⟨none, hnone⟩
    · exact ⟨some utc, hsome⟩
    · exact absurd ⟨text, d, htext, hd, ho, hutc⟩ h.2
  have hdecode : decode F = (validateDecoded (textOf F)).bind fun message =>
      .ok { message with traceCarrier := traceFields (textOf F) } := by
    rw [decode, hn]
    simp only [bind, Except.bind, hlookup]
  rcases validateDecoded_cases hat with ⟨m, hm⟩ | herror
  · refine Or.inl ⟨_, by rw [hdecode, hm]; rfl, ?_⟩
    have ha := accepted_of_validateDecoded hm
    exact ⟨ha.taskId, ha.workflowId, ha.payloadReference, ha.attempt, ha.createdAt⟩
  · exact Or.inr ⟨_, by rw [hdecode, herror]; rfl, fun name => mem_reported hat⟩

/-- Any other entry ends `decode` with an exception that no handler expects. -/
theorem decode_of_not_foreseen {F : FieldMap} (h : ¬ Foreseen F) :
    decode F = .error .unicodeDecode ∨ decode F = .error .overflow := by
  by_cases htext : Textual F
  · have hbeyond : BeyondCalendar F := by
      by_contra hnot
      exact h ⟨htext, hnot⟩
    obtain ⟨text, d, htext', hd, ho, hutc⟩ := hbeyond
    obtain ⟨normalized, hn, hlookup⟩ := normalizeFields_of_textual htext
    have hat : parsedCreatedAt (normalized.lookup "created_at") = .error .overflow := by
      rw [hlookup, htext']
      rcases parsedCreatedAt_cases (some text) with
        ⟨-, hoffset⟩ | ⟨_, d', utc, heq, hd', -, hutc', -⟩ | ⟨_, _, _, _, _, _, herror⟩
      · rw [hoffset text d rfl hd] at ho
        exact absurd ho (by simp)
      · obtain rfl := Option.some.inj heq
        obtain rfl := Option.some.inj (hd.symm.trans hd')
        exact absurd (hutc.symm.trans hutc') (by simp)
      · exact herror
    refine Or.inr ?_
    rw [decode, hn]
    simp only [bind, Except.bind, validateDecoded, hat]
  · refine Or.inl ?_
    rw [decode, normalizeFields_of_not_textual htext]
    rfl

/-! ### Dequeuing

A message that cannot be decoded is acknowledged and reported, if the exception is one of those
that are caught.
-/

/-- What is obtained is pending, within the position of the group. -/
theorem obtain_le {q : RedisTaskQueue} {env : Outages} {stream group consumer : String}
    {s : RedisStream} {entry : StreamId × FieldMap}
    (h : (q.obtain env stream group consumer s).2 = .ok (some entry)) :
    entry.1 ≤ (q.obtain env stream group consumer s).1.lastDelivered := by
  rw [RedisTaskQueue.obtain] at h ⊢
  split at h
  · exact absurd h (by simp)
  · exact absurd h (by simp)
  · exact absurd h (by simp)
  · cases hread : env.read with
    | some outage => simp [perform, hread] at h
    | none =>
        simp only [perform, hread] at h ⊢
        cases hr : (s.read consumer).2 with
        | some e =>
            simp only [hr] at h ⊢
            obtain rfl := Option.some.inj (Except.ok.inj h)
            exact ConsumerGroup.read_le hr
        | none =>
            simp only [hr, RedisTaskQueue.claimPendingDelivery] at h ⊢
            cases hclaim : env.claim with
            | some outage => simp [perform, hclaim] at h
            | none =>
                simp only [perform, hclaim] at h ⊢
                exact ConsumerGroup.claim_le (Except.ok.inj h)

theorem dequeue_of_obtain {q : RedisTaskQueue} {env : Outages} {now : Time}
    {stream group consumer : String} {s : RedisStream} {entry : StreamId × FieldMap}
    (h : (q.obtain env stream group consumer s).2 = .ok (some entry)) :
    q.dequeue env now stream group consumer s = RedisTaskQueue.deliver env now stream group entry
      (q.obtain env stream group consumer s).1 := by
  rw [RedisTaskQueue.dequeue]
  generalize q.obtain env stream group consumer s = r at h ⊢
  obtain ⟨s', reply⟩ := r
  simp only at h
  subst h
  rfl

/-- A reported entry is acknowledged. -/
theorem deliver_invalid {env : Outages} {now : Time} {stream group : String}
    {entry : StreamId × FieldMap} {s : RedisStream} {missing : List String}
    (h : decode entry.2 = .error (error missing)) (hack : env.ack = none) :
    RedisTaskQueue.deliver env now stream group entry s = ((s.ack entry.1).1,
      .error (.invalidTaskMessage
        (invalidMessageMessage stream (StreamId.text entry.1) missing) missing)) := by
  rw [RedisTaskQueue.deliver, h]
  simp only [error, hack, perform]

theorem dequeuedCleanly {F : FieldMap} (h : Foreseen F) : DequeuedCleanly F := by
  intro q env now stream group consumer s id hack hobtain
  rw [dequeue_of_obtain hobtain]
  rcases decode_of_foreseen h with ⟨m, hm, -⟩ | ⟨missing, herror, -⟩
  · refine Or.inl ⟨⟨m, stream, group, id, now⟩, ?_, rfl, hm⟩
    rw [RedisTaskQueue.deliver, hm]
  · rw [deliver_invalid herror hack]
    exact Or.inr ⟨_, missing, rfl, (ConsumerGroup.settled_ack (obtain_le hobtain)).1⟩

/-! ### Runs -/

section

variable {q : RedisTaskQueue} {s : RedisStream} {id : StreamId}

theorem settled_perform {α : Type} {outage : Option (RedisFault × Bool)}
    {operation : RedisStream → RedisStream × α} (h : s.Settled id)
    (hop : (operation s).1.Settled id) : (perform outage operation s).1.Settled id := by
  rw [perform.eq_def]
  split
  · exact hop
  · split
    · exact hop
    · exact h

/-- A settled id stays settled while an entry is obtained, and it is another entry. -/
theorem settled_obtain (env : Outages) (stream group consumer : String) (h : s.Settled id) :
    (q.obtain env stream group consumer s).1.Settled id ∧
      ∀ entry, (q.obtain env stream group consumer s).2 = .ok (some entry) → entry.1 ≠ id := by
  rw [RedisTaskQueue.obtain]
  split
  · exact ⟨h, fun entry he => absurd he (by simp)⟩
  · exact ⟨h, fun entry he => absurd he (by simp)⟩
  · exact ⟨h, fun entry he => absurd he (by simp)⟩
  · have hread := h.read consumer
    cases henv : env.read with
    | some outage =>
        simp only [perform]
        refine ⟨?_, fun entry he => absurd he (by simp)⟩
        split
        · exact hread
        · exact h
    | none =>
        simp only [perform]
        cases hr : (s.read consumer).2 with
        | some e =>
            refine ⟨hread, fun entry he => ?_⟩
            obtain rfl := Option.some.inj (Except.ok.inj he)
            exact h.read_ne hr
        | none =>
            have hclaim := hread.claim consumer RedisTaskQueue.claimStart
            simp only [RedisTaskQueue.claimPendingDelivery]
            cases hcenv : env.claim with
            | some outage =>
                simp only [perform]
                refine ⟨?_, fun entry he => absurd he (by simp)⟩
                split
                · exact hclaim
                · exact hread
            | none =>
                simp only [perform]
                exact ⟨hclaim, fun entry he => hread.claim_ne (Except.ok.inj he)⟩

theorem settled_deliver {env : Outages} {now : Time} {stream group : String}
    {entry : StreamId × FieldMap} (h : s.Settled id) :
    (RedisTaskQueue.deliver env now stream group entry s).1.Settled id := by
  rw [RedisTaskQueue.deliver]
  split
  · exact h
  · exact settled_perform h (h.ack entry.1)
  · exact h

/-- **Step lemma.** A settled id stays settled, and it is not given out. -/
theorem settled_step {a : QueueAction} (h : s.Settled id) :
    (a.step q s).Settled id ∧ ∀ F, a.obtained q s ≠ some (id, F) := by
  cases a with
  | add id' fields => exact ⟨h.add id' fields, fun F he => absurd he (by simp [QueueAction.obtained])⟩
  | ack outage delivery =>
      refine ⟨?_, fun F he => absurd he (by simp [QueueAction.obtained])⟩
      have hperform : (perform outage (fun s => s.ack delivery.deliveryId) s).1.Settled id :=
        settled_perform h (h.ack delivery.deliveryId)
      show (q.ack outage delivery s).1.Settled id
      rw [RedisTaskQueue.ack]
      generalize perform outage _ s = r at hperform ⊢
      obtain ⟨s', reply⟩ := r
      split
      · next heq => exact (Prod.mk.inj heq).1 ▸ hperform
      · next heq => exact (Prod.mk.inj heq).1 ▸ hperform
      · next heq => exact (Prod.mk.inj heq).1 ▸ hperform
  | dequeue env now stream group consumer =>
      obtain ⟨hs, hne⟩ := settled_obtain (q := q) env stream group consumer h
      refine ⟨?_, fun F he => ?_⟩
      · show (q.dequeue env now stream group consumer s).1.Settled id
        rw [RedisTaskQueue.dequeue]
        generalize q.obtain env stream group consumer s = r at hs ⊢
        obtain ⟨s', reply⟩ := r
        split
        · next heq => exact (Prod.mk.inj heq).1 ▸ hs
        · next heq => exact (Prod.mk.inj heq).1 ▸ hs
        · next heq => exact settled_deliver ((Prod.mk.inj heq).1 ▸ hs)
      · rw [QueueAction.obtained] at he
        split at he
        · next entry hentry =>
          subst he
          exact hne _ hentry rfl
        · exact absurd he (by simp)

/-- A malformed entry is settled by the `dequeue` that obtains it. -/
theorem settled_of_obtained {F : FieldMap} {a : QueueAction} {missing : List String}
    (herror : decode F = .error (error missing)) (hack : a.AckSucceeds)
    (h : a.obtained q s = some (id, F)) : (a.step q s).Settled id := by
  cases a with
  | add id' fields => exact absurd h (by simp [QueueAction.obtained])
  | ack outage delivery => exact absurd h (by simp [QueueAction.obtained])
  | dequeue env now stream group consumer =>
      rw [QueueAction.obtained] at h
      split at h
      · next entry hentry =>
        subst h
        show (q.dequeue env now stream group consumer s).1.Settled id
        rw [dequeue_of_obtain hentry, deliver_invalid herror hack]
        exact ConsumerGroup.settled_ack (obtain_le hentry)
      · exact absurd h (by simp)

/-- A settled entry is not given out any more. -/
theorem deliveries_of_settled {F : FieldMap} {as : List QueueAction} (h : s.Settled id) :
    deliveries q (id, F) s as = 0 := by
  induction as generalizing s with
  | nil => rfl
  | cons a as ih =>
      obtain ⟨hs, hne⟩ := settled_step (q := q) (a := a) h
      rw [deliveries, if_neg (hne F), ih hs]

/-- **Run lemma.** A malformed entry is given out once at most. -/
theorem deliveries_le_one {F : FieldMap} {as : List QueueAction} {missing : List String}
    (herror : decode F = .error (error missing)) (hack : ∀ a ∈ as, a.AckSucceeds) :
    deliveries q (id, F) s as ≤ 1 := by
  induction as generalizing s with
  | nil => exact Nat.zero_le 1
  | cons a as ih =>
      have hrest : ∀ b ∈ as, b.AckSucceeds := fun b hb => hack b (List.mem_cons_of_mem _ hb)
      rw [deliveries]
      by_cases hobtained : a.obtained q s = some (id, F)
      · have hsettled := settled_of_obtained herror (hack a (List.mem_cons_self ..)) hobtained
        rw [if_pos hobtained, deliveries_of_settled hsettled]
      · rw [if_neg hobtained, Nat.zero_add]
        exact ih hrest

end

/-- **An entry is handled cleanly exactly when it is foreseen.** -/
theorem handledCleanly_iff (F : FieldMap) : HandledCleanly F ↔ Foreseen F := by
  constructor
  · rintro ⟨hdecode, -, -⟩
    by_contra hnot
    rw [DecodesCleanly] at hdecode
    rcases decode_of_not_foreseen hnot with h | h
    · rw [h] at hdecode
      exact hdecode
    · rw [h] at hdecode
      exact hdecode
  · intro h
    refine ⟨?_, dequeuedCleanly h, fun hmalformed q s as id hack => ?_⟩
    · rw [DecodesCleanly]
      rcases decode_of_foreseen h with ⟨m, hm, ha⟩ | ⟨missing, herror, hmissing⟩
      · rw [hm]
        exact validate_eq_ok_iff.mpr ha
      · rw [herror]
        exact hmissing
    · rcases decode_of_foreseen h with ⟨m, hm, -⟩ | ⟨missing, herror, -⟩
      · exact absurd hm (hmalformed m)
      · exact deliveries_le_one herror hack

/-! ### An entry at the end of the calendar -/

/-- Midnight of the first day, 14 hours ahead of UTC. -/
def dawnFields : FieldMap :=
  [(.str "task_id", .str "t"), (.str "workflow_id", .str "w"), (.str "task_type", .str "COLLECT"),
   (.str "attempt", .str "1"), (.str "created_at", .str "0001-01-01T00:00+14:00"),
   (.str "payload_reference", .str "ref")]

/-- A stream with one undelivered entry. -/
def streamOf (F : FieldMap) : RedisStream where
  entries := [(toLex (1, 0), F)]
  lastId := toLex (1, 0)
  lastDelivered := toLex (0, 0)
  pending := []
  entries_sorted := List.pairwise_singleton _ _
  entries_le := fun id hid => le_of_eq (List.mem_singleton.mp hid)
  pending_sorted := List.Pairwise.nil
  pending_le := fun id hid => absurd hid (by simp)

def dequeueOnce : QueueAction :=
  .dequeue {} 0 "cartoon:tasks:collect" "cartoon:workers:collect" "worker-1"

/-- The entry is not handled cleanly: every `dequeue` obtains it again. -/
theorem dawn_wedges : ¬ HandledCleanly dawnFields ∧
    decode dawnFields = .error .overflow ∧
    deliveries collectQueue (toLex (1, 0), dawnFields) (streamOf dawnFields)
      [dequeueOnce, dequeueOnce, dequeueOnce] = 3 := by
  have hdecode : decode dawnFields = .error .overflow := by decide +kernel
  refine ⟨fun h => ?_, hdecode, by decide +kernel⟩
  have hclean := h.1
  rw [DecodesCleanly, hdecode] at hclean
  exact hclean

end TaskQueue

end CartoonDemo
