import CartoonDemo.Collector.Limits

/-!
# CartoonDemo.Collector.Robustness

**Which items a collection run survives.** A run should end with a result, or with a `CollectorError`
of the feed or of the transport. Other exceptions come from the limits of what reads the items: the
normalisation (`normalize_isOk_iff`), `json.loads` and the bytes, `float` and large integers, the stack
of the interpreter; and from the logger, which refuses an identifier that is too long or nothing
but a secret. A run that gets its items survives exactly if none of these limits is reached
(`processItems_isOk_iff`).
-/

namespace CartoonDemo

namespace Collector

open PyStr

/-! ### The loops -/

section Loops

variable {loads : Bytes → Except LoadsError Json} {lib : Urllib} {render : Json → String} {host : Host}

/-- An item, or `null` where there is none. -/
def IsItem : Except LoadsError Json → Prop
  | .ok .null | .ok (.obj _) => True
  | _ => False

/-- The response is rejected or read, with its white space and without. -/
def HarmlessResponse (loads : Bytes → Except LoadsError Json) (result : ItemFetchResult) : Prop :=
  result.errorKind = .none → result.statusCode = some 200 →
    ∀ body ∈ result.body, stripBytes body ≠ [] →
      (∀ name, loads (stripBytes body) ≠ .error (.other name)) ∧
      (IsItem (loads (stripBytes body)) → IsItem (loads body))

/-- A story that is not deleted is harmless. -/
def HarmlessItem (lib : Urllib) (render : Json → String) (item : String × RawObservation) : Prop :=
  ofTypeStory item = true → isTrue (Json.get item.2 "deleted") = false →
    HarmlessObservation lib render item.2

/-- A deleted story is frozen at once. -/
def FreezesDeleted (host : Host) (item : String × RawObservation) : Prop :=
  ofTypeStory item = true → isTrue (Json.get item.2 "deleted") = true → host.freezes item.2

theorem deepFreezeMapping_isOk_iff {observation : RawObservation} :
    (deepFreezeMapping host observation).isOk ↔ host.freezes observation := by
  rw [deepFreezeMapping]
  cases host.freezes observation <;> exact Iff.rfl

/-- What `classify_item_failure` makes of a body that is not blank. -/
theorem classifyItemFailure_body (loads : Bytes → Except LoadsError Json) {result : ItemFetchResult}
    (hkind : result.errorKind = .none)
    (hstatus : result.statusCode = some 200) {body : Bytes} (hbody : result.body = some body)
    (hblank : stripBytes body ≠ []) :
    (∃ name, loads (stripBytes body) = .error (.other name) ∧
      classifyItemFailure loads result = .error (.py name)) ∨
    ((∀ name, loads (stripBytes body) ≠ .error (.other name)) ∧ ¬ IsItem (loads (stripBytes body)) ∧
      classifyItemFailure loads result = .ok .rejectJson) ∨
    ((∀ name, loads (stripBytes body) ≠ .error (.other name)) ∧ IsItem (loads (stripBytes body)) ∧
      classifyItemFailure loads result = .ok .ok) := by
  rw [classifyItemFailure, if_neg (not_not_intro hkind), if_neg (not_not_intro hstatus), hbody]
  simp only [if_neg hblank]
  rcases loads (stripBytes body) with (_ | name) | value
  · exact .inr (.inl ⟨fun _ => by simp, id, rfl⟩)
  · exact .inl ⟨name, rfl, rfl⟩
  · cases value with
    | null => exact .inr (.inr ⟨fun _ => by simp, trivial, rfl⟩)
    | obj entries => exact .inr (.inr ⟨fun _ => by simp, trivial, rfl⟩)
    | _ => exact .inr (.inl ⟨fun _ => by simp, id, rfl⟩)

theorem decodeItem_isOk_iff {body : Bytes} {sourceId : String} (hblank : stripBytes body ≠ []) :
    (decodeItem loads body sourceId).isOk ↔ IsItem (loads body) := by
  rw [decodeItem, if_neg hblank]
  rcases loads body with (_ | name) | value
  · exact iff_of_false Bool.false_ne_true id
  · exact iff_of_false Bool.false_ne_true id
  · cases value with
    | null => exact iff_of_true rfl trivial
    | obj entries => exact iff_of_true rfl trivial
    | _ => exact iff_of_false Bool.false_ne_true id

/-- A response that is classified `ok` is received if its item is decoded. -/
theorem receiveItem_ok_isOk_iff {K : Type} {now : PyDatetime} {context : CollectionRunContext K}
    {result : ItemFetchResult} (hok : classifyItemFailure loads result = .ok .ok) :
    (receiveItem loads now context result).isOk ↔
      (decodeItem loads (result.body.getD []) result.sourceId).isOk := by
  rw [receiveItem, hok]
  rcases decodeItem loads (result.body.getD []) result.sourceId with e | _ | observation <;> rfl

theorem decodeItem_blank {body : Bytes} {sourceId : String} (hblank : stripBytes body = []) :
    (decodeItem loads body sourceId).isOk := by
  rw [decodeItem, if_pos hblank]
  rfl

theorem receiveItem_isOk_iff {K : Type} {now : PyDatetime} {context : CollectionRunContext K}
    {result : ItemFetchResult} :
    (receiveItem loads now context result).isOk ↔ HarmlessResponse loads result := by
  by_cases hkind : result.errorKind = .none
  case neg =>
    rw [receiveItem, classifyItemFailure, if_pos hkind]
    exact iff_of_true rfl fun h => absurd h hkind
  case pos =>
  by_cases hstatus : result.statusCode = some 200
  case neg =>
    rw [receiveItem, classifyItemFailure, if_neg (not_not_intro hkind), if_pos hstatus]
    exact iff_of_true rfl fun _ h => absurd h hstatus
  case pos =>
  cases hbody : result.body with
  | none =>
      have hok : classifyItemFailure loads result = .ok .ok := by
        rw [classifyItemFailure, if_neg (not_not_intro hkind), if_neg (not_not_intro hstatus), hbody]
      rw [receiveItem_ok_isOk_iff hok, hbody]
      refine iff_of_true (decodeItem_blank rfl) fun _ _ body h => ?_
      rw [hbody] at h
      cases h
  | some body =>
      by_cases hblank : stripBytes body = []
      · have hok : classifyItemFailure loads result = .ok .ok := by
          rw [classifyItemFailure, if_neg (not_not_intro hkind), if_neg (not_not_intro hstatus), hbody]
          exact if_pos hblank
        rw [receiveItem_ok_isOk_iff hok, hbody]
        refine iff_of_true (decodeItem_blank hblank) fun _ _ body' h hne => absurd hblank ?_
        obtain rfl := Option.some.inj (hbody.symm.trans h)
        exact hne
      · have hharmless : HarmlessResponse loads result ↔
            (∀ name, loads (stripBytes body) ≠ .error (.other name)) ∧
              (IsItem (loads (stripBytes body)) → IsItem (loads body)) := by
          simp only [HarmlessResponse, hkind, hstatus, hbody, Option.mem_some_iff, forall_eq', hblank,
            ne_eq, not_false_eq_true, forall_const]
        rw [hharmless]
        rcases classifyItemFailure_body loads hkind hstatus hbody hblank with
          ⟨name, hloads, h⟩ | ⟨hno, hitem, h⟩ | ⟨hno, hitem, h⟩
        · rw [receiveItem, h]
          exact iff_of_false Bool.false_ne_true fun hall => hall.1 name hloads
        · rw [receiveItem, h]
          exact iff_of_true rfl ⟨hno, fun hread => absurd hread hitem⟩
        · rw [receiveItem_ok_isOk_iff h, hbody, Option.getD_some, decodeItem_isOk_iff hblank]
          exact ⟨fun hread => ⟨hno, fun _ => hread⟩, fun hall => hall.2 hitem⟩

theorem considerItem_isOk_iff {K : Type} {now : PyDatetime} {context : CollectionRunContext K}
    {item : String × RawObservation} :
    (considerItem lib render host now context item).isOk ↔
      HarmlessItem lib render item ∧ FreezesDeleted host item := by
  rw [considerItem]
  cases hparse : parseItem item.2 with
  | skip =>
      have htype : ofTypeStory item = false := parseItem_skip_iff.mp hparse
      exact iff_of_true rfl ⟨fun h => absurd (htype.symm.trans h) Bool.false_ne_true,
        fun h => absurd (htype.symm.trans h) Bool.false_ne_true⟩
  | rejectDeleted =>
      obtain ⟨htype, hdeleted⟩ := parseItem_rejectDeleted hparse
      have hharmless : HarmlessItem lib render item :=
        fun _ h => absurd (h.symm.trans hdeleted) Bool.false_ne_true
      have hfreezes : FreezesDeleted host item ↔ host.freezes item.2 :=
        ⟨fun h => h htype hdeleted, fun h _ _ => h⟩
      rw [and_iff_right hharmless, hfreezes, ← deepFreezeMapping_isOk_iff]
      cases deepFreezeMapping host item.2 <;> rfl
  | story =>
      obtain ⟨htype, hdeleted⟩ := parseItem_story hparse
      have hharmless : HarmlessItem lib render item ↔ HarmlessObservation lib render item.2 :=
        ⟨fun h => h htype hdeleted, fun h _ _ => h⟩
      have hfreezes : FreezesDeleted host item :=
        fun _ h => absurd (hdeleted.symm.trans h) Bool.false_ne_true
      rw [and_iff_left hfreezes, hharmless, ← normalize_isOk_iff (K := K) item.2 now]
      rcases normalize lib render item.2 now with e | draft | record <;> rfl

/-- The first loop returns if every response is harmless. -/
theorem receiveItems_isOk_iff {K : Type} (clock : Clock) {results : List ItemFetchResult} :
    (receiveItems (K := K) loads clock results).isOk ↔
      ∀ result ∈ results, HarmlessResponse loads result := by
  refine (foldlM_isOk_iff (Q := fun item : ItemFetchResult × ℕ => HarmlessResponse loads item.1)
    (fun context item => receiveItem_isOk_iff) _ _).trans ?_
  rw [← List.forall_mem_map (f := Prod.fst) (P := HarmlessResponse loads),
    List.zipIdx_map_fst]

/-- The second loop returns if every story is harmless and every deleted one is frozen. -/
theorem considerItems_isOk_iff {K : Type} (lib : Urllib) (render : Json → String) (host : Host)
    (clock : Clock) (context : CollectionRunContext K) :
    (considerItems lib render host clock context).isOk ↔
      ∀ item ∈ context.queued, HarmlessItem lib render item ∧ FreezesDeleted host item := by
  refine (foldlM_isOk_iff
    (Q := fun item : (String × RawObservation) × ℕ =>
      HarmlessItem lib render item.1 ∧ FreezesDeleted host item.1)
    (fun context item => considerItem_isOk_iff) _ _).trans ?_
  rw [← List.forall_mem_map (f := Prod.fst)
    (P := fun item => HarmlessItem lib render item ∧ FreezesDeleted host item), List.zipIdx_map_fst]

end Loops

/-! ### The log lines

The logger is asked for the first rejections only, and looks at their identifiers. -/

section Lines

variable {host : Host}

open Observability

/-- The logger reports warnings. -/
def Host.Warns (host : Host) : Prop := host.logger.logLevel.order ≤ LogLevel.warning.order

theorem telemetryRaised_isOk {α : Type} (x : Except TelemetryError α) :
    (telemetryRaised x).isOk = x.isOk := by
  cases x <;> rfl

theorem loggable_reasonCode (reasonCode : RejectionReason) :
    Loggable "reason_code" reasonCode.value := by
  cases reasonCode <;> decide +kernel

/-- A rejection is logged if its identifier may be. -/
theorem emitStoryRejected_isOk_iff {record : RejectedStoryRecord} :
    (emitStoryRejected host record).isOk ↔ (host.Warns → Loggable "source_id" record.sourceId) := by
  have hclass : classifyEvent "collection_story_rejected" = .general := by decide +kernel
  have hmessage : isEntirelySecret "story rejected during collection" none = false := by
    decide +kernel
  rw [emitStoryRejected, telemetryRaised_isOk, LoggerImpl.warning,
    LoggerImpl.emit_isOk_iff host.logger hclass (by simp [LoggerImpl.buildEnvelope])
      (by simp [LoggerImpl.buildEnvelope, forbiddenLogFields])
      (by simp [LoggerImpl.buildEnvelope, isScalar]) hmessage]
  have hpasses : passesLogLevelFilter (host.logger.buildEnvelope .warning "collection_story_rejected"
      "story rejected during collection" [("source_id", .str record.sourceId),
        ("reason_code", .str record.reasonCode.value)]) host.logger.logLevel ↔ host.Warns :=
    decide_eq_true_iff
  rw [hpasses]
  refine imp_congr_right fun _ => ⟨fun h => h _ _ List.mem_cons_self, fun h key value hmem => ?_⟩
  rcases List.mem_cons.mp hmem with heq | hmem
  · obtain ⟨rfl, hvalue⟩ := Prod.mk.inj heq
    rwa [Json.str.inj hvalue]
  · obtain ⟨rfl, hvalue⟩ := Prod.mk.inj (List.mem_singleton.mp hmem)
    rw [Json.str.inj hvalue]
    exact loggable_reasonCode _

/-- The line about the rejections that are not logged holds numbers. -/
theorem truncated_isOk (total logged : ℤ) :
    (telemetryRaised (host.logger.info "collection_rejections_truncated"
      "rejection log sampling truncated" [("total_rejected", .int total), ("logged", .int logged)])).isOk := by
  have hclass : classifyEvent "collection_rejections_truncated" = .general := by decide +kernel
  have hmessage : isEntirelySecret "rejection log sampling truncated" none = false := by
    decide +kernel
  rw [telemetryRaised_isOk, LoggerImpl.info,
    LoggerImpl.emit_isOk_iff host.logger hclass (by simp [LoggerImpl.buildEnvelope])
      (by simp [LoggerImpl.buildEnvelope, forbiddenLogFields])
      (by simp [LoggerImpl.buildEnvelope, isScalar]) hmessage]
  intro _ key value hmem
  simp [LoggerImpl.buildEnvelope] at hmem

theorem emitRejectionsSampled_isOk_iff {rejections : List RejectedStoryRecord} :
    (emitRejectionsSampled host rejections).isOk ↔
      (host.Warns → ∀ sourceId ∈ (rejections.map RejectedStoryRecord.sourceId).take
        rejectionLogSampleLimit, Loggable "source_id" sourceId) := by
  have hlogged : ((rejections.take rejectionLogSampleLimit).forM (emitStoryRejected host)).isOk ↔
      (host.Warns → ∀ sourceId ∈ (rejections.map RejectedStoryRecord.sourceId).take
        rejectionLogSampleLimit, Loggable "source_id" sourceId) := by
    rw [forM_isOk_iff, ← List.map_take, List.forall_mem_map]
    simp only [emitStoryRejected_isOk_iff]
    exact ⟨fun h hwarns record hmem => h record hmem hwarns,
      fun h record hmem hwarns => h hwarns record hmem⟩
  rw [← hlogged, emitRejectionsSampled]
  cases (rejections.take rejectionLogSampleLimit).forM (emitStoryRejected host) with
  | error e => rfl
  | ok u =>
      rw [except_ok_bind]
      split
      · exact iff_of_true (truncated_isOk _ _) rfl
      · exact iff_of_true rfl rfl

end Lines

/-! ### The run -/

section Run

variable {loads : Bytes → Except LoadsError Json} {lib : Urllib} {render : Json → String}
  {sorted : PySorted} {host : Host}

/-- The number, where there is one, converts to a double. -/
def FitsSignal (value : Option ℤ) : Prop := ∀ n ∈ value, PyFloat.Fits n

/-- The identifier under which an observation of type story is rejected. -/
def refusedId (lib : Urllib) (render : Json → String) (item : String × RawObservation) : Option String :=
  if isTrue (Json.get item.2 "deleted") then some item.1
  else match normalizeFields lib render item.2 with
    | .error (.rejected r) => some r.sourceId
    | _ => none

/-- The identifiers of what is rejected, in order: by the first loop, by the second, and as
duplicates. -/
def rejectedIds (loads : Bytes → Except LoadsError Json) (lib : Urllib) (render : Json → String)
    (results : List ItemFetchResult) : List String :=
  rejectedJson loads results ++ ((decoded loads results).filter ofTypeStory).filterMap (refusedId lib render) ++
    (dedupe [] ((acceptedItems loads lib render results).map fun a =>
      (a.2.draft noTime a.1.2 : StoryRecord PyFloat))).2.map RejectedStoryRecord.sourceId

/-- The items stay within the limits: the responses, the stories, the numbers of the stories that are
ranked, the depth of the observations, and the identifiers that are logged. -/
structure HarmlessItems (loads : Bytes → Except LoadsError Json) (lib : Urllib) (render : Json → String)
    (host : Host) (results : List ItemFetchResult) : Prop where
  responses : ∀ result ∈ results, HarmlessResponse loads result
  stories : ∀ item ∈ decoded loads results, HarmlessItem lib render item
  numbers : ∀ story ∈ firstDrafts loads lib render results,
    FitsSignal story.score ∧ FitsSignal story.commentCount
  frozen : ∀ item ∈ decoded loads results, ofTypeStory item = true → host.freezes item.2
  logged : host.Warns → ∀ sourceId ∈ (rejectedIds loads lib render results).take rejectionLogSampleLimit,
    Observability.Loggable "source_id" sourceId

/-- An observation is accepted if it is not deleted and has its fields. -/
theorem acceptedFields_some {item : String × RawObservation} {fields : StoryFields}
    (h : acceptedFields lib render item = some fields) :
    isTrue (Json.get item.2 "deleted") = false ∧ normalizeFields lib render item.2 = .ok fields := by
  rw [acceptedFields] at h
  split at h
  · cases h
  · next hdeleted =>
      refine ⟨Bool.eq_false_of_not_eq_true hdeleted, ?_⟩
      cases hfields : normalizeFields lib render item.2 with
      | error e =>
          rw [hfields] at h
          cases h
      | ok fields' =>
          rw [hfields] at h
          exact congrArg Except.ok (Option.some.inj h)

theorem fitsSignal_none : FitsSignal none := fun n hn => by cases hn

theorem signal_isSome_iff (sorted : PySorted) {value : Option ℤ} :
    (signal (floatArithmetic sorted) value).isSome ↔ FitsSignal value := by
  cases value with
  | none => exact iff_of_true rfl fitsSignal_none
  | some n =>
      simp only [FitsSignal, Option.mem_some_iff, forall_eq']
      exact PyFloat.ofInt_isSome_iff

theorem computeRankScore_isSome_iff (sorted : PySorted) (weights : ScoringWeights PyFloat)
    (reference : Option ℤ) {story : StoryRecord PyFloat} :
    (computeRankScore (floatArithmetic sorted) story weights reference).isSome ↔
      FitsSignal story.score ∧ FitsSignal story.commentCount := by
  rw [← signal_isSome_iff sorted, ← signal_isSome_iff sorted, computeRankScore]
  cases signal (floatArithmetic sorted) story.score with
  | none => exact iff_of_false Bool.false_ne_true fun h => absurd h.1 Bool.false_ne_true
  | some x =>
      cases signal (floatArithmetic sorted) story.commentCount with
      | none => exact iff_of_false Bool.false_ne_true fun h => absurd h.2 Bool.false_ne_true
      | some y => exact iff_of_true rfl ⟨rfl, rfl⟩

/-- The ranking raises an exception at a story whose numbers do not convert. -/
theorem scoreStories_isSome_iff (sorted : PySorted) (weights : ScoringWeights PyFloat)
    (reference : Option ℤ) {stories : List (StoryRecord PyFloat)} :
    (scoreStories (floatArithmetic sorted) stories weights reference).isSome ↔
      ∀ story ∈ stories, FitsSignal story.score ∧ FitsSignal story.commentCount := by
  induction stories with
  | nil => exact iff_of_true rfl fun story h => absurd h List.not_mem_nil
  | cons story stories ih =>
      rw [List.forall_mem_cons, ← ih,
        ← computeRankScore_isSome_iff sorted weights reference,
        scoreStories, scoreStories, List.mapM_cons]
      cases computeRankScore (floatArithmetic sorted) story weights reference with
      | none => exact iff_of_false Bool.false_ne_true fun h => absurd h.1 Bool.false_ne_true
      | some score =>
          cases stories.mapM fun story => do
              let rankScore ← computeRankScore (floatArithmetic sorted) story weights reference
              return ({ story with rankScore := some rankScore }, rankScore) with
          | none => exact iff_of_false Bool.false_ne_true fun h => absurd h.2 Bool.false_ne_true
          | some scored => exact iff_of_true rfl ⟨rfl, rfl⟩

theorem freezeAll_isOk_iff {observations : List RawObservation} :
    (freezeAll host observations).isOk ↔ ∀ observation ∈ observations, host.freezes observation := by
  rw [freezeAll, forM_isOk_iff]
  exact forall₂_congr fun observation _ => deepFreezeMapping_isOk_iff

/-- A result can be built if what it consists of is frozen; the candidates are among the stories. -/
theorem buildResult_isOk_iff {clock : Clock} {fetchedCount duplicateCount : ℕ}
    {stories candidates : List (StoryRecord PyFloat)} {rejected : List RejectedStoryRecord}
    (hcandidates : ∀ story ∈ candidates, story ∈ stories) :
    (buildResult host clock fetchedCount duplicateCount stories candidates rejected).isOk ↔
      (∀ story ∈ stories, host.freezes story.rawObservation) ∧
        ∀ record ∈ rejected, host.freezes record.rawObservation := by
  have hstories := @freezeAll_isOk_iff host (stories.map StoryRecord.rawObservation)
  have hamong := @freezeAll_isOk_iff host (candidates.map StoryRecord.rawObservation)
  have hrejected := @freezeAll_isOk_iff host (rejected.map RejectedStoryRecord.rawObservation)
  rw [List.forall_mem_map] at hstories hamong hrejected
  rw [← hstories, ← hrejected, buildResult]
  cases hfrozen : freezeAll host (stories.map StoryRecord.rawObservation) with
  | error e => exact iff_of_false Bool.false_ne_true fun h => Bool.false_ne_true h.1
  | ok u =>
      rw [hfrozen] at hstories
      obtain ⟨_, hok⟩ := except_isOk_iff.mp
        (hamong.mpr fun story hmem => hstories.mp rfl story (hcandidates story hmem))
      rw [except_ok_bind, hok, except_ok_bind]
      cases freezeAll host (rejected.map RejectedStoryRecord.rawObservation) with
      | error e => exact iff_of_false Bool.false_ne_true fun h => Bool.false_ne_true h.2
      | ok u => exact iff_of_true rfl ⟨rfl, rfl⟩

/-- The deduplication keeps an observation in a draft or in a record. -/
theorem forall_dedupe_iff {P : RawObservation → Prop} {seen : List String}
    {drafts : List (StoryRecord PyFloat)} :
    ((∀ draft ∈ (dedupe seen drafts).1, P draft.rawObservation) ∧
        ∀ record ∈ (dedupe seen drafts).2, P record.rawObservation) ↔
      ∀ draft ∈ drafts, P draft.rawObservation := by
  induction drafts generalizing seen with
  | nil => simp [dedupe]
  | cons draft drafts ih =>
      by_cases hseen : draft.sourceId ∈ seen
      · have hduplicate : (duplicateRecord draft).rawObservation = draft.rawObservation := rfl
        rw [dedupe_of_mem hseen, List.forall_mem_cons, List.forall_mem_cons, hduplicate, ← @ih seen]
        exact and_left_comm
      · rw [dedupe_of_not_mem hseen, List.forall_mem_cons, List.forall_mem_cons,
          ← @ih (draft.sourceId :: seen)]
        exact and_assoc

/-- **Where the end of a run returns.** -/
theorem finishRun_isOk_iff {clock : Clock} {config : CollectionConfig PyFloat}
    {context : CollectionRunContext PyFloat} :
    (finishRun (floatArithmetic sorted) host clock config context).isOk ↔
      (∀ story ∈ (dedupe [] context.acceptedDrafts).1,
        FitsSignal story.score ∧ FitsSignal story.commentCount) ∧
      (host.Warns → ∀ sourceId ∈
        ((context.rejectedRecords ++ (dedupe [] context.acceptedDrafts).2).map
          RejectedStoryRecord.sourceId).take rejectionLogSampleLimit,
        Observability.Loggable "source_id" sourceId) ∧
      (∀ draft ∈ context.acceptedDrafts, host.freezes draft.rawObservation) ∧
        ∀ record ∈ context.rejectedRecords, host.freezes record.rawObservation := by
  rw [finishRun, ← scoreStories_isSome_iff sorted
    (resolveWeights (floatArithmetic sorted) config.scoring)
    (referencePublishedAt (dedupe [] context.acceptedDrafts).1)]
  simp only [rank]
  cases hscored : scoreStories (floatArithmetic sorted) (dedupe [] context.acceptedDrafts).1 _ _ with
  | none => exact iff_of_false Bool.false_ne_true fun h => Bool.false_ne_true h.1
  | some scored =>
      -- what is ranked are the observations that the deduplication has kept
      have hranked : (∀ story ∈ (sorted.sort scored).map Prod.fst, host.freezes story.rawObservation) ↔
          ∀ draft ∈ (dedupe [] context.acceptedDrafts).1, host.freezes draft.rawObservation := by
        have hkept := map_scored (f := StoryRecord.rawObservation) (fun _ _ => rfl) hscored
        rw [← List.forall_mem_map (f := StoryRecord.rawObservation)
            (P := fun observation => host.freezes observation = true),
          ← List.forall_mem_map (f := StoryRecord.rawObservation)
            (P := fun observation => host.freezes observation = true), hkept]
        exact forall_congr' fun observation => imp_congr_left
          (((sorted.perm scored).map Prod.fst).map StoryRecord.rawObservation).mem_iff
      have hbuilt := @buildResult_isOk_iff host clock context.fetchedCount
        (dedupe [] context.acceptedDrafts).2.length ((sorted.sort scored).map Prod.fst)
        (upTo config.candidateCount ((sorted.sort scored).map Prod.fst))
        (context.rejectedRecords ++ (dedupe [] context.acceptedDrafts).2)
        fun story hmem => List.mem_of_mem_take hmem
      rw [hranked, List.forall_mem_append, and_left_comm,
        @forall_dedupe_iff fun observation => host.freezes observation = true] at hbuilt
      rw [and_iff_right Option.isSome_some, ← emitRejectionsSampled_isOk_iff,
        and_comm (a := ∀ draft ∈ context.acceptedDrafts, _), ← hbuilt]
      show Except.isOk (emitRejectionsSampled host _ >>= fun _ => _) ↔ _
      cases emitRejectionsSampled host
        (context.rejectedRecords ++ (dedupe [] context.acceptedDrafts).2) with
      | error e => exact iff_of_false Bool.false_ne_true fun h => Bool.false_ne_true h.1
      | ok u => exact (and_iff_right rfl).symm

/-- Every observation of type story ends up in a draft or in a record, the others in none. -/
theorem forall_considered_iff {P : RawObservation → Prop} (hnil : P [])
    {results : List ItemFetchResult} {received context : CollectionRunContext PyFloat}
    (hreceived : Received loads results received)
    (hconsidered : ConsideredAll lib render received.rejectedRecords received.queued context) :
    ((∀ draft ∈ context.acceptedDrafts, P draft.rawObservation) ∧
        ∀ record ∈ context.rejectedRecords, P record.rawObservation) ↔
      ∀ item ∈ decoded loads results, ofTypeStory item = true → P item.2 := by
  obtain ⟨outcomes, hitems, hdrafts, hrecords⟩ := hconsidered.outcomes
  rw [hreceived.queued] at hitems
  rw [hdrafts, hrecords]
  constructor
  · rintro ⟨hkept, hrejected⟩ item hmem htype
    obtain ⟨outcome, houtcome, hitem⟩ := exists_of_mem_left hitems (List.mem_filter.mpr ⟨hmem, htype⟩)
    cases hitem with
    | deleted now hdeleted =>
        exact hrejected _ (List.mem_append_right _ (mem_rejected_iff.mpr houtcome))
    | refused now r hdeleted hr =>
        exact hrejected _ (List.mem_append_right _ (mem_rejected_iff.mpr houtcome))
    | accepted now fields hfields => exact hkept _ (mem_kept_iff.mpr houtcome)
  · intro h
    have hstory : ∀ item ∈ (decoded loads results).filter ofTypeStory, P item.2 :=
      fun item hmem => h item (List.mem_filter.mp hmem).1 (List.mem_filter.mp hmem).2
    refine ⟨fun draft hmem => ?_, fun record hmem => ?_⟩
    · obtain ⟨item, hitem, houtcome⟩ := exists_of_mem_right hitems (mem_kept_iff.mp hmem)
      cases houtcome with
      | accepted now fields hfields => exact hstory item hitem
    · rcases List.mem_append.mp hmem with hmem | hmem
      · obtain ⟨sourceId, -, now, rfl⟩ := exists_of_mem_right hreceived.records hmem
        exact hnil
      · obtain ⟨item, hitem, houtcome⟩ := exists_of_mem_right hitems (mem_rejected_iff.mp hmem)
        cases houtcome with
        | deleted now hdeleted => exact hstory item hitem
        | refused now r hdeleted hr => exact hstory item hitem

/-- The second loop rejects the deleted and the refused observations. -/
theorem sourceIds_considered {items : List (String × RawObservation)}
    {outcomes : List (StoryRecord PyFloat ⊕ RejectedStoryRecord)}
    (h : List.Forall₂ (Considered lib render) items outcomes) :
    (rejected outcomes).map RejectedStoryRecord.sourceId = items.filterMap (refusedId lib render) := by
  induction h with
  | nil => rfl
  | cons hitem _ ih =>
      cases hitem with
      | deleted now hdeleted =>
          rw [List.filterMap_cons_some (by rw [refusedId, if_pos hdeleted]), rejected_inr,
            List.map_cons, ih]
          rfl
      | refused now r hdeleted hr =>
          rw [List.filterMap_cons_some (by rw [refusedId, hdeleted, hr]; rfl), rejected_inr,
            List.map_cons, ih]
          rfl
      | accepted now fields hfields =>
          obtain ⟨hdeleted, hok⟩ := acceptedFields_some hfields
          rw [List.filterMap_cons_none (by rw [refusedId, hdeleted, hok]; rfl), rejected_inl, ih]

/-- The identifiers of the records are those of the rejections. -/
theorem rejectedIds_eq {results : List ItemFetchResult}
    {received context : CollectionRunContext PyFloat} (hreceived : Received loads results received)
    (hconsidered : ConsideredAll lib render received.rejectedRecords received.queued context) :
    rejectedIds loads lib render results =
      (context.rejectedRecords ++ (dedupe [] context.acceptedDrafts).2).map
        RejectedStoryRecord.sourceId := by
  have htimeless := acceptedItems_timeless hreceived hconsidered
  obtain ⟨outcomes, hitems, hdrafts, hrecords⟩ := hconsidered.outcomes
  rw [hreceived.queued] at hitems
  have hjson : received.rejectedRecords.map RejectedStoryRecord.sourceId =
      rejectedJson loads results := by
    rw [← List.forall₂_eq_eq_eq, List.forall₂_map_left_iff]
    refine hreceived.records.flip.imp fun record sourceId hrecord => ?_
    obtain ⟨now, rfl⟩ := hrecord
    rfl
  have hduplicates : ((dedupe [] (context.acceptedDrafts.map StoryRecord.timeless)).2.map
      RejectedStoryRecord.sourceId) =
        (dedupe [] context.acceptedDrafts).2.map RejectedStoryRecord.sourceId := by
    rw [dedupe_timeless, List.map_map]
    rfl
  rw [rejectedIds, htimeless, hduplicates, ← sourceIds_considered hitems, ← hjson, hrecords,
    List.map_append, List.map_append]

/-- **Where a run with its items returns.** -/
theorem processItems_isOk_iff (sorted : PySorted) (clock : Clock) (config : CollectionConfig PyFloat)
    {results : List ItemFetchResult} :
    (processItems loads lib render (floatArithmetic sorted) host clock config results).isOk ↔
      HarmlessItems loads lib render host results := by
  rw [processItems]
  cases hreceive : receiveItems (K := PyFloat) loads clock results with
  | error e =>
      refine iff_of_false Bool.false_ne_true fun h => ?_
      have hisOk := (receiveItems_isOk_iff (K := PyFloat) clock).mpr h.responses
      rw [hreceive] at hisOk
      exact Bool.false_ne_true hisOk
  | ok received =>
      have hresponses : ∀ result ∈ results, HarmlessResponse loads result :=
        (receiveItems_isOk_iff (K := PyFloat) clock).mp (by rw [hreceive]; rfl)
      have hreceived := receiveItems_spec hreceive
      have hstories := considerItems_isOk_iff lib render host clock received
      rw [hreceived.queued] at hstories
      rw [except_ok_bind]
      cases hconsider : considerItems lib render host clock received with
      | error e =>
          rw [hconsider] at hstories
          exact iff_of_false Bool.false_ne_true fun h =>
            Bool.false_ne_true (hstories.mpr fun item hmem =>
              ⟨h.stories item hmem, fun htype _ => h.frozen item hmem htype⟩)
      | ok context =>
          have hconsidered := considerItems_spec hreceived.drafts hconsider
          rw [hconsider] at hstories
          have hnumbers : (∀ story ∈ firstDrafts loads lib render results,
                FitsSignal story.score ∧ FitsSignal story.commentCount) ↔
              ∀ story ∈ (dedupe [] context.acceptedDrafts).1,
                FitsSignal story.score ∧ FitsSignal story.commentCount := by
            rw [firstDrafts_eq hreceived hconsidered, List.forall_mem_map]
            exact Iff.rfl
          rw [except_ok_bind, finishRun_isOk_iff, ← hnumbers, ← rejectedIds_eq hreceived hconsidered,
            @forall_considered_iff loads lib render (fun observation => host.freezes observation = true)
              host.freezes_nil results received context hreceived hconsidered]
          exact ⟨fun h => ⟨hresponses, fun item hmem => (hstories.mp rfl item hmem).1, h.1, h.2.2, h.2.1⟩,
            fun h => ⟨h.numbers, h.logged, h.frozen⟩⟩

end Run

/-! ### How a run ends

With a result, with an error of the collector, or with any other exception.
-/

section Ends

variable (loads : Bytes → Except LoadsError Json) (lib : Urllib) (render : Json → String) (host : Host)
  (feed : Except HttpException Response) (get : ℕ → StoryId → Except HttpException Response)
  (schedule : Schedule) (config : CollectionConfig PyFloat)

/-- The entries of the feed that a run fetches. -/
def fetchedIds (storyIds : List StoryId) : List StoryId :=
  upTo (computePoolSize config.candidateCount) storyIds

/-- The fetching fails with the transport of its first request. -/
def FatalTransportFailure (storyIds : List StoryId) (e : CollectorError) : Prop :=
  fetchAll get storyIds (schedule.order storyIds.length) = .error (.collector e) ∧
    ∃ exc, get 0 (storyIds.getD 0 (.int 0)) = .error exc ∧ exc.isFatalTransport = true ∧
      e = classifyFeedException exc

/-- The run ends as it should: with a result, or with a `CollectorError` of the feed or of the
transport. -/
def Survives (run : Except CollectException (CollectionResult PyFloat)) : Prop :=
  (∃ result, run = .ok result) ∨
    ∃ e, run = .error (.collector e) ∧
      (fetchFeed loads feed = .error (.collector e) ∨
        ∃ storyIds, fetchFeed loads feed = .ok storyIds ∧
          FatalTransportFailure get schedule (fetchedIds config storyIds) e)

/-- The feed is JSON or raises a `JSONDecodeError`, and the items stay within the limits. -/
structure HarmlessInputs : Prop where
  readable : ∀ response, feed = .ok response → response.statusCode = 200 →
    ∀ name, loads response.content ≠ .error (.other name)
  items : ∀ storyIds, fetchFeed loads feed = .ok storyIds → ∀ results,
    fetchAll get (fetchedIds config storyIds) (schedule.order (fetchedIds config storyIds).length) =
        .ok results →
      HarmlessItems loads lib render host results

variable {loads lib render host feed get schedule config}

theorem fetchFeed_error_py_iff (loads : Bytes → Except LoadsError Json)
    (feed : Except HttpException Response) :
    (∃ name, fetchFeed loads feed = .error (.py name)) ↔
      ∃ response, feed = .ok response ∧ response.statusCode = 200 ∧
        ∃ name, loads response.content = .error (.other name) := by
  cases feed with
  | error exc => exact iff_of_false (by simp [fetchFeed]) (by simp)
  | ok response =>
      simp only [Except.ok.injEq, exists_eq_left']
      by_cases hstatus : response.statusCode = 200
      case neg => exact iff_of_false (by simp [fetchFeed, hstatus]) fun h => hstatus h.1
      case pos =>
      rw [fetchFeed, if_neg (not_not_intro hstatus), decodeFeed]
      rcases loads response.content with (_ | name) | value
      · simp
      · exact iff_of_true ⟨name, rfl⟩ ⟨hstatus, name, rfl⟩
      · refine iff_of_false ?_ (by simp)
        rintro ⟨name, h⟩
        cases value with
        | arr items => cases hids : storyIdsOf items <;> simp [hids] at h
        | _ => simp at h

/-- The fetching raises an exception for the first request only, and only for its transport. -/
theorem fetchAll_error {storyIds : List StoryId} {e : CollectException}
    (h : fetchAll get storyIds (schedule.order storyIds.length) = .error e) :
    ∃ error, e = .collector error ∧ FatalTransportFailure get schedule storyIds error := by
  have hall := h
  rw [fetchAll] at h
  split at h
  · cases h
  · obtain ⟨index, -, htask⟩ := gather_error (except_map_error h)
    rw [fetchTask] at htask
    obtain rfl := fetchOne_error get htask
    rw [fetchOne] at htask
    split at htask
    · next exc hexc =>
        by_cases hfatal : exc.isFatalTransport = true ∧ 0 = 0
        · rw [if_pos hfatal] at htask
          obtain rfl := Except.error.inj htask
          exact ⟨_, rfl, hall, exc, hexc, hfatal.1, rfl⟩
        · rw [if_neg hfatal] at htask
          cases htask
    · cases htask

/-- **One bad item kills a run exactly at the limits.** A run ends as it should if the feed and the
items stay within the limits of the functions that read them, and a normalisation returns a draft or a
rejection if the observation does. -/
theorem collection_survives_iff (loads : Bytes → Except LoadsError Json) (lib : Urllib)
    (render : Json → String) (sorted : PySorted) (host : Host) (feed : Except HttpException Response)
    (get : ℕ → StoryId → Except HttpException Response) (schedule : Schedule) (clock : Clock)
    (config : CollectionConfig PyFloat) :
    (Survives loads feed get schedule config
        (collectStories loads lib render (floatArithmetic sorted) host
          (defaultHackerNewsClient loads feed get schedule) clock config) ↔
      HarmlessInputs loads lib render host feed get schedule config) ∧
    ∀ (observation : RawObservation) (collectedAt : PyDatetime),
      (∃ outcome, normalize (K := PyFloat) lib render observation collectedAt = .ok outcome) ↔
        HarmlessObservation lib render observation := by
  refine ⟨?_, fun observation collectedAt =>
    except_isOk_iff.symm.trans (normalize_isOk_iff observation collectedAt)⟩
  have hreadable := fetchFeed_error_py_iff loads feed
  rw [collectStories]
  show Survives loads feed get schedule config (fetchFeed loads feed >>= fun storyIds =>
    fetchAll get (fetchedIds config storyIds) (schedule.order (fetchedIds config storyIds).length) >>=
      processItems loads lib render (floatArithmetic sorted) host clock config) ↔ _
  cases hfeed : fetchFeed loads feed with
  | error e =>
      rw [except_error_bind]
      cases e with
      | collector e =>
          refine iff_of_true (.inr ⟨e, rfl, .inl hfeed⟩) ⟨fun response hresponse hstatus name hname => ?_,
            fun storyIds h => ?_⟩
          · obtain ⟨name', h⟩ := hreadable.mpr ⟨response, hresponse, hstatus, name, hname⟩
            rw [hfeed] at h
            cases h
          · rw [hfeed] at h
            cases h
      | py name =>
          refine iff_of_false ?_ fun h => ?_
          · rintro (⟨result, h⟩ | ⟨e, h, -⟩) <;> cases h
          · obtain ⟨response, hresponse, hstatus, name', hname⟩ := hreadable.mp ⟨name, hfeed⟩
            exact h.readable response hresponse hstatus name' hname
  | ok storyIds =>
      have hfeedReadable : ∀ response, feed = .ok response → response.statusCode = 200 →
          ∀ name, loads response.content ≠ .error (.other name) := by
        intro response hresponse hstatus name hname
        obtain ⟨name', h⟩ := hreadable.mpr ⟨response, hresponse, hstatus, name, hname⟩
        rw [hfeed] at h
        cases h
      rw [except_ok_bind]
      cases hitems : fetchAll get (fetchedIds config storyIds)
          (schedule.order (fetchedIds config storyIds).length) with
      | error e =>
          obtain ⟨e, rfl, hfatal⟩ := fetchAll_error hitems
          refine iff_of_true (.inr ⟨e, rfl, .inr ⟨storyIds, hfeed, hfatal⟩⟩)
            ⟨hfeedReadable, fun storyIds' h results hresults => ?_⟩
          obtain rfl := Except.ok.inj (hfeed.symm.trans h)
          rw [hitems] at hresults
          cases hresults
      | ok results =>
          rw [except_ok_bind]
          have hharmless : HarmlessInputs loads lib render host feed get schedule config ↔
              HarmlessItems loads lib render host results := by
            refine ⟨fun h => h.items storyIds hfeed results hitems, fun h =>
              ⟨hfeedReadable, fun storyIds' hfeed' results' hitems' => ?_⟩⟩
            obtain rfl := Except.ok.inj (hfeed.symm.trans hfeed')
            obtain rfl := Except.ok.inj (hitems.symm.trans hitems')
            exact h
          rw [hharmless, ← processItems_isOk_iff sorted clock config,
            except_isOk_iff]
          refine ⟨?_, .inl⟩
          rintro (hok | ⟨e, -, hfeedError | ⟨storyIds', hfeed', hfatal, -⟩⟩)
          · exact hok
          · rw [hfeed] at hfeedError
            cases hfeedError
          · obtain rfl := Except.ok.inj (hfeed.symm.trans hfeed')
            rw [hitems] at hfatal
            cases hfatal

end Ends

/-! ### A time in milliseconds -/

/-- A story whose time is in milliseconds. -/
def lateStory : RawObservation :=
  [("type", .str "story"), ("id", .int 1), ("title", .str "t"), ("time", .int 1700000000000)]

def feedBytes : Bytes := asciiBytes "[1]"

def lateBytes : Bytes :=
  asciiBytes "\x7b\"type\":\"story\",\"id\":1,\"title\":\"t\",\"time\":1700000000000\x7d"

/-- `json.loads` of the feed and of the story. -/
def lateLoads (body : Bytes) : Except LoadsError Json :=
  if body = feedBytes then .ok (.arr [.int 1])
  else if body = lateBytes then .ok (.obj lateStory)
  else .error .jsonDecodeError

def inOrder : Schedule where
  order := List.range
  perm _ := .refl _

def lateFeed : Except HttpException Response := .ok ⟨200, feedBytes⟩

def lateGet : ℕ → StoryId → Except HttpException Response := fun _ _ => .ok ⟨200, lateBytes⟩

/-- The run. -/
def lateRun : Except CollectException (CollectionResult PyFloat) :=
  collectStories lateLoads noUrllib renderInt (floatArithmetic .insertion) sampleHost
    (defaultHackerNewsClient lateLoads lateFeed lateGet inOrder) noClock sampleConfig

theorem lateRun_isOk : lateRun.isOk = false := by decide +kernel

/-- The run ends with the exception of the normalisation. -/
theorem lateRun_not_survives :
    ¬ Survives lateLoads lateFeed lateGet inOrder sampleConfig lateRun ∧
      ¬ ∃ outcome, normalize (K := PyFloat) noUrllib renderInt lateStory noTime = .ok outcome := by
  constructor
  · rintro (⟨result, h⟩ | ⟨e, -, h | ⟨storyIds, -, -, exc, h, -⟩⟩)
    · have hisOk := lateRun_isOk
      rw [h] at hisOk
      cases hisOk
    · have hfeed : (fetchFeed lateLoads lateFeed).isOk = true := by decide +kernel
      rw [h] at hfeed
      cases hfeed
    · cases h
  · rw [← except_isOk_iff]
    decide +kernel

end Collector

end CartoonDemo
