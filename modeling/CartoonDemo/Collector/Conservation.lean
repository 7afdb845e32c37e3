import CartoonDemo.Collector.FloatRanker
import CartoonDemo.Collector.Service
import CartoonDemo.Library.Outcomes

/-!
# CartoonDemo.Collector.Conservation

**A collection run conserves stories.** Every item response that is no JSON object and every
decoded observation of type story ends up as one record, among the stories or among what is rejected
(`Represents`). The proof follows the stages: the first loop (`receiveItems_spec`), the second
(`considerItems_spec`), the deduplication (`dedupe_outcomes`) and the ranking (`scoreStories_spec`) each
turn a list of outcomes into another one.
-/

namespace CartoonDemo

namespace Collector

section Items

variable (loads : Bytes → Except LoadsError Json)

/-- The identifiers of the item responses that are classified `reject_json`. -/
def rejectedJson (results : List ItemFetchResult) : List String :=
  results.filterMap fun result =>
    match classifyItemFailure loads result with
    | .ok .rejectJson => some result.sourceId
    | _ => none

/-- The observation that is decoded of an item response. -/
def decodedObservation (result : ItemFetchResult) : Option (String × RawObservation) :=
  match classifyItemFailure loads result with
  | .ok .ok =>
      match decodeItem loads (result.body.getD []) result.sourceId with
      | .ok (some observation) => some (result.sourceId, observation)
      | _ => none
  | _ => none

/-- The decoded observations, under the identifiers of their responses. -/
def decoded (results : List ItemFetchResult) : List (String × RawObservation) :=
  results.filterMap (decodedObservation loads)

/-- The observation is of type story. -/
def ofTypeStory (item : String × RawObservation) : Bool := isStory (Json.get item.2 "type")

/-- An item that the run has to account for. -/
inductive Accountable
  | rejectJson (sourceId : String)
  | story (item : String × RawObservation)

/-- The item responses that are classified `reject_json`, and the decoded observations of type
story. -/
def accountable (results : List ItemFetchResult) : List Accountable :=
  (rejectedJson loads results).map .rejectJson ++
    ((decoded loads results).filter ofTypeStory).map .story

end Items

/-! ### The first loop

What is received is counted, result by result.
-/

section Receive

variable {K : Type} {loads : Bytes → Except LoadsError Json}

/-- The record of a response that is no JSON object. -/
def jsonRecord (sourceId : String) (now : PyDatetime) : RejectedStoryRecord :=
  Rejection.record { sourceId, reasonCode := .normalizationFailed, stage := some "json_decode" } now []

/-- What the first loop has made of the results that it has passed. -/
structure Received (loads : Bytes → Except LoadsError Json) (results : List ItemFetchResult)
    (context : CollectionRunContext K) : Prop where
  drafts : context.acceptedDrafts = []
  queued : context.queued = decoded loads results
  records : List.Forall₂ (fun sourceId record => ∃ now, record = jsonRecord sourceId now)
    (rejectedJson loads results) context.rejectedRecords

theorem received_step {results : List ItemFetchResult} {context context' : CollectionRunContext K}
    (h : Received loads results context) {result : ItemFetchResult} {now : PyDatetime}
    (hstep : receiveItem loads now context result = .ok context') :
    Received loads (results ++ [result]) context' := by
  have hdecoded : decoded loads (results ++ [result]) =
      decoded loads results ++ (decodedObservation loads result).toList := by
    rw [decoded, List.filterMap_append]
    cases hone : decodedObservation loads result <;> simp [decoded, hone]
  rw [receiveItem] at hstep
  split at hstep
  · cases hstep
  · next hskip =>
      obtain rfl := Except.ok.inj hstep
      have hnone : decodedObservation loads result = none := by rw [decodedObservation, hskip]
      exact ⟨h.drafts, by rw [hdecoded, hnone, h.queued]; simp,
        by simpa [rejectedJson, hskip] using h.records⟩
  · next hreject =>
      obtain rfl := Except.ok.inj hstep
      have hnone : decodedObservation loads result = none := by rw [decodedObservation, hreject]
      refine ⟨h.drafts, by rw [hdecoded, hnone]; simpa using h.queued, ?_⟩
      have hids : rejectedJson loads (results ++ [result]) =
          rejectedJson loads results ++ [result.sourceId] := by simp [rejectedJson, hreject]
      rw [hids]
      exact List.rel_append h.records (.cons ⟨now, rfl⟩ .nil)
  · next hok =>
      have hids : rejectedJson loads (results ++ [result]) = rejectedJson loads results := by
        simp [rejectedJson, hok]
      split at hstep
      · cases hstep
      · next hnull =>
          obtain rfl := Except.ok.inj hstep
          have hnone : decodedObservation loads result = none := by
            rw [decodedObservation, hok]
            simp only [hnull]
          exact ⟨h.drafts, by rw [hdecoded, hnone]; simpa using h.queued, hids ▸ h.records⟩
      · next observation hobservation =>
          obtain rfl := Except.ok.inj hstep
          have hsome : decodedObservation loads result = some (result.sourceId, observation) := by
            rw [decodedObservation, hok]
            simp only [hobservation]
          refine ⟨h.drafts, ?_, hids ▸ h.records⟩
          rw [hdecoded, hsome]
          exact congrArg (· ++ [(result.sourceId, observation)]) h.queued

theorem receiveItems_spec {clock : Clock} {results : List ItemFetchResult}
    {context : CollectionRunContext K} (h : receiveItems loads clock results = .ok context) :
    Received loads results context := by
  have hstart : Received loads (([] : List (ItemFetchResult × ℕ)).map Prod.fst)
      ({} : CollectionRunContext K) := ⟨rfl, rfl, .nil⟩
  have hrun := foldlM_run (P := fun passed context => Received loads (passed.map Prod.fst) context)
    (fun passed context item context' hpassed hstep => by
      rw [List.map_append]
      exact received_step hpassed hstep) hstart h
  rwa [List.nil_append, List.zipIdx_map_fst] at hrun

end Receive

/-! ### The second loop

Every parsed item is skipped, rejected or drafted.
-/

section Consider

variable {K : Type} {lib : Urllib} {render : Json → String} {host : Host}

/-- The record of a deleted story. -/
def deletedRecord (item : String × RawObservation) (now : PyDatetime) : RejectedStoryRecord :=
  Rejection.record { sourceId := item.1, reasonCode := .validationFailed, stage := some "deleted_story" }
    now item.2

/-- The fields of an observation that is accepted. -/
def acceptedFields (lib : Urllib) (render : Json → String) (item : String × RawObservation) :
    Option StoryFields :=
  if isTrue (Json.get item.2 "deleted") then none else (normalizeFields lib render item.2).toOption

/-- What an observation of type story becomes in the second loop. -/
inductive Considered (lib : Urllib) (render : Json → String) (item : String × RawObservation) :
    StoryRecord K ⊕ RejectedStoryRecord → Prop
  | deleted (now : PyDatetime) (h : isTrue (Json.get item.2 "deleted") = true) :
      Considered lib render item (.inr (deletedRecord item now))
  | refused (now : PyDatetime) (r : Rejection) (h : isTrue (Json.get item.2 "deleted") = false)
      (hr : normalizeFields lib render item.2 = .error (.rejected r)) :
      Considered lib render item (.inr (r.record now item.2))
  | accepted (now : PyDatetime) (fields : StoryFields)
      (h : acceptedFields lib render item = some fields) :
      Considered lib render item (.inl (fields.draft now item.2))

theorem parseItem_skip_iff {observation : RawObservation} :
    parseItem observation = .skip ↔ isStory (Json.get observation "type") = false := by
  rw [parseItem]
  cases isStory (Json.get observation "type") <;> cases isTrue (Json.get observation "deleted") <;> simp

theorem parseItem_rejectDeleted {observation : RawObservation} (h : parseItem observation = .rejectDeleted) :
    isStory (Json.get observation "type") = true ∧ isTrue (Json.get observation "deleted") = true := by
  rw [parseItem] at h
  cases htype : isStory (Json.get observation "type") <;>
    cases hdeleted : isTrue (Json.get observation "deleted") <;> simp_all

theorem parseItem_story {observation : RawObservation} (h : parseItem observation = .story) :
    isStory (Json.get observation "type") = true ∧ isTrue (Json.get observation "deleted") = false := by
  rw [parseItem] at h
  cases htype : isStory (Json.get observation "type") <;>
    cases hdeleted : isTrue (Json.get observation "deleted") <;> simp_all

/-- What the second loop has made of the observations that it has passed. -/
structure ConsideredAll (lib : Urllib) (render : Json → String) (rejectedBefore : List RejectedStoryRecord)
    (items : List (String × RawObservation)) (context : CollectionRunContext K) : Prop where
  outcomes : ∃ outcomes, List.Forall₂ (Considered lib render) (items.filter ofTypeStory) outcomes ∧
    context.acceptedDrafts = kept outcomes ∧
    context.rejectedRecords = rejectedBefore ++ rejected outcomes

theorem considered_step {rejectedBefore : List RejectedStoryRecord}
    {items : List (String × RawObservation)} {context context' : CollectionRunContext K}
    (h : ConsideredAll lib render rejectedBefore items context) {item : String × RawObservation}
    {now : PyDatetime} (hstep : considerItem lib render host now context item = .ok context') :
    ConsideredAll lib render rejectedBefore (items ++ [item]) context' := by
  obtain ⟨outcomes, hitems, hdrafts, hrecords⟩ := h.outcomes
  -- one more outcome, of an observation of type story
  have hone : ∀ outcome : StoryRecord K ⊕ RejectedStoryRecord, ofTypeStory item = true →
      Considered lib render item outcome →
      context'.acceptedDrafts = context.acceptedDrafts ++ kept [outcome] →
      context'.rejectedRecords = context.rejectedRecords ++ rejected [outcome] →
      ConsideredAll lib render rejectedBefore (items ++ [item]) context' := by
    intro outcome htype houtcome hdrafts' hrecords'
    refine ⟨outcomes ++ [outcome], ?_, ?_, ?_⟩
    · rw [List.filter_append, List.filter_cons, if_pos htype]
      exact List.rel_append hitems (.cons houtcome .nil)
    · rw [hdrafts', hdrafts, kept_append]
    · rw [hrecords', hrecords, rejected_append, List.append_assoc]
  rw [considerItem] at hstep
  cases hparse : parseItem item.2 with
  | skip =>
      rw [hparse] at hstep
      obtain rfl := Except.ok.inj hstep
      have htype : ofTypeStory item = false := parseItem_skip_iff.mp hparse
      exact ⟨outcomes, by simpa [htype] using hitems, hdrafts, hrecords⟩
  | rejectDeleted =>
      rw [hparse] at hstep
      obtain ⟨_, -, hstep⟩ := except_bind_ok hstep
      obtain rfl := Except.ok.inj hstep
      obtain ⟨htype, hdeleted⟩ := parseItem_rejectDeleted hparse
      exact hone (.inr (deletedRecord item now)) htype (.deleted now hdeleted)
        (List.append_nil _).symm rfl
  | story =>
      rw [hparse] at hstep
      obtain ⟨htype, hdeleted⟩ := parseItem_story hparse
      rw [normalize] at hstep
      cases hfields : normalizeFields lib render item.2 with
      | ok fields =>
          rw [hfields] at hstep
          obtain rfl := Except.ok.inj hstep
          have haccepted : acceptedFields lib render item = some fields := by
            rw [acceptedFields, hdeleted, hfields]
            rfl
          exact hone (.inl (fields.draft now item.2)) htype (.accepted now fields haccepted) rfl
            (List.append_nil _).symm
      | error refusal =>
          rw [hfields] at hstep
          cases refusal with
          | raised name => cases hstep
          | rejected r =>
              obtain rfl := Except.ok.inj hstep
              exact hone (.inr (r.record now item.2)) htype (.refused now r hdeleted hfields)
                (List.append_nil _).symm rfl

theorem considerItems_spec {clock : Clock} {received context : CollectionRunContext K}
    (hdrafts : received.acceptedDrafts = [])
    (h : considerItems lib render host clock received = .ok context) :
    ConsideredAll lib render received.rejectedRecords received.queued context := by
  have hstart : ConsideredAll lib render received.rejectedRecords
      (([] : List ((String × RawObservation) × ℕ)).map Prod.fst) received :=
    ⟨[], .nil, hdrafts, (List.append_nil _).symm⟩
  have hrun := foldlM_run (P := fun passed context =>
      ConsideredAll lib render received.rejectedRecords (passed.map Prod.fst) context)
    (fun passed context item context' hpassed hstep => by
      rw [List.map_append]
      exact considered_step hpassed hstep) hstart h
  rwa [List.nil_append, List.zipIdx_map_fst] at hrun

/-- A refusal that is not the deduplication's. -/
def NotDuplicate (refusal : Refusal) : Prop := ∀ r, refusal = .rejected r → r.reasonCode ≠ .duplicate

theorem notDuplicate_rejected {r : Rejection} : NotDuplicate (.rejected r) ↔ r.reasonCode ≠ .duplicate :=
  ⟨fun h => h r rfl, fun h _ hr => Refusal.rejected.inj hr ▸ h⟩

theorem notDuplicate_raised (name : String) : NotDuplicate (.raised name) := by
  intro r h
  cases h

theorem raises_ensure {condition : Prop} [Decidable condition] {r : Rejection}
    (hr : r.reasonCode ≠ .duplicate) : Raises NotDuplicate (ensure condition (.rejected r)) := by
  rw [ensure]
  split
  · exact raises_ok ..
  · exact raises_error.mpr (notDuplicate_rejected.mpr hr)

theorem raises_stageUrl {r : Rejection} (hr : r.reasonCode ≠ .duplicate) (url : Option String) :
    Raises NotDuplicate (stageUrl lib r url) := by
  cases url with
  | none => exact raises_ok ..
  | some url =>
      rw [stageUrl]
      split
      · exact raises_ok ..
      · exact raises_error.mpr (notDuplicate_raised _)
      · split
        · exact raises_error.mpr (notDuplicate_raised _)
        · split
          · exact raises_ok ..
          · exact raises_error.mpr (notDuplicate_rejected.mpr hr)

theorem raises_fromFloat (x : PyFloat) : Raises NotDuplicate (stagePublishedAt.fromFloat x) := by
  rw [stagePublishedAt.fromFloat]
  split
  · exact raises_ok ..
  · exact raises_error.mpr (notDuplicate_raised _)

theorem raises_stagePublishedAt {r : Rejection} (hr : r.reasonCode ≠ .duplicate) (time : Json) :
    Raises NotDuplicate (stagePublishedAt r time) := by
  cases time with
  | null => exact raises_ok ..
  | int n =>
      rw [stagePublishedAt]
      split
      · exact raises_error.mpr (notDuplicate_raised _)
      · exact raises_fromFloat _
  | float x => exact raises_fromFloat x
  | _ => exact raises_error.mpr (notDuplicate_rejected.mpr hr)

theorem raises_intSignal (value : Json) : Raises NotDuplicate (intSignal value) := by
  cases value with
  | float x =>
      rw [intSignal]
      split
      · exact raises_ok ..
      · exact raises_error.mpr (notDuplicate_raised _)
  | _ => exact raises_ok ..

/-- Nothing but the deduplication rejects a story as a duplicate. -/
theorem raises_normalizeFields (observation : RawObservation) :
    Raises NotDuplicate (normalizeFields lib render observation) := by
  rw [normalizeFields]
  refine (raises_ensure (by simp)).bind fun _ _ => ?_
  refine (raises_ensure (by simp)).bind fun _ _ => ?_
  refine (raises_ensure (by simp)).bind fun _ _ => ?_
  refine (raises_ensure (by simp)).bind fun _ _ => ?_
  refine (raises_stageUrl (by simp) _).bind fun _ _ => ?_
  refine (raises_stagePublishedAt (by simp) _).bind fun _ _ => ?_
  refine (raises_intSignal _).bind fun _ _ => ?_
  refine (raises_intSignal _).bind fun _ _ => ?_
  exact (raises_ensure (by simp)).bind fun _ _ => raises_ok ..

end Consider

/-! ### Deduplication -/

section Dedupe

variable {K : Type}

/-- What the deduplication makes of an outcome. -/
inductive Deduped : StoryRecord K ⊕ RejectedStoryRecord → StoryRecord K ⊕ RejectedStoryRecord → Prop
  | kept (draft : StoryRecord K) : Deduped (.inl draft) (.inl draft)
  | duplicate (draft : StoryRecord K) : Deduped (.inl draft) (.inr (duplicateRecord draft))
  | rejected (record : RejectedStoryRecord) : Deduped (.inr record) (.inr record)

theorem dedupe_outcomes (seen : List String) (outcomes : List (StoryRecord K ⊕ RejectedStoryRecord)) :
    ∃ outcomes', List.Forall₂ Deduped outcomes outcomes' ∧
      kept outcomes' = (dedupe seen (kept outcomes)).1 ∧
      (rejected outcomes').Perm (rejected outcomes ++ (dedupe seen (kept outcomes)).2) := by
  induction outcomes generalizing seen with
  | nil => exact ⟨[], .nil, rfl, .nil⟩
  | cons outcome outcomes ih =>
      cases outcome with
      | inl draft =>
          rw [kept_inl, rejected_inl]
          by_cases hseen : draft.sourceId ∈ seen
          · obtain ⟨outcomes', hdeduped, hkept, hrejected⟩ := ih seen
            rw [dedupe_of_mem hseen]
            refine ⟨.inr (duplicateRecord draft) :: outcomes', .cons (.duplicate draft) hdeduped, hkept, ?_⟩
            exact (hrejected.cons _).trans List.perm_middle.symm
          · obtain ⟨outcomes', hdeduped, hkept, hrejected⟩ := ih (draft.sourceId :: seen)
            rw [dedupe_of_not_mem hseen]
            exact ⟨.inl draft :: outcomes', .cons (.kept draft) hdeduped,
              congrArg (draft :: ·) hkept, hrejected⟩
      | inr record =>
          obtain ⟨outcomes', hdeduped, hkept, hrejected⟩ := ih seen
          exact ⟨.inr record :: outcomes', .cons (.rejected record) hdeduped, hkept,
            hrejected.cons record⟩

/-- What is kept has identifiers of its own, and none that was seen. -/
theorem dedupe_nodup (seen : List String) (drafts : List (StoryRecord K)) :
    ((dedupe seen drafts).1.map StoryRecord.sourceId).Nodup ∧
      ∀ draft ∈ (dedupe seen drafts).1, draft.sourceId ∉ seen := by
  induction drafts generalizing seen with
  | nil => exact ⟨List.nodup_nil, fun draft hdraft => absurd hdraft List.not_mem_nil⟩
  | cons draft drafts ih =>
      by_cases hseen : draft.sourceId ∈ seen
      · rw [dedupe_of_mem hseen]
        exact ih seen
      · obtain ⟨hnodup, hfresh⟩ := ih (draft.sourceId :: seen)
        rw [dedupe_of_not_mem hseen]
        constructor
        · rw [List.map_cons, List.nodup_cons]
          refine ⟨fun hmem => ?_, hnodup⟩
          obtain ⟨other, hother, hsame⟩ := List.mem_map.mp hmem
          exact hfresh other hother (hsame ▸ List.mem_cons_self)
        · intro other hother
          rcases List.mem_cons.mp hother with rfl | hother
          · exact hseen
          · exact fun hmem => hfresh other hother (List.mem_cons_of_mem _ hmem)

/-- Drafts with identifiers of their own are all kept. -/
theorem dedupe_of_nodup {seen : List String} {drafts : List (StoryRecord K)}
    (h : (drafts.map StoryRecord.sourceId).Nodup) (hfresh : ∀ draft ∈ drafts, draft.sourceId ∉ seen) :
    dedupe seen drafts = (drafts, []) := by
  induction drafts generalizing seen with
  | nil => rfl
  | cons draft drafts ih =>
      rw [List.map_cons, List.nodup_cons] at h
      rw [dedupe_of_not_mem (hfresh draft List.mem_cons_self), ih h.2]
      intro other hother hmem
      rcases List.mem_cons.mp hmem with hsame | hseen
      · exact h.1 (hsame ▸ List.mem_map_of_mem hother)
      · exact hfresh other (List.mem_cons_of_mem _ hother) hseen

/-- What is kept is the first draft with its identifier. -/
theorem dedupe_first {seen : List String} {drafts : List (StoryRecord K)} {draft : StoryRecord K}
    (h : draft ∈ (dedupe seen drafts).1) :
    drafts.find? (fun other => other.sourceId = draft.sourceId) = some draft := by
  induction drafts generalizing seen with
  | nil => exact absurd h List.not_mem_nil
  | cons other drafts ih =>
      have hfresh := (dedupe_nodup seen (other :: drafts)).2 draft h
      by_cases hseen : other.sourceId ∈ seen
      · rw [dedupe_of_mem hseen] at h
        have hne : other.sourceId ≠ draft.sourceId := fun hsame => hfresh (hsame ▸ hseen)
        rw [List.find?_cons_of_neg (by simpa using hne)]
        exact ih h
      · rw [dedupe_of_not_mem hseen] at h
        rcases List.mem_cons.mp h with rfl | hmem
        · exact List.find?_cons_of_pos (by simp)
        · have hfresh' := (dedupe_nodup (other.sourceId :: seen) drafts).2 draft hmem
          have hne : other.sourceId ≠ draft.sourceId := fun hsame =>
            hfresh' (hsame ▸ List.mem_cons_self)
          rw [List.find?_cons_of_neg (by simpa using hne)]
          exact ih hmem

theorem dedupe_duplicate {seen : List String} {drafts : List (StoryRecord K)}
    {record : RejectedStoryRecord} (h : record ∈ (dedupe seen drafts).2) :
    record.reasonCode = .duplicate := by
  induction drafts generalizing seen with
  | nil => exact absurd h List.not_mem_nil
  | cons draft drafts ih =>
      by_cases hseen : draft.sourceId ∈ seen
      · rw [dedupe_of_mem hseen] at h
        rcases List.mem_cons.mp h with rfl | h
        · rfl
        · exact ih h
      · rw [dedupe_of_not_mem hseen] at h
        exact ih h

end Dedupe

/-! ### Ranking -/

/-- A story with its rank score. -/
def StoryRecord.ranked {K : Type} (draft : StoryRecord K) (rankScore : K) : StoryRecord K :=
  { draft with rankScore := some rankScore }

theorem scoreStories_spec {K : Type} {ar : RankArithmetic K} {weights : ScoringWeights K}
    {reference : Option ℤ} {drafts : List (StoryRecord K)} {scored : List (StoryRecord K × K)}
    (h : scoreStories ar drafts weights reference = some scored) :
    List.Forall₂ (fun draft item => computeRankScore ar draft weights reference = some item.2 ∧
      item.1 = draft.ranked item.2) drafts scored := by
  induction drafts generalizing scored with
  | nil =>
      obtain rfl := Option.some.inj h
      exact .nil
  | cons draft drafts ih =>
      rw [scoreStories, List.mapM_cons] at h
      obtain ⟨item, hitem, h⟩ := Option.bind_eq_some_iff.mp h
      obtain ⟨rest, hrest, h⟩ := Option.bind_eq_some_iff.mp h
      obtain ⟨score, hscore, hmade⟩ := Option.bind_eq_some_iff.mp hitem
      obtain rfl := Option.some.inj h
      obtain rfl := Option.some.inj hmade
      exact .cons ⟨hscore, rfl⟩ (ih hrest)

/-! ### The result -/

section Result

variable (loads : Bytes → Except LoadsError Json) (lib : Urllib) (render : Json → String)

/-- What a record is made of. -/
inductive Represents : Accountable → StoryRecord PyFloat ⊕ RejectedStoryRecord → Prop
  | rejectJson (sourceId : String) (now : PyDatetime) :
      Represents (.rejectJson sourceId) (.inr (jsonRecord sourceId now))
  | deleted (item : String × RawObservation) (now : PyDatetime)
      (h : isTrue (Json.get item.2 "deleted") = true) :
      Represents (.story item) (.inr (deletedRecord item now))
  | refused (item : String × RawObservation) (now : PyDatetime) (r : Rejection)
      (h : normalizeFields lib render item.2 = .error (.rejected r)) :
      Represents (.story item) (.inr (r.record now item.2))
  | story (item : String × RawObservation) (now : PyDatetime) (fields : StoryFields)
      (rankScore : PyFloat) (h : acceptedFields lib render item = some fields) :
      Represents (.story item) (.inl ((fields.draft now item.2).ranked rankScore))
  | duplicate (item : String × RawObservation) (now : PyDatetime) (fields : StoryFields)
      (h : acceptedFields lib render item = some fields) :
      Represents (.story item)
        (.inr (duplicateRecord (fields.draft now item.2 : StoryRecord PyFloat)))

/-- The accepted observations in feed order, with their fields. -/
def acceptedItems (results : List ItemFetchResult) : List ((String × RawObservation) × StoryFields) :=
  ((decoded loads results).filter ofTypeStory).filterMap fun item =>
    (acceptedFields lib render item).map fun fields => (item, fields)

/-- `(-rank_score, source_id)` of one story is not greater than that of the other. -/
def RankedBefore (a b : StoryRecord PyFloat) : Prop :=
  ∃ x ∈ a.rankScore, ∃ y ∈ b.rankScore, tupleLe (x.neg, a.sourceId) (y.neg, b.sourceId) = true

/-- The parts of a result belong together, and each record to one item. -/
structure Accounted (candidateCount : ℤ) (results : List ItemFetchResult)
    (result : CollectionResult PyFloat) : Prop where
  represented : ∃ records, List.Forall₂ (Represents lib render) (accountable loads results) records ∧
    records.Perm (result.stories.map .inl ++ result.rejected.map .inr)
  count : result.stories.length + result.rejected.length = (accountable loads results).length
  distinct : (result.stories.map StoryRecord.sourceId).Nodup
  first : ∀ story ∈ result.stories, ∃ item fields now rankScore,
    (acceptedItems loads lib render results).find? (fun a => a.2.sourceId = story.sourceId) =
        some (item, fields) ∧
      story = (fields.draft now item.2).ranked rankScore
  duplicates : result.stats.duplicateCount =
    result.rejected.countP fun record => record.reasonCode = .duplicate
  candidates : result.candidates =
    result.stories.take (min candidateCount.toNat result.stories.length)

/-- The stories are in the order of the ranking, too. -/
structure Conserved (candidateCount : ℤ) (results : List ItemFetchResult)
    (result : CollectionResult PyFloat) : Prop extends
    Accounted loads lib render candidateCount results result where
  sorted : result.stories.Pairwise RankedBefore

/-- The first accepted drafts of each identifier, timestamps aside. -/
def firstDrafts (results : List ItemFetchResult) : List (StoryRecord PyFloat) :=
  (dedupe [] ((acceptedItems loads lib render results).map fun a => a.2.draft noTime a.1.2)).1

/-- One story at most, or weights that add up the numbers of each. -/
def Rankable (sorted : PySorted) (scoring : Option (CollectionScoringConfig PyFloat))
    (results : List ItemFetchResult) : Prop :=
  (firstDrafts loads lib render results).length ≤ 1 ∨
    ∀ story ∈ firstDrafts loads lib render results,
      SummableStory sorted (resolveWeights (floatArithmetic sorted) scoring)
        (referencePublishedAt (firstDrafts loads lib render results)) story

variable {loads lib render}

/-! ### From the stages to the result

The numbers of the result are those of the stages.
-/

/-- The drafts are those of the accepted observations. -/
theorem drafts_of_considered {items : List (String × RawObservation)}
    {outcomes : List (StoryRecord PyFloat ⊕ RejectedStoryRecord)}
    (h : List.Forall₂ (Considered lib render) items outcomes) :
    List.Forall₂ (fun (a : (String × RawObservation) × StoryFields) draft =>
        ∃ now, draft = a.2.draft now a.1.2)
      (items.filterMap fun item => (acceptedFields lib render item).map fun fields => (item, fields))
      (kept outcomes) := by
  induction h with
  | nil => exact .nil
  | cons hitem _ ih =>
      cases hitem with
      | deleted now hdeleted =>
          rw [List.filterMap_cons_none (by rw [acceptedFields, if_pos hdeleted]; rfl), kept_inr]
          exact ih
      | refused now r hdeleted hr =>
          rw [List.filterMap_cons_none (by rw [acceptedFields, hdeleted, hr]; rfl), kept_inr]
          exact ih
      | accepted now fields hfields =>
          rw [List.filterMap_cons_some (by rw [hfields]; rfl), kept_inl]
          exact .cons ⟨now, rfl⟩ ih

/-- The first draft of an identifier is that of the first accepted observation. -/
theorem find?_draft {accepted : List ((String × RawObservation) × StoryFields)}
    {drafts : List (StoryRecord PyFloat)}
    (h : List.Forall₂ (fun a draft => ∃ now, draft = a.2.draft now a.1.2) accepted drafts)
    {sourceId : String} {draft : StoryRecord PyFloat}
    (hfind : drafts.find? (fun other => other.sourceId = sourceId) = some draft) :
    ∃ a now, accepted.find? (fun a => a.2.sourceId = sourceId) = some a ∧
      draft = a.2.draft now a.1.2 := by
  induction h with
  | nil => cases hfind
  | @cons a other accepted drafts ha _ ih =>
      obtain ⟨now, rfl⟩ := ha
      by_cases hid : a.2.sourceId = sourceId
      · have hdraft : (a.2.draft now a.1.2 : StoryRecord PyFloat).sourceId = sourceId := hid
        rw [List.find?_cons_of_pos (by simpa using hdraft)] at hfind
        obtain rfl := Option.some.inj hfind
        exact ⟨a, now, List.find?_cons_of_pos (decide_eq_true hid), rfl⟩
      · have hdraft : ¬ (a.2.draft now a.1.2 : StoryRecord PyFloat).sourceId = sourceId := hid
        rw [List.find?_cons_of_neg (by simpa using hdraft)] at hfind
        rw [List.find?_cons_of_neg (by simpa using hid)]
        exact ih hfind

/-- A record of the three stages is the record of its item. -/
theorem represents_of_stages {a : Accountable} {first second third : StoryRecord PyFloat ⊕ RejectedStoryRecord}
    (ha : (∃ sourceId now, a = .rejectJson sourceId ∧ first = .inr (jsonRecord sourceId now)) ∨
      ∃ item, a = .story item ∧ Considered lib render item first)
    (hdeduped : Deduped first second)
    (hranked : Sum.LiftRel (fun draft story => ∃ rankScore, story = draft.ranked rankScore) Eq second third) :
    Represents lib render a third := by
  have hrejected : ∀ record, first = .inr record → third = .inr record := by
    rintro record rfl
    cases hdeduped
    cases hranked with
    | inr heq => rw [heq]
  rcases ha with ⟨sourceId, now, rfl, hfirst⟩ | ⟨item, rfl, hitem⟩
  · rw [hrejected _ hfirst]
    exact .rejectJson sourceId now
  · cases hitem with
    | deleted now hdeleted =>
        rw [hrejected _ rfl]
        exact .deleted item now hdeleted
    | refused now r hdeleted hr =>
        rw [hrejected _ rfl]
        exact .refused item now r hr
    | accepted now fields hfields =>
        cases hdeduped with
        | kept =>
            cases hranked with
            | inl hscore =>
                obtain ⟨rankScore, rfl⟩ := hscore
                exact .story item now fields rankScore hfields
        | duplicate =>
            cases hranked with
            | inr heq =>
                rw [← heq]
                exact .duplicate item now fields hfields

/-- A result is built of frozen stories and records. -/
theorem buildResult_ok {host : Host} {clock : Clock} {fetchedCount duplicateCount : ℕ}
    {stories candidates : List (StoryRecord PyFloat)} {rejected : List RejectedStoryRecord}
    {result : CollectionResult PyFloat}
    (h : buildResult host clock fetchedCount duplicateCount stories candidates rejected = .ok result) :
    CollectionResult.mk clock.started clock.completed stories candidates rejected
      ⟨fetchedCount, stories.length, rejected.length, duplicateCount, candidates.length⟩ = result := by
  obtain ⟨_, -, h⟩ := except_bind_ok h
  obtain ⟨_, -, h⟩ := except_bind_ok h
  obtain ⟨_, -, h⟩ := except_bind_ok h
  exact Except.ok.inj h

/-- What a run makes of the drafts and the records of the two loops. -/
theorem finishRun_ok {sorted : PySorted} {host : Host} {clock : Clock} {config : CollectionConfig PyFloat}
    {context : CollectionRunContext PyFloat} {result : CollectionResult PyFloat}
    (h : finishRun (floatArithmetic sorted) host clock config context = .ok result) :
    ∃ scored, scoreStories (floatArithmetic sorted) (dedupe [] context.acceptedDrafts).1
        (resolveWeights (floatArithmetic sorted) config.scoring)
        (referencePublishedAt (dedupe [] context.acceptedDrafts).1) = some scored ∧
      result.stories = (sorted.sort scored).map Prod.fst ∧
      result.candidates = upTo config.candidateCount result.stories ∧
      result.rejected = context.rejectedRecords ++ (dedupe [] context.acceptedDrafts).2 ∧
      result.stats.duplicateCount = (dedupe [] context.acceptedDrafts).2.length := by
  rw [finishRun] at h
  generalize dedupe [] context.acceptedDrafts = deduped at h ⊢
  obtain ⟨drafts, duplicates⟩ := deduped
  dsimp only at h ⊢
  split at h
  · cases h
  · next ranked candidates hrank =>
      obtain ⟨_, -, h⟩ := except_bind_ok h
      obtain rfl := buildResult_ok h
      obtain ⟨scored, hscored, hranked⟩ := Option.bind_eq_some_iff.mp hrank
      obtain ⟨rfl, rfl⟩ := Prod.mk.inj (Option.some.inj hranked)
      exact ⟨scored, hscored, rfl, rfl, rfl, rfl⟩

section Run

variable {sorted : PySorted} {host : Host} {clock : Clock} {config : CollectionConfig PyFloat}
  {results : List ItemFetchResult} {received context : CollectionRunContext PyFloat}
  {result : CollectionResult PyFloat}

/-- Before the deduplication no record is that of a duplicate. -/
theorem reasonCode_ne_duplicate (hreceived : Received loads results received)
    (hconsidered : ConsideredAll lib render received.rejectedRecords received.queued context)
    {record : RejectedStoryRecord} (h : record ∈ context.rejectedRecords) :
    record.reasonCode ≠ .duplicate := by
  obtain ⟨outcomes, hitems, -, hrecords⟩ := hconsidered.outcomes
  rw [hrecords, List.mem_append] at h
  rcases h with h | h
  · obtain ⟨sourceId, -, now, rfl⟩ := exists_of_mem_right hreceived.records h
    exact RejectionReason.noConfusion
  · obtain ⟨item, -, hitem⟩ := exists_of_mem_right hitems (mem_rejected_iff.mp h)
    cases hitem with
    | deleted now hdeleted => exact RejectionReason.noConfusion
    | refused now r hdeleted hr => exact (raises_normalizeFields item.2).of_error _ hr r rfl

/-- **Nothing is lost and nothing is doubled.** -/
theorem records_of_run (hreceived : Received loads results received)
    (hconsidered : ConsideredAll lib render received.rejectedRecords received.queued context)
    (h : finishRun (floatArithmetic sorted) host clock config context = .ok result) :
    ∃ records, List.Forall₂ (Represents lib render) (accountable loads results) records ∧
      records.Perm (result.stories.map .inl ++ result.rejected.map .inr) := by
  obtain ⟨outcomes, hitems, hdrafts, hrecords⟩ := hconsidered.outcomes
  obtain ⟨scored, hscored, hstories, -, hrejected, -⟩ := finishRun_ok h
  rw [hreceived.queued] at hitems
  let first := received.rejectedRecords.map Sum.inr ++ outcomes
  have hfirst : List.Forall₂ (fun a outcome =>
      (∃ sourceId now, a = .rejectJson sourceId ∧ outcome = .inr (jsonRecord sourceId now)) ∨
        ∃ item, a = .story item ∧ Considered lib render item outcome)
      (accountable loads results) first := by
    refine List.rel_append ?_ ?_
    · rw [List.forall₂_map_left_iff, List.forall₂_map_right_iff]
      refine hreceived.records.imp fun sourceId record hrecord => ?_
      obtain ⟨now, rfl⟩ := hrecord
      exact Or.inl ⟨sourceId, now, rfl, rfl⟩
    · rw [List.forall₂_map_left_iff]
      exact hitems.imp fun item outcome hitem => Or.inr ⟨item, rfl, hitem⟩
  have hkeptFirst : kept first = context.acceptedDrafts := by
    rw [kept_append, kept_map_inr, hdrafts, List.nil_append]
  have hrejectedFirst : rejected first = context.rejectedRecords := by
    rw [rejected_append, rejected_map_inr, hrecords]
  obtain ⟨second, hdeduped, hkeptSecond, hrejectedSecond⟩ := dedupe_outcomes [] first
  rw [hkeptFirst] at hkeptSecond hrejectedSecond
  have hranked : List.Forall₂ (fun draft story => ∃ rankScore, story = StoryRecord.ranked draft rankScore)
      (kept second) (scored.map Prod.fst) := by
    rw [hkeptSecond, List.forall₂_map_right_iff]
    exact (scoreStories_spec hscored).imp fun draft item hitem => ⟨item.2, hitem.2⟩
  obtain ⟨third, hlifted, hkeptThird, hrejectedThird⟩ := exists_replace_kept hranked
  have htwo := forall₂_stages (fun a b c hab hbc => (⟨b, hab, hbc⟩ : ∃ b, _ ∧ Deduped b c))
    hfirst hdeduped
  refine ⟨third, forall₂_stages (fun a b c hab hbc => ?_) htwo hlifted, ?_⟩
  · obtain ⟨outcome, hstart, hdedupe⟩ := hab
    exact represents_of_stages hstart hdedupe hbc
  · refine (perm_kept_rejected third).trans (List.Perm.append (List.Perm.map _ ?_) (List.Perm.map _ ?_))
    · rw [hkeptThird, hstories]
      exact ((sorted.perm scored).map Prod.fst).symm
    · rw [hrejectedThird, hrejected, ← hrejectedFirst]
      exact hrejectedSecond

/-- The ranking keeps everything of a story but its rank score. -/
theorem map_scored {α : Type} {f : StoryRecord PyFloat → α}
    (hf : ∀ draft rankScore, f (StoryRecord.ranked draft rankScore) = f draft)
    {drafts : List (StoryRecord PyFloat)} {scored : List (StoryRecord PyFloat × PyFloat)}
    {weights : ScoringWeights PyFloat} {reference : Option ℤ}
    (h : scoreStories (floatArithmetic sorted) drafts weights reference = some scored) :
    drafts.map f = (scored.map Prod.fst).map f := by
  rw [← List.forall₂_eq_eq_eq, List.forall₂_map_left_iff, List.forall₂_map_right_iff,
    List.forall₂_map_right_iff]
  exact (scoreStories_spec h).imp fun draft item hitem => by rw [hitem.2, hf]

/-- The run keeps the books. -/
theorem accounted_of_run (hcount : 0 ≤ config.candidateCount)
    (hreceived : Received loads results received)
    (hconsidered : ConsideredAll lib render received.rejectedRecords received.queued context)
    (h : finishRun (floatArithmetic sorted) host clock config context = .ok result) :
    Accounted loads lib render config.candidateCount results result := by
  obtain ⟨records, hrecords, hperm⟩ := records_of_run hreceived hconsidered h
  obtain ⟨scored, hscored, hstories, hcandidates, hrejected, hduplicates⟩ := finishRun_ok h
  have hsorted : result.stories.Perm (scored.map Prod.fst) := by
    rw [hstories]
    exact (sorted.perm scored).map Prod.fst
  refine ⟨⟨records, hrecords, hperm⟩, ?count, ?distinct, ?first, ?duplicates, ?candidates⟩
  case count =>
    have hlength := hperm.length_eq
    rw [List.length_append, List.length_map, List.length_map, ← hrecords.length_eq] at hlength
    exact hlength.symm
  case distinct =>
    have hids := (dedupe_nodup [] context.acceptedDrafts).1
    rw [map_scored (f := StoryRecord.sourceId) (fun _ _ => rfl) hscored] at hids
    exact (hsorted.map StoryRecord.sourceId).nodup_iff.mpr hids
  case first =>
    intro story hstory
    obtain ⟨item, hitem, rfl⟩ := List.mem_map.mp (hsorted.mem_iff.mp hstory)
    obtain ⟨draft, hdraft, -, hranked⟩ := exists_of_mem_right (scoreStories_spec hscored) hitem
    obtain ⟨outcomes, hitems, hdrafts, -⟩ := hconsidered.outcomes
    rw [hreceived.queued] at hitems
    have hfind := dedupe_first hdraft
    rw [hdrafts] at hfind
    obtain ⟨a, now, hfirst, rfl⟩ := find?_draft (drafts_of_considered hitems) hfind
    rw [hranked]
    exact ⟨a.1, a.2, now, item.2, hfirst, rfl⟩
  case duplicates =>
    have hold : context.rejectedRecords.countP (fun record => record.reasonCode = .duplicate) = 0 :=
      List.countP_eq_zero.mpr fun record hrecord => by
        simpa using reasonCode_ne_duplicate hreceived hconsidered hrecord
    have hnew : (dedupe [] context.acceptedDrafts).2.countP
          (fun record => record.reasonCode = .duplicate) =
        (dedupe [] context.acceptedDrafts).2.length :=
      List.countP_eq_length.mpr fun record hrecord => by
        simpa using dedupe_duplicate hrecord
    rw [hduplicates, hrejected, List.countP_append, hold, hnew, Nat.zero_add]
  case candidates =>
    rw [hcandidates, upTo, if_pos hcount, List.take_eq_take_min]

/-- The stories are in order where nothing stands between their scores and an order. -/
theorem sorted_iff (h : finishRun (floatArithmetic sorted) host clock config context = .ok result) :
    result.stories.Pairwise RankedBefore ↔
      (dedupe [] context.acceptedDrafts).1.length ≤ 1 ∨
        ∀ draft ∈ (dedupe [] context.acceptedDrafts).1,
          SummableStory sorted (resolveWeights (floatArithmetic sorted) config.scoring)
            (referencePublishedAt (dedupe [] context.acceptedDrafts).1) draft := by
  obtain ⟨scored, hscored, hstories, -, -, -⟩ := finishRun_ok h
  have hspec := scoreStories_spec hscored
  have hrank : ∀ item ∈ scored, item.1.rankScore = some item.2 := by
    intro item hitem
    obtain ⟨draft, -, -, hranked⟩ := exists_of_mem_right hspec hitem
    rw [hranked]
    rfl
  have hpairs : result.stories.Pairwise RankedBefore ↔
      (sorted.sort scored).Pairwise fun a b => tupleLe (rankTuple a) (rankTuple b) := by
    rw [hstories, List.pairwise_map]
    refine List.Pairwise.iff_of_mem fun {a b} ha hb => ?_
    rw [RankedBefore, hrank a ((sorted.perm scored).mem_iff.mp ha),
      hrank b ((sorted.perm scored).mem_iff.mp hb)]
    simp [rankTuple]
  rw [hpairs, pairwise_sort_iff, ← hspec.length_eq]
  refine or_congr_right ⟨fun hclean draft hdraft => ?_, fun hclean item hitem => ?_⟩
  · obtain ⟨item, hitem, hscore, -⟩ := exists_of_mem_left hspec hdraft
    exact (computeRankScore_ne_nan_iff hscore).mp (hclean item hitem)
  · obtain ⟨draft, hdraft, hscore, -⟩ := exists_of_mem_right hspec hitem
    exact (computeRankScore_ne_nan_iff hscore).mpr (hclean draft hdraft)

/-- The drafts are those of the accepted observations, timestamps aside. -/
theorem acceptedItems_timeless (hreceived : Received loads results received)
    (hconsidered : ConsideredAll lib render received.rejectedRecords received.queued context) :
    (acceptedItems loads lib render results).map
        (fun a => (a.2.draft noTime a.1.2 : StoryRecord PyFloat)) =
      context.acceptedDrafts.map StoryRecord.timeless := by
  obtain ⟨outcomes, hitems, hdrafts, -⟩ := hconsidered.outcomes
  rw [hreceived.queued] at hitems
  rw [hdrafts, ← List.forall₂_eq_eq_eq, List.forall₂_map_left_iff, List.forall₂_map_right_iff]
  refine (drafts_of_considered hitems).imp fun a draft hdraft => ?_
  obtain ⟨now, rfl⟩ := hdraft
  rfl

/-- The first drafts are those that the deduplication keeps, timestamps aside. -/
theorem firstDrafts_eq (hreceived : Received loads results received)
    (hconsidered : ConsideredAll lib render received.rejectedRecords received.queued context) :
    firstDrafts loads lib render results =
      (dedupe [] context.acceptedDrafts).1.map StoryRecord.timeless := by
  rw [firstDrafts, acceptedItems_timeless hreceived hconsidered, dedupe_timeless]

theorem rankable_iff (hreceived : Received loads results received)
    (hconsidered : ConsideredAll lib render received.rejectedRecords received.queued context) :
    Rankable loads lib render sorted config.scoring results ↔
      (dedupe [] context.acceptedDrafts).1.length ≤ 1 ∨
        ∀ draft ∈ (dedupe [] context.acceptedDrafts).1,
          SummableStory sorted (resolveWeights (floatArithmetic sorted) config.scoring)
            (referencePublishedAt (dedupe [] context.acceptedDrafts).1) draft := by
  have href : referencePublishedAt ((dedupe [] context.acceptedDrafts).1.map StoryRecord.timeless) =
      referencePublishedAt (dedupe [] context.acceptedDrafts).1 := by
    rw [referencePublishedAt, List.filterMap_map]
    rfl
  rw [Rankable, firstDrafts_eq hreceived hconsidered, href, List.length_map, List.forall_mem_map]
  exact Iff.rfl

end Run

/-- **Where a collection conserves the stories.** A run that returns accounts for every item, keeps
the first story of each identifier, counts the duplicates and takes the candidates from the
front; its stories are sorted exactly if there is one at most or the weights add up the numbers of
each. -/
theorem collection_conserved_iff (loads : Bytes → Except LoadsError Json) (lib : Urllib)
    (render : Json → String) (sorted : PySorted) (host : Host) (client : HackerNewsClient) (clock : Clock)
    (config : CollectionConfig PyFloat) (hcount : 0 < config.candidateCount) {feed : List StoryId}
    {results : List ItemFetchResult} {result : CollectionResult PyFloat}
    (hfeed : client.fetchTopStoryIds = .ok feed)
    (hitems : client.fetchItems (upTo (computePoolSize config.candidateCount) feed) = .ok results)
    (h : collectStories loads lib render (floatArithmetic sorted) host client clock config = .ok result) :
    Accounted loads lib render config.candidateCount results result ∧
      (Conserved loads lib render config.candidateCount results result ↔
        Rankable loads lib render sorted config.scoring results) := by
  rw [collectStories, hfeed] at h
  have hprocess : processItems loads lib render (floatArithmetic sorted) host clock config results =
      .ok result := by
    have hrest : (client.fetchItems (upTo (computePoolSize config.candidateCount) feed) >>=
        processItems loads lib render (floatArithmetic sorted) host clock config) = .ok result := h
    rw [hitems] at hrest
    exact hrest
  obtain ⟨received, hreceive, hprocess⟩ := except_bind_ok hprocess
  obtain ⟨context, hconsider, hfinish⟩ := except_bind_ok hprocess
  have hreceived := receiveItems_spec hreceive
  have hconsidered := considerItems_spec hreceived.drafts hconsider
  have haccounted := accounted_of_run hcount.le hreceived hconsidered hfinish
  refine ⟨haccounted, fun hconserved => ?_, fun hrankable => ⟨haccounted, ?_⟩⟩
  · exact (rankable_iff hreceived hconsidered).mpr ((sorted_iff hfinish).mp hconserved.sorted)
  · exact (sorted_iff hfinish).mpr ((rankable_iff hreceived hconsidered).mp hrankable)

/-! ### A story whose rank score is nan -/

/-- An item of the feed with its score and its number of comments. -/
def sampleItem (id : ℤ) (score descendants : Json) : RawObservation :=
  [("type", .str "story"), ("id", .int id), ("title", .str "t"), ("score", score),
   ("descendants", descendants)]

def asciiBytes (text : String) : Bytes := text.toList.map fun c => UInt8.ofNat c.toNat

/-- The double that `1.7e308` is read as. -/
def largeDouble : ℚ := PyFloat.roundToDouble (17 * 10 ^ 307)

/-- The items in JSON and as they are read: the second story has `1.7e308` points and the negative of
it as comments. -/
def sampleItems : List (StoryId × Bytes × RawObservation) :=
  [(.int 1,
    asciiBytes "\x7b\"type\":\"story\",\"id\":1,\"title\":\"t\",\"score\":1,\"descendants\":0\x7d",
    sampleItem 1 (.int 1) (.int 0)),
   (.int 2,
    asciiBytes
      "\x7b\"type\":\"story\",\"id\":2,\"title\":\"t\",\"score\":1.7e308,\"descendants\":-1.7e308\x7d",
    sampleItem 2 (.float (.finite largeDouble)) (.float (.finite (-largeDouble)))),
   (.int 3,
    asciiBytes "\x7b\"type\":\"story\",\"id\":3,\"title\":\"t\",\"score\":3,\"descendants\":0\x7d",
    sampleItem 3 (.int 3) (.int 0))]

/-- `json.loads` of these texts. -/
def sampleLoads (body : Bytes) : Except LoadsError Json :=
  match sampleItems.find? fun item => item.2.1 = body with
  | some item => .ok (.obj item.2.2)
  | none => .error .jsonDecodeError

/-- The service, with some of the items. -/
def sampleClient (items : List (StoryId × Bytes × RawObservation)) : HackerNewsClient where
  fetchTopStoryIds := .ok (items.map Prod.fst)
  fetchItems _ := .ok (items.map fun item =>
    { sourceId := item.1.str, statusCode := some 200, errorKind := .none, body := some item.2.1 })

/-- `urllib.parse`, which a story without a URL does not need. -/
def noUrllib : Urllib where
  urlparse _ := .error "ValueError"
  parseQsl _ := []
  urlencode _ := .ok ""
  urlunparse _ _ _ _ := ""
  lower := id
  idna _ := none

/-- `str` of an identifier. -/
def renderInt : Json → String
  | .int n => toString n
  | _ => ""

/-- A logger that reports warnings, and enough stack. -/
def sampleHost : Host where
  logger :=
    { repr := id
      dumps := fun _ => ""
      logLevel := .info
      serviceName := "worker"
      correlation := ⟨none, none, none⟩
      trace := none
      now := noTime }
  freezes _ := true
  freezes_nil := rfl

/-- Two for a point and two for a comment. -/
def sampleConfig : CollectionConfig PyFloat where
  candidateCount := 1
  scoring := some ⟨some (.finite 2), some (.finite 2), some (.finite 0)⟩

/-- The run. -/
def sampleRun : Except CollectException (CollectionResult PyFloat) :=
  collectStories sampleLoads noUrllib renderInt (floatArithmetic .insertion) sampleHost
    (sampleClient sampleItems) noClock sampleConfig

/-- The second story ends between the others, so the candidate is the first and not the third. -/
theorem sampleRun_ranks :
    (sampleRun.toOption.map fun result =>
        (result.stories.map fun story => (story.rankScore, story.sourceId),
          result.candidates.map StoryRecord.sourceId)) =
      some ([(some (.finite 2), "1"), (some .nan, "2"), (some (.finite 6), "3")], ["1"]) := by
  decide +kernel

/-- A feed and item responses on which the run returns stories out of order. -/
theorem sampleRun_not_conserved :
    ∃ feed results result, (sampleClient sampleItems).fetchTopStoryIds = .ok feed ∧
      (sampleClient sampleItems).fetchItems
        (upTo (computePoolSize sampleConfig.candidateCount) feed) = .ok results ∧
      sampleRun = .ok result ∧
      ¬ Conserved sampleLoads noUrllib renderInt sampleConfig.candidateCount results result := by
  have hranks := sampleRun_ranks
  cases hrun : sampleRun with
  | error e => simp [hrun, Except.toOption] at hranks
  | ok result =>
    refine ⟨_, _, result, rfl, rfl, rfl, fun hconserved => ?_⟩
    simp only [hrun, Except.toOption, Option.map_some, Option.some.injEq, Prod.mk.injEq] at hranks
    -- the stories that the run returns, by their scores and identifiers
    have hsorted := hconserved.sorted
    have hpairs : (result.stories.map fun story => (story.rankScore, story.sourceId)).Pairwise
        fun a b => ∃ x ∈ a.1, ∃ y ∈ b.1, tupleLe (x.neg, a.2) (y.neg, b.2) = true :=
      List.pairwise_map.mpr hsorted
    rw [hranks.1] at hpairs
    obtain ⟨x, hx, y, hy, hle⟩ := (List.pairwise_cons.mp hpairs).1 _
      (List.mem_cons_of_mem _ List.mem_cons_self)
    obtain rfl := Option.some.inj hx
    obtain rfl := Option.some.inj hy
    revert hle
    decide

theorem collection_conserved_iff_sampleClient :
    ∃ feed results result, (sampleClient (sampleItems.take 1)).fetchTopStoryIds = .ok feed ∧
      (sampleClient (sampleItems.take 1)).fetchItems
        (upTo (computePoolSize sampleConfig.candidateCount) feed) = .ok results ∧
      Accounted sampleLoads noUrllib renderInt sampleConfig.candidateCount results result ∧
      (Conserved sampleLoads noUrllib renderInt sampleConfig.candidateCount results result ↔
        Rankable sampleLoads noUrllib renderInt .insertion sampleConfig.scoring results) := by
  have hranks : ((collectStories sampleLoads noUrllib renderInt (floatArithmetic .insertion) sampleHost
      (sampleClient (sampleItems.take 1)) noClock sampleConfig).toOption.map fun result =>
        result.stories.map StoryRecord.sourceId) = some ["1"] := by
    decide +kernel
  cases hrun : collectStories sampleLoads noUrllib renderInt (floatArithmetic .insertion) sampleHost
      (sampleClient (sampleItems.take 1)) noClock sampleConfig with
  | error e => simp [hrun, Except.toOption] at hranks
  | ok result =>
    exact ⟨_, _, result, rfl, rfl,
      collection_conserved_iff sampleLoads noUrllib renderInt .insertion sampleHost
        (sampleClient (sampleItems.take 1)) noClock sampleConfig (by decide) rfl rfl hrun⟩

end Result

end Collector

end CartoonDemo
