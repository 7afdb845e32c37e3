import CartoonDemo.Collector.Normalizer
import CartoonDemo.Collector.Ranker
import CartoonDemo.Library.Loops
import CartoonDemo.Observability.LoggerCalls

/-!
# CartoonDemo.Collector.Service

A **collection run** (`collector/service.py`, `collector/dedupe.py`, `collector/result.py` and the
log lines of `collector/observability.py`): the items of the feed are fetched, decoded, parsed,
normalised, deduplicated and ranked, and what is rejected on the way is kept with its reason.

The first rejections are logged with the identifiers that the service has given the items. What else
a run logs, traces and counts are numbers and texts of its own, at which telemetry raises nothing.
-/

namespace CartoonDemo

namespace Collector

/-- `POOL_SIZE_MIN`, `POOL_SIZE_MAX` and `POOL_SIZE_MULTIPLIER`. -/
def poolSizeMin : ℤ := 50

def poolSizeMax : ℤ := 200

def poolSizeMultiplier : ℤ := 5

/-- `compute_pool_size`. -/
def computePoolSize (candidateCount : ℤ) : ℤ :=
  min poolSizeMax (max poolSizeMin (candidateCount * poolSizeMultiplier))

/-- `config.collection`. -/
structure CollectionConfig (K : Type) where
  candidateCount : ℤ
  scoring : Option (CollectionScoringConfig K)

/-- `REJECTION_LOG_SAMPLE_LIMIT`. -/
def rejectionLogSampleLimit : ℕ := 100

/-- What a run finds around it: its logger, and the stack of the interpreter. -/
structure Host where
  logger : Observability.LoggerImpl
  /-- Where the run calls `deep_freeze_mapping` of the observation, the recursion ends in time. -/
  freezes : RawObservation → Bool
  freezes_nil : freezes [] = true

/-- `deep_freeze_mapping`; an observation keeps its entries when it is frozen. -/
def deepFreezeMapping (host : Host) (observation : RawObservation) : Except CollectException Unit :=
  if host.freezes observation then .ok () else .error (.py "RecursionError")

/-- What `utc_now` returns: at the start, for the items of either loop, and at the end. -/
structure Clock where
  started : PyDatetime
  received : ℕ → PyDatetime
  considered : ℕ → PyDatetime
  completed : PyDatetime

/-- `HackerNewsClient`. -/
structure HackerNewsClient where
  fetchTopStoryIds : Except CollectException (List StoryId)
  fetchItems : List StoryId → Except CollectException (List ItemFetchResult)

/-- The orders in which the threads complete, for any number of fetches. -/
structure Schedule where
  order : ℕ → List ℕ
  perm : ∀ n, (order n).Perm (List.range n)

/-- `CollectionRunContext`, with the observations that wait for the second loop. -/
structure CollectionRunContext (K : Type) where
  fetchedCount : ℕ := 0
  rejectedRecords : List RejectedStoryRecord := []
  acceptedDrafts : List (StoryRecord K) := []
  queued : List (String × RawObservation) := []

section Collect

variable {K : Type} (loads : Bytes → Except LoadsError Json) (lib : Urllib)
  (render : Json → String) (ar : RankArithmetic K) (host : Host)

/-- `DefaultHackerNewsClient`. -/
def defaultHackerNewsClient (feed : Except HttpException Response)
    (get : ℕ → StoryId → Except HttpException Response) (schedule : Schedule) : HackerNewsClient where
  fetchTopStoryIds := fetchFeed loads feed
  fetchItems storyIds := fetchAll get storyIds (schedule.order storyIds.length)

/-- The first loop, for one result; the record of a response that is no JSON object has an empty
observation. -/
def receiveItem (now : PyDatetime) (context : CollectionRunContext K) (result : ItemFetchResult) :
    Except CollectException (CollectionRunContext K) :=
  match classifyItemFailure loads result with
  | .error e => .error e
  | .ok .skip => .ok context
  | .ok .rejectJson =>
      let rejection : Rejection :=
        { sourceId := result.sourceId
          reasonCode := .normalizationFailed
          stage := some "json_decode" }
      .ok { context with
            rejectedRecords := context.rejectedRecords ++ [rejection.record now []] }
  | .ok .ok =>
      match decodeItem loads (result.body.getD []) result.sourceId with
      | .error e => .error e
      | .ok none => .ok { context with fetchedCount := context.fetchedCount + 1 }
      | .ok (some observation) =>
          .ok { context with
                fetchedCount := context.fetchedCount + 1
                queued := context.queued ++ [(result.sourceId, observation)] }

/-- The second loop, for one observation. -/
def considerItem (now : PyDatetime) (context : CollectionRunContext K)
    (item : String × RawObservation) : Except CollectException (CollectionRunContext K) :=
  match parseItem item.2 with
  | .skip => .ok context
  | .rejectDeleted => do
      let rejection : Rejection :=
        { sourceId := item.1
          reasonCode := .validationFailed
          stage := some "deleted_story" }
      deepFreezeMapping host item.2
      return { context with
               rejectedRecords := context.rejectedRecords ++ [rejection.record now item.2] }
  | .story =>
      match normalize lib render item.2 now with
      | .error e => .error e
      | .ok (.inr record) =>
          .ok { context with rejectedRecords := context.rejectedRecords ++ [record] }
      | .ok (.inl draft) => .ok { context with acceptedDrafts := context.acceptedDrafts ++ [draft] }

/-- The record of a draft whose identifier was seen before. -/
def duplicateRecord (draft : StoryRecord K) : RejectedStoryRecord :=
  Rejection.record { sourceId := draft.sourceId, reasonCode := .duplicate } draft.collectedAt
    draft.rawObservation

/-- `StoryDeduplicator.dedupe`: what is kept, and what is rejected. -/
def dedupe : (seen : List String) → List (StoryRecord K) →
    List (StoryRecord K) × List RejectedStoryRecord
  | _, [] => ([], [])
  | seen, draft :: drafts =>
      if draft.sourceId ∈ seen then
        let (kept, rejected) := dedupe seen drafts
        (kept, duplicateRecord draft :: rejected)
      else
        let (kept, rejected) := dedupe (draft.sourceId :: seen) drafts
        (draft :: kept, rejected)

theorem dedupe_of_mem {seen : List String} {draft : StoryRecord K} (h : draft.sourceId ∈ seen)
    (drafts : List (StoryRecord K)) :
    dedupe seen (draft :: drafts) =
      ((dedupe seen drafts).1, duplicateRecord draft :: (dedupe seen drafts).2) := by
  rw [dedupe, if_pos h]

theorem dedupe_of_not_mem {seen : List String} {draft : StoryRecord K} (h : draft.sourceId ∉ seen)
    (drafts : List (StoryRecord K)) :
    dedupe seen (draft :: drafts) =
      (draft :: (dedupe (draft.sourceId :: seen) drafts).1,
        (dedupe (draft.sourceId :: seen) drafts).2) := by
  rw [dedupe, if_neg h]

/-- The freezing of several observations. -/
def freezeAll (observations : List RawObservation) : Except CollectException Unit :=
  observations.forM (deepFreezeMapping host)

/-- What telemetry raises, if anything. -/
def telemetryRaised {α : Type} : Except Observability.TelemetryError α → Except CollectException Unit
  | .ok _ => .ok ()
  | .error e => .error (.py e.className)

/-- `emit_story_rejected`. -/
def emitStoryRejected (record : RejectedStoryRecord) : Except CollectException Unit :=
  telemetryRaised (host.logger.warning "collection_story_rejected" "story rejected during collection"
    [("source_id", .str record.sourceId), ("reason_code", .str record.reasonCode.value)])

/-- `emit_rejections_sampled`. -/
def emitRejectionsSampled (rejections : List RejectedStoryRecord) : Except CollectException Unit := do
  (rejections.take rejectionLogSampleLimit).forM (emitStoryRejected host)
  if rejections.length > rejectionLogSampleLimit then
    telemetryRaised (host.logger.info "collection_rejections_truncated"
      "rejection log sampling truncated"
      [("total_rejected", .int rejections.length), ("logged", .int rejectionLogSampleLimit)])

/-- `CollectionResultBuilder.build`. -/
def buildResult (clock : Clock) (fetchedCount duplicateCount : ℕ)
    (stories candidates : List (StoryRecord K)) (rejected : List RejectedStoryRecord) :
    Except CollectException (CollectionResult K) := do
  freezeAll host (stories.map StoryRecord.rawObservation)
  freezeAll host (candidates.map StoryRecord.rawObservation)
  freezeAll host (rejected.map RejectedStoryRecord.rawObservation)
  return {
    startedAt := clock.started
    completedAt := clock.completed
    stories
    candidates
    rejected
    stats :=
      { fetchedCount
        acceptedCount := stories.length
        rejectedCount := rejected.length
        duplicateCount
        candidateCount := candidates.length } }

/-- The first loop. -/
def receiveItems (clock : Clock) (results : List ItemFetchResult) :
    Except CollectException (CollectionRunContext K) :=
  results.zipIdx.foldlM
    (fun context item => receiveItem loads (clock.received item.2) context item.1)
    {}

/-- The second loop. -/
def considerItems (clock : Clock) (context : CollectionRunContext K) :
    Except CollectException (CollectionRunContext K) :=
  context.queued.zipIdx.foldlM
    (fun context item => considerItem lib render host (clock.considered item.2) context item.1)
    context

/-- What follows the loops. -/
def finishRun (clock : Clock) (config : CollectionConfig K) (context : CollectionRunContext K) :
    Except CollectException (CollectionResult K) :=
  let (deduped, duplicates) := dedupe [] context.acceptedDrafts
  let rejected := context.rejectedRecords ++ duplicates
  match rank ar deduped config.candidateCount (resolveWeights ar config.scoring) with
  | none => .error (.py "OverflowError")
  | some (ranked, candidates) => do
      emitRejectionsSampled host rejected
      buildResult host clock context.fetchedCount duplicates.length ranked candidates rejected

/-- From the results of the fetches on. -/
def processItems (clock : Clock) (config : CollectionConfig K) (results : List ItemFetchResult) :
    Except CollectException (CollectionResult K) := do
  let received ← receiveItems loads clock results
  let context ← considerItems lib render host clock received
  finishRun ar host clock config context

/-- `DefaultCollector.collect_stories`. -/
def collectStories (client : HackerNewsClient) (clock : Clock) (config : CollectionConfig K) :
    Except CollectException (CollectionResult K) := do
  let feed ← client.fetchTopStoryIds
  let results ← client.fetchItems (upTo (computePoolSize config.candidateCount) feed)
  processItems loads lib render ar host clock config results

end Collect

/-! ### The times of a run

The run reads the clock for its records only; without them it is a function of what was fetched.
-/

/-- A time for all times. -/
def noTime : PyDatetime := PyDatetime.ofUtc 0 PyDatetime.wallLimit_pos

def noClock : Clock where
  started := noTime
  received _ := noTime
  considered _ := noTime
  completed := noTime

section Timeless

variable {K : Type}

def StoryRecord.timeless (story : StoryRecord K) : StoryRecord K := { story with collectedAt := noTime }

def RejectedStoryRecord.timeless (record : RejectedStoryRecord) : RejectedStoryRecord :=
  { record with collectedAt := noTime }

/-- The result, timestamps aside. -/
def CollectionResult.timeless (result : CollectionResult K) : CollectionResult K where
  startedAt := noTime
  completedAt := noTime
  stories := result.stories.map StoryRecord.timeless
  candidates := result.candidates.map StoryRecord.timeless
  rejected := result.rejected.map RejectedStoryRecord.timeless
  stats := result.stats

def CollectionRunContext.timeless (context : CollectionRunContext K) : CollectionRunContext K where
  fetchedCount := context.fetchedCount
  rejectedRecords := context.rejectedRecords.map RejectedStoryRecord.timeless
  acceptedDrafts := context.acceptedDrafts.map StoryRecord.timeless
  queued := context.queued

variable (loads : Bytes → Except LoadsError Json) (lib : Urllib) (render : Json → String) (host : Host)

theorem receiveItem_timeless (now : PyDatetime) (context : CollectionRunContext K)
    (result : ItemFetchResult) :
    (receiveItem loads now context result).map CollectionRunContext.timeless =
      receiveItem loads noTime context.timeless result := by
  rw [receiveItem, receiveItem]
  rcases classifyItemFailure loads result with e | outcome
  · rfl
  · cases outcome with
    | skip => rfl
    | rejectJson =>
        simp [Except.map, CollectionRunContext.timeless, RejectedStoryRecord.timeless,
          Rejection.record]
    | ok => rcases decodeItem loads (result.body.getD []) result.sourceId with e | _ | observation <;> rfl

theorem considerItem_timeless (now : PyDatetime) (context : CollectionRunContext K)
    (item : String × RawObservation) :
    (considerItem lib render host now context item).map CollectionRunContext.timeless =
      considerItem lib render host noTime context.timeless item := by
  rw [considerItem, considerItem]
  cases parseItem item.2 with
  | skip => rfl
  | rejectDeleted =>
      dsimp only
      cases deepFreezeMapping host item.2 with
      | error e => rfl
      | ok u =>
          simp [Except.map, CollectionRunContext.timeless, RejectedStoryRecord.timeless,
            Rejection.record, except_ok_bind, pure, Except.pure]
  | story =>
      rw [normalize, normalize]
      rcases normalizeFields lib render item.2 with (r | name) | fields
      · simp [Except.map, CollectionRunContext.timeless, RejectedStoryRecord.timeless, Rejection.record]
      · rfl
      · simp [Except.map, CollectionRunContext.timeless, StoryRecord.timeless, StoryFields.draft]

theorem dedupe_timeless (seen : List String) (drafts : List (StoryRecord K)) :
    dedupe seen (drafts.map StoryRecord.timeless) =
      ((dedupe seen drafts).1.map StoryRecord.timeless,
        (dedupe seen drafts).2.map RejectedStoryRecord.timeless) := by
  induction drafts generalizing seen with
  | nil => rfl
  | cons draft drafts ih =>
      rw [List.map_cons]
      by_cases hseen : draft.sourceId ∈ seen
      · have hseen' : draft.timeless.sourceId ∈ seen := hseen
        rw [dedupe_of_mem hseen', dedupe_of_mem hseen, ih]
        rfl
      · have hseen' : draft.timeless.sourceId ∉ seen := hseen
        have hrest := ih (draft.sourceId :: seen)
        rw [dedupe_of_not_mem hseen', dedupe_of_not_mem hseen]
        show (draft.timeless :: (dedupe (draft.sourceId :: seen) _).1,
          (dedupe (draft.sourceId :: seen) _).2) = _
        rw [hrest]
        rfl

theorem exactRanking_timeless (weights : ScoringWeights ℚ) (stories : List (StoryRecord ℚ)) :
    exactRanking weights (stories.map StoryRecord.timeless) =
      (exactRanking weights stories).map StoryRecord.timeless := by
  have href : referencePublishedAt (stories.map StoryRecord.timeless) =
      referencePublishedAt stories := by
    rw [referencePublishedAt, List.filterMap_map]
    rfl
  let forget (item : StoryRecord ℚ × ℚ) : StoryRecord ℚ × ℚ := (item.1.timeless, item.2)
  have hitems : (stories.map StoryRecord.timeless).map
        (exactItem weights (referencePublishedAt stories)) =
      (stories.map (exactItem weights (referencePublishedAt stories))).map forget := by
    rw [List.map_map, List.map_map]
    rfl
  rw [exactRanking, href, hitems, sortBy_map (f := forget) fun _ => rfl, exactRanking, List.map_map,
    List.map_map]
  rfl

theorem upTo_map {α β : Type} (f : α → β) (n : ℤ) (xs : List α) :
    upTo n (xs.map f) = (upTo n xs).map f := by
  rw [upTo, upTo, List.map_take, List.length_map]

/-- The log lines of the rejections have no times of theirs. -/
theorem emitRejectionsSampled_timeless (rejections : List RejectedStoryRecord) :
    emitRejectionsSampled host (rejections.map RejectedStoryRecord.timeless) =
      emitRejectionsSampled host rejections := by
  rw [emitRejectionsSampled, emitRejectionsSampled, ← List.map_take, List.forM_eq_forM, List.forM_map,
    List.length_map]
  rfl

theorem buildResult_timeless (clock : Clock) (fetchedCount duplicateCount : ℕ)
    (stories candidates : List (StoryRecord ℚ)) (rejected : List RejectedStoryRecord) :
    (buildResult host clock fetchedCount duplicateCount stories candidates rejected).map
        CollectionResult.timeless =
      buildResult host noClock fetchedCount duplicateCount (stories.map StoryRecord.timeless)
        (candidates.map StoryRecord.timeless) (rejected.map RejectedStoryRecord.timeless) := by
  have hstories : ∀ stories : List (StoryRecord ℚ),
      (stories.map StoryRecord.timeless).map StoryRecord.rawObservation =
        stories.map StoryRecord.rawObservation := fun _ => List.map_map
  have hrejected : (rejected.map RejectedStoryRecord.timeless).map RejectedStoryRecord.rawObservation =
      rejected.map RejectedStoryRecord.rawObservation := List.map_map
  simp only [buildResult, hstories, hrejected, List.length_map, except_map_bind]
  rfl

theorem finishRun_timeless (clock : Clock) (config : CollectionConfig ℚ)
    (context : CollectionRunContext ℚ) :
    (finishRun exactArithmetic host clock config context).map CollectionResult.timeless =
      finishRun exactArithmetic host noClock config context.timeless := by
  simp only [finishRun, rank_exact, CollectionRunContext.timeless, dedupe_timeless,
    exactRanking_timeless, upTo_map, ← List.map_append, emitRejectionsSampled_timeless,
    except_map_bind, buildResult_timeless, List.length_map]

/-- Timestamps aside, a run does not depend on the clock. -/
theorem processItems_timeless (clock : Clock) (config : CollectionConfig ℚ)
    (results : List ItemFetchResult) :
    (processItems loads lib render exactArithmetic host clock config results).map
        CollectionResult.timeless =
      processItems loads lib render exactArithmetic host noClock config results := by
  have hreceived : (receiveItems loads clock results).map CollectionRunContext.timeless =
      receiveItems (K := ℚ) loads noClock results :=
    foldlM_map (fun context item => receiveItem_timeless loads _ context item.1) {} _
  rw [processItems, processItems, ← hreceived]
  cases receiveItems loads clock results with
  | error e => rfl
  | ok received =>
      have hconsidered : (considerItems lib render host clock received).map
            CollectionRunContext.timeless =
          considerItems lib render host noClock received.timeless :=
        foldlM_map (fun context item => considerItem_timeless lib render host _ context item.1) _ _
      show Except.map _ (considerItems lib render host clock received >>= _) =
        considerItems lib render host noClock received.timeless >>= _
      rw [← hconsidered]
      cases considerItems lib render host clock received with
      | error e => rfl
      | ok context => exact finishRun_timeless host clock config context

theorem collectStories_timeless (client : HackerNewsClient) (clock : Clock)
    (config : CollectionConfig ℚ) :
    (collectStories loads lib render exactArithmetic host client clock config).map
        CollectionResult.timeless =
      collectStories loads lib render exactArithmetic host client noClock config := by
  rw [collectStories, collectStories]
  cases client.fetchTopStoryIds with
  | error e => rfl
  | ok feed =>
      show Except.map _ (client.fetchItems _ >>= _) = client.fetchItems _ >>= _
      cases client.fetchItems (upTo (computePoolSize config.candidateCount) feed) with
      | error e => rfl
      | ok results => exact processItems_timeless loads lib render host clock config results

end Timeless

/-! ### What a collection depends on -/

/-- The order in which the threads complete makes no difference to the client. -/
theorem defaultHackerNewsClient_schedule (loads : Bytes → Except LoadsError Json)
    (feed : Except HttpException Response) (get : ℕ → StoryId → Except HttpException Response)
    (schedule schedule' : Schedule) :
    defaultHackerNewsClient loads feed get schedule =
      defaultHackerNewsClient loads feed get schedule' := by
  have hitems : ∀ storyIds : List StoryId,
      fetchAll get storyIds (schedule.order storyIds.length) =
        fetchAll get storyIds (schedule'.order storyIds.length) :=
    fun storyIds => fetchAll_perm get storyIds
      ((schedule.perm storyIds.length).trans (schedule'.perm storyIds.length).symm)
  simp only [defaultHackerNewsClient, hitems]

/-- **A ranking depends on the stories alone**: not on their order, so that a story that gains
does not fall back, and a collection, timestamps aside, not on the order in which the threads
complete. -/
theorem collection_determined :
    (∀ (weights : ScoringWeights ℚ) (stories stories' : List (StoryRecord ℚ)) (candidateCount : ℤ),
      (stories.map StoryRecord.sourceId).Nodup → stories.Perm stories' →
        rank exactArithmetic stories candidateCount weights =
          rank exactArithmetic stories' candidateCount weights) ∧
    (∀ (weights : ScoringWeights ℚ) (before after : List (StoryRecord ℚ))
        (story raised : StoryRecord ℚ) (candidateCount : ℤ),
      ((before ++ story :: after).map StoryRecord.sourceId).Nodup → Raised story raised →
        0 ≤ weights.weightScore → 0 ≤ weights.weightComments →
          ∃ ranked ranked',
            rank exactArithmetic (before ++ story :: after) candidateCount weights =
              some (ranked, upTo candidateCount ranked) ∧
            rank exactArithmetic (before ++ raised :: after) candidateCount weights =
              some (ranked', upTo candidateCount ranked') ∧
            position story.sourceId ranked' ≤ position story.sourceId ranked) ∧
    (∀ (get : ℕ → StoryId → Except HttpException Response) (storyIds : List StoryId)
        (schedule schedule' : Schedule),
      fetchAll get storyIds (schedule.order storyIds.length) =
        fetchAll get storyIds (schedule'.order storyIds.length)) ∧
    (∀ (loads : Bytes → Except LoadsError Json) (lib : Urllib) (render : Json → String) (host : Host)
        (feed : Except HttpException Response) (get : ℕ → StoryId → Except HttpException Response)
        (config : CollectionConfig ℚ) (clock clock' : Clock) (schedule schedule' : Schedule),
      (collectStories loads lib render exactArithmetic host
          (defaultHackerNewsClient loads feed get schedule) clock config).map
          CollectionResult.timeless =
        (collectStories loads lib render exactArithmetic host
          (defaultHackerNewsClient loads feed get schedule') clock' config).map
          CollectionResult.timeless) := by
  refine ⟨?order, ?raised, ?fetched, ?collected⟩
  case order =>
    intro weights stories stories' candidateCount hids hperm
    exact rank_perm hids hperm candidateCount
  case raised =>
    intro weights before after story raised candidateCount hids hraised hscore hcomments
    exact ⟨_, _, rank_exact _ _, rank_exact _ _, position_raised hids hraised hscore hcomments⟩
  case fetched =>
    intro get storyIds schedule schedule'
    exact fetchAll_perm get storyIds
      ((schedule.perm storyIds.length).trans (schedule'.perm storyIds.length).symm)
  case collected =>
    intro loads lib render host feed get config clock clock' schedule schedule'
    rw [defaultHackerNewsClient_schedule loads feed get schedule schedule',
      collectStories_timeless, collectStories_timeless]

/-- A story with a score. -/
def scoredStory (sourceId : String) (score : ℤ) : StoryRecord ℚ where
  sourceId
  collectedAt := noTime
  rawObservation := []
  title := some "t"
  score := some score

theorem collection_determined_two :
    rank exactArithmetic [scoredStory "a" 1, scoredStory "b" 2] 1 ⟨1, 1, 1⟩ =
      rank exactArithmetic [scoredStory "b" 2, scoredStory "a" 1] 1 ⟨1, 1, 1⟩ ∧
    ∃ ranked ranked',
      rank exactArithmetic ([scoredStory "a" 1] ++ [scoredStory "b" 0]) 1 ⟨1, 1, 1⟩ =
        some (ranked, upTo 1 ranked) ∧
      rank exactArithmetic ([scoredStory "a" 1] ++ [scoredStory "b" 2]) 1 ⟨1, 1, 1⟩ =
        some (ranked', upTo 1 ranked') ∧
      position "b" ranked' ≤ position "b" ranked :=
  ⟨collection_determined.1 ⟨1, 1, 1⟩ _ _ 1 (by decide) (List.Perm.swap _ _ []),
    collection_determined.2.1 ⟨1, 1, 1⟩ [scoredStory "a" 1] [] (scoredStory "b" 0)
      (scoredStory "b" 2) 1 (by decide) ⟨by decide, le_rfl, rfl⟩ zero_le_one zero_le_one⟩

end Collector

end CartoonDemo
