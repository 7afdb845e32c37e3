import CartoonDemo.Agents.Types
import CartoonDemo.Collector.Types

/-!
# CartoonDemo.Worker.StoredStories

The **stored form of a collection**: what `_serialize_collection_result` of the collecting stage
writes and `map_story_records_to_candidates` of the selecting stage reads. The candidates come
back in order, with all they had but the rank score, which is read and never written
(`storedCandidates_reload`); so they come back unchanged only where there was none
(`candidates_unchanged_iff`).

`render` stands for Python's `str` of a value that is not a string, `parseFloat` for `float` of a
text.
-/

namespace CartoonDemo

open Agents Collector

variable (render : Json → String) (parseFloat : String → Option PyFloat)

/-- A value that may be `None`, as JSON has it. -/
def Json.ofOption {α : Type} (value : α → Json) : Option α → Json
  | some a => value a
  | none => .null

/-- `_story_snapshot`. -/
def storySnapshot (story : StoryRecord PyFloat) : Json :=
  .obj
    [("source_id", .str story.sourceId),
     ("title", .ofOption .str story.title),
     ("url", .ofOption .str story.url),
     ("score", .ofOption .int story.score),
     ("comment_count", .ofOption .int story.commentCount)]

/-- A rejected story in the artifact. -/
def rejectedSnapshot (item : RejectedStoryRecord) : Json :=
  .obj
    [("source_id", .str item.sourceId),
     ("reason_code", .str item.reasonCode.value),
     ("reason_detail", .str item.reasonDetail)]

/-- `_serialize_collection_result`. -/
def serializeCollectionResult (result : CollectionResult PyFloat) : List (String × Json) :=
  [("collected_at", .str (String.ofList result.completedAt.isoformat)),
   ("stats", .obj
     [("fetched_count", .int result.stats.fetchedCount),
      ("accepted_count", .int result.stats.acceptedCount),
      ("rejected_count", .int result.stats.rejectedCount),
      ("candidate_count", .int result.stats.candidateCount)]),
   ("stories", .arr (result.stories.map storySnapshot)),
   ("candidates", .arr (result.candidates.map storySnapshot)),
   ("rejected", .arr (result.rejected.map rejectedSnapshot))]

/-- `convert(value) if value is not None else None`; the outer `none` is an exception. -/
def Json.convert {α : Type} (convert : Json → Option α) : Json → Option (Option α)
  | .null => some none
  | value => (convert value).map some

/-- The candidate of an entry that is an object. -/
def candidateFromEntry (entry : List (String × Json)) : Option CandidateStory := do
  let score ← (Json.get entry "score").convert Json.toInt
  let commentCount ← (Json.get entry "comment_count").convert Json.toInt
  let rankScore ← (Json.get entry "rank_score").convert (Json.toFloat parseFloat)
  return {
    sourceId := Json.strOf render entry "source_id" ""
    title := Json.get entry "title"
    url := Json.get entry "url"
    score, commentCount, rankScore }

/-- The candidates of a list of entries; an entry that is no object is passed over. -/
def candidatesFromEntries : List Json → Option (List CandidateStory)
  | [] => some []
  | .obj entry :: entries => do
      let candidate ← candidateFromEntry render parseFloat entry
      let candidates ← candidatesFromEntries entries
      return candidate :: candidates
  | _ :: entries => candidatesFromEntries entries

/-- `map_story_records_to_candidates`; `none` is an exception. -/
def mapStoryRecordsToCandidates (content : List (String × Json)) : Option (List CandidateStory) :=
  match (content.lookup "candidates").getD (.arr []) with
  | .arr entries => candidatesFromEntries render parseFloat entries
  | _ => some []

/-- The candidate that a story is meant to be for the topic selector. -/
def candidateOfStory (story : StoryRecord PyFloat) : CandidateStory where
  sourceId := story.sourceId
  title := .ofOption .str story.title
  url := .ofOption .str story.url
  score := story.score
  commentCount := story.commentCount
  rankScore := story.rankScore

/-! ### What comes back

The snapshot drops the rank score, and the stories are read back without it.
-/

theorem convert_ofOption_int (n : Option ℤ) :
    (Json.ofOption .int n).convert Json.toInt = some n := by
  cases n with
  | none => rfl
  | some n => rfl

/-- Everything that is written of a story is read back. -/
theorem candidateFromEntry_snapshot (story : StoryRecord PyFloat) :
    ∃ entry, storySnapshot story = .obj entry ∧
      candidateFromEntry render parseFloat entry =
        some { candidateOfStory story with rankScore := none } := by
  refine ⟨_, rfl, ?_⟩
  rw [candidateFromEntry]
  show (((Json.ofOption .int story.score).convert Json.toInt).bind fun score =>
    ((Json.ofOption .int story.commentCount).convert Json.toInt).bind fun commentCount =>
      some _) = some _
  rw [convert_ofOption_int, convert_ofOption_int]
  rfl

theorem candidatesFromEntries_map (stories : List (StoryRecord PyFloat)) :
    candidatesFromEntries render parseFloat (stories.map storySnapshot) =
      some (stories.map fun story => { candidateOfStory story with rankScore := none }) := by
  induction stories with
  | nil => rfl
  | cons story stories ih =>
      obtain ⟨entry, hentry, hread⟩ := candidateFromEntry_snapshot render parseFloat story
      rw [List.map_cons, hentry, candidatesFromEntries, hread, ih]
      rfl

/-- Stored and reloaded, the candidates have lost their rank scores and nothing else. -/
theorem storedCandidates_reload (r : CollectionResult PyFloat) :
    mapStoryRecordsToCandidates render parseFloat (serializeCollectionResult r) =
      some (r.candidates.map fun story => { candidateOfStory story with rankScore := none }) :=
  candidatesFromEntries_map render parseFloat r.candidates

/-- The candidates reach the topic selector as they were collected. -/
def CandidatesUnchanged (r : CollectionResult PyFloat) : Prop :=
  mapStoryRecordsToCandidates render parseFloat (serializeCollectionResult r) =
    some (r.candidates.map candidateOfStory)

/-- **Candidates reach the selector unchanged** when none of them was ranked. -/
theorem candidates_unchanged_iff (r : CollectionResult PyFloat) :
    CandidatesUnchanged render parseFloat r ↔ ∀ story ∈ r.candidates, story.rankScore = none := by
  rw [CandidatesUnchanged, storedCandidates_reload, Option.some.injEq, List.map_inj_left]
  constructor
  · intro h story hstory
    exact (congrArg CandidateStory.rankScore (h story hstory)).symm
  · intro h story hstory
    have hrank := h story hstory
    rw [candidateOfStory, hrank]

/-- A story with rank score 1. -/
def rankedStory : StoryRecord PyFloat where
  sourceId := "1"
  collectedAt := .ofUtc 0 PyDatetime.wallLimit_pos
  rawObservation := []
  rankScore := some (.finite 1)

/-- A collection of that story. -/
def rankedCollection : CollectionResult PyFloat where
  startedAt := .ofUtc 0 PyDatetime.wallLimit_pos
  completedAt := .ofUtc 0 PyDatetime.wallLimit_pos
  stories := [rankedStory]
  candidates := [rankedStory]
  rejected := []
  stats := ⟨1, 1, 0, 0, 1⟩

/-- The rank score of a stored candidate is lost. -/
theorem rank_score_lost :
    ¬ CandidatesUnchanged (fun _ => "None") (fun _ => none) rankedCollection := by
  intro h
  rw [CandidatesUnchanged, storedCandidates_reload, Option.some.injEq, List.map_inj_left] at h
  have hrank := congrArg CandidateStory.rankScore (h rankedStory (List.mem_singleton.mpr rfl))
  exact absurd hrank (by decide)

end CartoonDemo
