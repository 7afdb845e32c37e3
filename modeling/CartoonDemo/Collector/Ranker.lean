import Mathlib.Data.Prod.Lex
import Mathlib.Data.String.Basic
import CartoonDemo.Collector.Types
import CartoonDemo.Library.SortBy

/-!
# CartoonDemo.Collector.Ranker

The **ranking of the stories** (`collector/ranker.py`): a weighted sum of the score, the number of
comments and the recency, relative to the newest story of the batch. The numbers are those of an
arithmetic, exact or not; a float conversion may overflow.

In exact arithmetic, the ranked list depends on the stories alone (`rank_perm`), and a story whose
score or number of comments is raised does not fall back (`position_raised`).
-/

namespace CartoonDemo

namespace Collector

structure ScoringWeights (K : Type) where
  weightScore : K
  weightComments : K
  weightRecency : K

/-- `CollectionScoringConfig`. -/
structure CollectionScoringConfig (K : Type) where
  weightScore : Option K
  weightComments : Option K
  weightRecency : Option K

/-- What the ranking does with numbers. -/
structure RankArithmetic (K : Type) where
  zero : K
  /-- `float(n)`; `none` is an `OverflowError`. -/
  ofInt : ℤ → Option K
  add : K → K → K
  mul : K → K → K
  /-- `1.0 / (1.0 + max(0.0, age / 3600.0))`, of an age in microseconds. -/
  recency : ℤ → K
  /-- `sorted` by `(-rank_score, source_id)`. -/
  sorted : List (StoryRecord K × K) → List (StoryRecord K × K)
  /-- `1.0`, `0.5` and `0.3`. -/
  defaultWeights : ScoringWeights K

section Rank

variable {K : Type} (ar : RankArithmetic K)

/-- `ScoringWeightsResolver.resolve`. -/
def resolveWeights : Option (CollectionScoringConfig K) → ScoringWeights K
  | none => ar.defaultWeights
  | some scoring =>
      { weightScore := scoring.weightScore.getD ar.zero
        weightComments := scoring.weightComments.getD ar.zero
        weightRecency := scoring.weightRecency.getD ar.zero }

/-- `xs[:n]`. -/
def upTo {α : Type} (n : ℤ) (xs : List α) : List α :=
  xs.take (if 0 ≤ n then n.toNat else xs.length - n.natAbs)

/-- `_reference_published_at`, as an instant. -/
def referencePublishedAt (stories : List (StoryRecord K)) : Option ℤ :=
  (stories.filterMap fun story => story.publishedAt.map PyDatetime.instant).max?

/-- `float(value) if value is not None else 0.0`. -/
def signal : Option ℤ → Option K
  | some n => ar.ofInt n
  | none => some ar.zero

/-- `_recency_signal`. -/
def recencySignal (publishedAt : Option PyDatetime) (reference : Option ℤ) : K :=
  match publishedAt, reference with
  | some published, some reference => ar.recency (reference - published.instant)
  | _, _ => ar.zero

/-- `_compute_rank_score`. -/
def computeRankScore (story : StoryRecord K) (weights : ScoringWeights K) (reference : Option ℤ) :
    Option K := do
  let scoreSig ← signal ar story.score
  let commentSig ← signal ar story.commentCount
  let recencySig := recencySignal ar story.publishedAt reference
  return ar.add
    (ar.add (ar.mul weights.weightScore scoreSig) (ar.mul weights.weightComments commentSig))
    (ar.mul weights.weightRecency recencySig)

/-- The stories with their rank scores. -/
def scoreStories (stories : List (StoryRecord K)) (weights : ScoringWeights K) (reference : Option ℤ) :
    Option (List (StoryRecord K × K)) :=
  stories.mapM fun story => do
    let rankScore ← computeRankScore ar story weights reference
    return ({ story with rankScore := some rankScore }, rankScore)

/-- `StoryRanker.rank`; `none` is an `OverflowError`. -/
def rank (stories : List (StoryRecord K)) (candidateCount : ℤ) (weights : ScoringWeights K) :
    Option (List (StoryRecord K) × List (StoryRecord K)) := do
  let scored ← scoreStories ar stories weights (referencePublishedAt stories)
  let ranked := (ar.sorted scored).map Prod.fst
  return (ranked, upTo candidateCount ranked)

end Rank

/-! ### Exact arithmetic -/

/-- The sort key of a story with a rational rank score. -/
def rankKey (item : StoryRecord ℚ × ℚ) : Lex (ℚ × String) := toLex (-item.2, item.1.sourceId)

/-- Rational numbers. -/
def exactArithmetic : RankArithmetic ℚ where
  zero := 0
  ofInt n := some n
  add := (· + ·)
  mul := (· * ·)
  recency age := 1 / (1 + max 0 ((age : ℚ) / 3600000000))
  sorted := sortBy rankKey
  defaultWeights := ⟨1, 1 / 2, 3 / 10⟩

section Exact

variable {weights : ScoringWeights ℚ}

/-- A value that may be `None`, as a number. -/
def signalOf (value : Option ℤ) : ℚ := ((value.getD 0 : ℤ) : ℚ)

/-- The exact rank score. -/
def exactScore (weights : ScoringWeights ℚ) (reference : Option ℤ) (story : StoryRecord ℚ) : ℚ :=
  weights.weightScore * signalOf story.score + weights.weightComments * signalOf story.commentCount +
    weights.weightRecency * recencySignal exactArithmetic story.publishedAt reference

theorem computeRankScore_exact (story : StoryRecord ℚ) (reference : Option ℤ) :
    computeRankScore exactArithmetic story weights reference = some (exactScore weights reference story) := by
  have hsignal : ∀ value, signal exactArithmetic value = some (signalOf value) := by
    intro value
    cases value with
    | none => rfl
    | some n => rfl
  rw [computeRankScore, hsignal, hsignal]
  rfl

/-- A story with its exact rank score. -/
def exactItem (weights : ScoringWeights ℚ) (reference : Option ℤ) (story : StoryRecord ℚ) :
    StoryRecord ℚ × ℚ :=
  ({ story with rankScore := some (exactScore weights reference story) },
    exactScore weights reference story)

theorem scoreStories_exact (stories : List (StoryRecord ℚ)) (reference : Option ℤ) :
    scoreStories exactArithmetic stories weights reference =
      some (stories.map (exactItem weights reference)) := by
  rw [scoreStories]
  induction stories with
  | nil => rfl
  | cons story stories ih =>
      rw [List.mapM_cons, ih, computeRankScore_exact]
      rfl

/-- The ranked list. -/
def exactRanking (weights : ScoringWeights ℚ) (stories : List (StoryRecord ℚ)) : List (StoryRecord ℚ) :=
  (sortBy rankKey (stories.map (exactItem weights (referencePublishedAt stories)))).map Prod.fst

/-- In exact arithmetic, the ranking never fails. -/
theorem rank_exact (stories : List (StoryRecord ℚ)) (candidateCount : ℤ) :
    rank exactArithmetic stories candidateCount weights =
      some (exactRanking weights stories, upTo candidateCount (exactRanking weights stories)) := by
  rw [rank, scoreStories_exact]
  rfl

theorem referencePublishedAt_perm {K : Type} {stories stories' : List (StoryRecord K)}
    (h : stories.Perm stories') : referencePublishedAt stories = referencePublishedAt stories' := by
  rw [referencePublishedAt, referencePublishedAt]
  have hperm := h.filterMap fun story => story.publishedAt.map PyDatetime.instant
  refine Option.ext fun newest => ?_
  rw [List.max?_eq_some_iff, List.max?_eq_some_iff, hperm.mem_iff]
  exact and_congr_right fun _ => forall_congr' fun _ => by rw [hperm.mem_iff]

/-- Distinct identifiers make distinct keys. -/
theorem distinctKeys_of_nodup {stories : List (StoryRecord ℚ)} {reference : Option ℤ}
    (h : (stories.map StoryRecord.sourceId).Nodup) :
    DistinctKeys rankKey (stories.map (exactItem weights reference)) := by
  rw [DistinctKeys, List.map_map]
  refine List.Nodup.of_map (fun key : Lex (ℚ × String) => (ofLex key).2) ?_
  rw [List.map_map]
  exact h

theorem exactRanking_perm {stories stories' : List (StoryRecord ℚ)}
    (hids : (stories.map StoryRecord.sourceId).Nodup) (h : stories.Perm stories') :
    exactRanking weights stories = exactRanking weights stories' := by
  rw [exactRanking, exactRanking, ← referencePublishedAt_perm h,
    sortBy_eq_of_perm (distinctKeys_of_nodup hids) (h.map _)]

/-- **Ranking depends only on the stories**, not on their order. -/
theorem rank_perm {stories stories' : List (StoryRecord ℚ)}
    (hids : (stories.map StoryRecord.sourceId).Nodup) (h : stories.Perm stories') (candidateCount : ℤ) :
    rank exactArithmetic stories candidateCount weights =
      rank exactArithmetic stories' candidateCount weights := by
  rw [rank_exact, rank_exact, exactRanking_perm hids h]

/-! ### Raising a story

More points, comments or a later time do not move a story back.
-/

/-- Where a story stands in a list. -/
def position (sourceId : String) (stories : List (StoryRecord ℚ)) : ℕ :=
  stories.findIdx fun story => story.sourceId = sourceId

/-- The position of a story is the number of stories whose key is smaller. -/
theorem position_exactRanking {stories : List (StoryRecord ℚ)}
    (hids : (stories.map StoryRecord.sourceId).Nodup) {story : StoryRecord ℚ} (hmem : story ∈ stories) :
    position story.sourceId (exactRanking weights stories) =
      stories.countP fun other =>
        rankKey (exactItem weights (referencePublishedAt stories) other) <
          rankKey (exactItem weights (referencePublishedAt stories) story) := by
  let item := exactItem weights (referencePublishedAt stories)
  have hdistinct : DistinctKeys rankKey (stories.map item) := distinctKeys_of_nodup hids
  have hitem : item story ∈ stories.map item := List.mem_map_of_mem hmem
  have hsame : ∀ x ∈ sortBy rankKey (stories.map item),
      decide (x.1.sourceId = story.sourceId) = decide (rankKey x = rankKey (item story)) := by
    intro x hx
    obtain ⟨other, hother, rfl⟩ := List.mem_map.mp ((sortBy_perm rankKey _).mem_iff.mp hx)
    refine decide_eq_decide.mpr ⟨fun hid => ?_, fun hkey => congrArg (fun key => (ofLex key).2) hkey⟩
    rw [List.inj_on_of_nodup_map hids hother hmem hid]
  calc position story.sourceId (exactRanking weights stories)
      = (sortBy rankKey (stories.map item)).findIdx fun x => decide (x.1.sourceId = story.sourceId) := by
        rw [position, exactRanking, List.findIdx_map]
        rfl
    _ = (sortBy rankKey (stories.map item)).findIdx fun x => decide (rankKey x = rankKey (item story)) :=
        findIdx_congr hsame
    _ = (stories.map item).countP fun x => rankKey x < rankKey (item story) :=
        findIdx_sortBy hdistinct hitem
    _ = _ := List.countP_map

/-- Another score and another number of comments, neither of them lower. -/
structure Raised (story raised : StoryRecord ℚ) : Prop where
  score : signalOf story.score ≤ signalOf raised.score
  commentCount : signalOf story.commentCount ≤ signalOf raised.commentCount
  rest : raised = { story with score := raised.score, commentCount := raised.commentCount }

theorem Raised.exactScore_le {story raised : StoryRecord ℚ} (h : Raised story raised)
    (hscore : 0 ≤ weights.weightScore) (hcomments : 0 ≤ weights.weightComments)
    (reference : Option ℤ) :
    exactScore weights reference story ≤ exactScore weights reference raised := by
  have hpublished : raised.publishedAt = story.publishedAt := by rw [h.rest]
  rw [exactScore, exactScore, hpublished]
  have := mul_le_mul_of_nonneg_left h.score hscore
  have := mul_le_mul_of_nonneg_left h.commentCount hcomments
  linarith

/-- A raised story has a smaller key, or the same. -/
theorem Raised.rankKey_le {story raised : StoryRecord ℚ} (h : Raised story raised)
    (hscore : 0 ≤ weights.weightScore) (hcomments : 0 ≤ weights.weightComments)
    (reference : Option ℤ) :
    rankKey (exactItem weights reference raised) ≤ rankKey (exactItem weights reference story) := by
  have hid : raised.sourceId = story.sourceId := by rw [h.rest]
  have hle := h.exactScore_le hscore hcomments reference
  rw [rankKey, rankKey, Prod.Lex.le_iff]
  rcases lt_or_eq_of_le hle with hlt | heq
  · exact Or.inl (neg_lt_neg hlt)
  · exact Or.inr ⟨congrArg Neg.neg heq.symm, hid.le⟩

/-- **A raised story does not fall back.** -/
theorem position_raised {before after : List (StoryRecord ℚ)} {story raised : StoryRecord ℚ}
    (hids : ((before ++ story :: after).map StoryRecord.sourceId).Nodup) (h : Raised story raised)
    (hscore : 0 ≤ weights.weightScore) (hcomments : 0 ≤ weights.weightComments) :
    position story.sourceId (exactRanking weights (before ++ raised :: after)) ≤
      position story.sourceId (exactRanking weights (before ++ story :: after)) := by
  have hid : raised.sourceId = story.sourceId := by rw [h.rest]
  have hpublished : raised.publishedAt = story.publishedAt := by rw [h.rest]
  have hids' : ((before ++ raised :: after).map StoryRecord.sourceId).Nodup := by
    rw [List.map_append, List.map_cons, hid, ← List.map_cons (f := StoryRecord.sourceId),
      ← List.map_append]
    exact hids
  have href : referencePublishedAt (before ++ raised :: after) =
      referencePublishedAt (before ++ story :: after) := by
    simp only [referencePublishedAt, List.filterMap_append, List.filterMap_cons, hpublished]
  rw [position_exactRanking hids (List.mem_append_right _ List.mem_cons_self), ← hid,
    position_exactRanking hids' (List.mem_append_right _ List.mem_cons_self), href]
  have hkey := h.rankKey_le hscore hcomments (referencePublishedAt (before ++ story :: after))
  simp only [List.countP_append, List.countP_cons, lt_self_iff_false, decide_false,
    Bool.false_eq_true, if_false, Nat.add_zero]
  refine Nat.add_le_add (List.countP_mono_left ?_) (List.countP_mono_left ?_) <;>
    exact fun other _ hlt => decide_eq_true (lt_of_lt_of_le (of_decide_eq_true hlt) hkey)

end Exact

end Collector

end CartoonDemo
