import CartoonDemo.Collector.Ranker
import CartoonDemo.Library.PyDouble

/-!
# CartoonDemo.Collector.FloatRanker

The **ranking in floats**. A rank score may be nan, of a weight that is nan or of a sum of opposite
infinities; nan is in no order to any float, so a list of two stories and more with a nan among
their scores is in no order at all, however it is sorted (`pairwise_sort_iff`).
-/

namespace CartoonDemo

namespace Collector

open PyFloat

/-- `a == b` of floats. -/
def floatEq (a b : PyFloat) : Bool := a.le b && b.le a

/-- `a <= b` of tuples: the first components that are not equal decide. -/
def tupleLe (a b : PyFloat × String) : Bool := if floatEq a.1 b.1 then a.2 ≤ b.2 else a.1.le b.1

/-- `a < b`. -/
def tupleLt (a b : PyFloat × String) : Bool := if floatEq a.1 b.1 then a.2 < b.2 else a.1.lt b.1

/-- The sort key `(-rank_score, source_id)`. -/
def rankTuple (item : StoryRecord PyFloat × PyFloat) : PyFloat × String :=
  (item.2.neg, item.1.sourceId)

/-- `sorted` with that key: a permutation, in order where no score is nan. The order that it leaves
where comparisons contradict each other is not specified. -/
structure PySorted where
  sort : List (StoryRecord PyFloat × PyFloat) → List (StoryRecord PyFloat × PyFloat)
  perm : ∀ items, (sort items).Perm items
  ordered : ∀ items, (∀ item ∈ items, item.2 ≠ nan) →
    (sort items).Pairwise fun a b => tupleLe (rankTuple a) (rankTuple b)

/-- `1.0 / (1.0 + max(0.0, timedelta.total_seconds() / 3600.0))`, of microseconds. -/
def floatRecency (age : ℤ) : PyFloat :=
  let hours := (ofRat (age / 1000000)).div (finite 3600)
  let ageHours := if zero.lt hours then hours else zero
  (finite 1).div ((finite 1).add ageHours)

/-- Floats. -/
def floatArithmetic (sorted : PySorted) : RankArithmetic PyFloat where
  zero := zero
  ofInt := PyFloat.ofInt
  add := PyFloat.add
  mul := PyFloat.mul
  recency := floatRecency
  sorted := sorted.sort
  defaultWeights := ⟨finite 1, finite (1 / 2), ofRat (3 / 10)⟩

/-! ### The order of the keys

A comparison of tuples with a nan in it is false both ways.
-/

theorem tupleLe_nan_left (x : PyFloat) (s t : String) : tupleLe (nan, s) (x, t) = false := by
  rw [tupleLe, floatEq, nan_le]
  rfl

theorem tupleLe_nan_right (x : PyFloat) (s t : String) : tupleLe (x, s) (nan, t) = false := by
  rw [tupleLe, floatEq, le_nan]
  rfl

/-- The key in a linear order. -/
def tupleRank (a : PyFloat × String) : WithBot (WithTop ℚ) ×ₗ String := toLex (rankOf a.1, a.2)

theorem floatEq_iff {x y : PyFloat} (hx : x ≠ nan) (hy : y ≠ nan) :
    floatEq x y = true ↔ rankOf x = rankOf y := by
  rw [floatEq, Bool.and_eq_true, ← rankOf_le_iff hx hy, ← rankOf_le_iff hy hx]
  exact ⟨fun h => le_antisymm h.1 h.2, fun h => ⟨h.le, h.ge⟩⟩

theorem tupleLe_iff {a b : PyFloat × String} (ha : a.1 ≠ nan) (hb : b.1 ≠ nan) :
    tupleLe a b = true ↔ tupleRank a ≤ tupleRank b := by
  have heq := floatEq_iff ha hb
  rw [tupleRank, tupleRank, Prod.Lex.toLex_le_toLex, tupleLe]
  by_cases hsame : rankOf a.1 = rankOf b.1
  · rw [if_pos (heq.mpr hsame)]
    simp [hsame]
  · rw [if_neg fun h => hsame (heq.mp h), ← rankOf_le_iff ha hb]
    simp [hsame, lt_iff_le_and_ne]

theorem not_tupleLt_iff {a b : PyFloat × String} (ha : a.1 ≠ nan) (hb : b.1 ≠ nan) :
    (!tupleLt b a) = true ↔ tupleRank a ≤ tupleRank b := by
  have heq := floatEq_iff hb ha
  have hlt : b.1.lt a.1 = true ↔ rankOf b.1 < rankOf a.1 := by
    rw [PyFloat.lt, Bool.and_eq_true, ← rankOf_le_iff hb ha, Bool.not_eq_true',
      ← Bool.not_eq_true, ← rankOf_le_iff ha hb]
    exact (lt_iff_le_not_ge).symm
  rw [← not_lt, Bool.not_eq_true', ← Bool.not_eq_true, not_iff_not, tupleRank, tupleRank,
    Prod.Lex.toLex_lt_toLex, tupleLt]
  by_cases hsame : rankOf b.1 = rankOf a.1
  · rw [if_pos (heq.mpr hsame)]
    simp [hsame]
  · rw [if_neg fun h => hsame (heq.mp h), hlt]
    simp [hsame]

/-! ### A sort by insertion

What the sort guarantees where all keys can be compared.
-/

/-- Before which items an item is inserted: those that are not smaller. -/
def beforeItem (a b : StoryRecord PyFloat × PyFloat) : Prop := (!tupleLt (rankTuple b) (rankTuple a)) = true

instance (a b : StoryRecord PyFloat × PyFloat) : Decidable (beforeItem a b) :=
  inferInstanceAs (Decidable (_ = true))

/-- Items whose scores are no nan. -/
abbrev Comparable := { item : StoryRecord PyFloat × PyFloat // item.2 ≠ nan }

theorem rankTuple_ne_nan (item : Comparable) : (rankTuple item.val).1 ≠ nan := fun h =>
  item.property (neg_eq_nan_iff.mp h)

/-- The insertion sort with Python's comparisons. -/
def PySorted.insertion : PySorted where
  sort items := items.insertionSort beforeItem
  perm := List.perm_insertionSort beforeItem
  ordered := by
    intro items h
    lift items to List Comparable using h
    let key (item : Comparable) : WithBot (WithTop ℚ) ×ₗ String := tupleRank (rankTuple item.val)
    have hsort : (items.map Subtype.val).insertionSort beforeItem =
        (insertBy key items).map Subtype.val :=
      (List.map_insertionSort _ _ Subtype.val items fun a _ b _ =>
        (not_tupleLt_iff (rankTuple_ne_nan a) (rankTuple_ne_nan b)).symm).symm
    rw [hsort, List.pairwise_map]
    exact (insertBy_pairwise key items).imp fun h =>
      (tupleLe_iff (rankTuple_ne_nan _) (rankTuple_ne_nan _)).mpr h

/-! ### When the ranked list is in order -/

/-- **With a nan there is no order.** -/
theorem pairwise_sort_iff (sorted : PySorted) (items : List (StoryRecord PyFloat × PyFloat)) :
    ((sorted.sort items).Pairwise fun a b => tupleLe (rankTuple a) (rankTuple b)) ↔
      items.length ≤ 1 ∨ ∀ item ∈ items, item.2 ≠ nan := by
  have hperm := sorted.perm items
  constructor
  · intro hsorted
    by_contra hnot
    rw [not_or] at hnot
    obtain ⟨hmany, hnan⟩ := hnot
    simp only [not_forall, not_not] at hnan
    obtain ⟨item, hitem, hnan⟩ := hnan
    obtain ⟨before, after, hsplit⟩ := List.append_of_mem (hperm.mem_iff.mpr hitem)
    have hlength : (before ++ item :: after).length = items.length := hsplit ▸ hperm.length_eq
    rw [hsplit, List.pairwise_append, List.pairwise_cons] at hsorted
    obtain ⟨-, ⟨hafter, -⟩, hbefore⟩ := hsorted
    have hkey : rankTuple item = (nan, item.1.sourceId) := by rw [rankTuple, hnan, neg_nan]
    cases after with
    | cons other after =>
        have hle := hafter other List.mem_cons_self
        rw [hkey, tupleLe_nan_left] at hle
        cases hle
    | nil =>
        cases before with
        | nil =>
            rw [List.nil_append, List.length_singleton] at hlength
            exact hmany hlength.ge
        | cons other before =>
            have hle := hbefore other List.mem_cons_self item List.mem_cons_self
            rw [hkey, tupleLe_nan_right] at hle
            cases hle
  · rintro (hfew | hclean)
    · rw [← hperm.length_eq] at hfew
      cases hsort : sorted.sort items with
      | nil => exact .nil
      | cons item rest =>
          rw [hsort, List.length_cons, Nat.succ_le_succ_iff, Nat.le_zero, List.length_eq_zero_iff] at hfew
          rw [hfew]
          exact List.pairwise_singleton _ item
    · exact sorted.ordered items hclean

/-! ### When a rank score is nan -/

/-- No term is nan, and no infinity meets the opposite one in the sum. -/
structure Summable (weights : ScoringWeights PyFloat) (score comments recency : PyFloat) : Prop where
  scoreTerm : weights.weightScore.mul score ≠ nan
  commentsTerm : weights.weightComments.mul comments ≠ nan
  recencyTerm : weights.weightRecency.mul recency ≠ nan
  first : ¬ Opposite (weights.weightScore.mul score) (weights.weightComments.mul comments)
  second : ¬ Opposite ((weights.weightScore.mul score).add (weights.weightComments.mul comments))
    (weights.weightRecency.mul recency)

/-- A score or a number of comments as a float. -/
def floatSignal (value : Option ℤ) : PyFloat := (value.bind PyFloat.ofInt).getD zero

/-- The weights add up the numbers of the story. -/
def SummableStory (sorted : PySorted) (weights : ScoringWeights PyFloat) (reference : Option ℤ)
    (story : StoryRecord PyFloat) : Prop :=
  Summable weights (floatSignal story.score) (floatSignal story.commentCount)
    (recencySignal (floatArithmetic sorted) story.publishedAt reference)

theorem signal_float {sorted : PySorted} {value : Option ℤ} {x : PyFloat}
    (h : signal (floatArithmetic sorted) value = some x) : x = floatSignal value := by
  cases value with
  | none => exact (Option.some.inj h).symm
  | some n =>
      have hx : PyFloat.ofInt n = some x := h
      rw [floatSignal, Option.bind_some, hx]
      rfl

theorem computeRankScore_ne_nan_iff {sorted : PySorted} {weights : ScoringWeights PyFloat}
    {reference : Option ℤ} {story : StoryRecord PyFloat} {x : PyFloat}
    (h : computeRankScore (floatArithmetic sorted) story weights reference = some x) :
    x ≠ nan ↔ SummableStory sorted weights reference story := by
  rw [computeRankScore] at h
  obtain ⟨score, hscore, h⟩ := Option.bind_eq_some_iff.mp h
  obtain ⟨comments, hcomments, h⟩ := Option.bind_eq_some_iff.mp h
  obtain rfl := Option.some.inj h
  rw [signal_float hscore, signal_float hcomments, SummableStory]
  show PyFloat.add (PyFloat.add (PyFloat.mul _ _) (PyFloat.mul _ _)) (PyFloat.mul _ _) ≠ nan ↔ _
  rw [ne_eq, add_eq_nan_iff, add_eq_nan_iff, not_or, not_or, not_or, not_or]
  constructor
  · rintro ⟨⟨hs, hc, hfirst⟩, hr, hsecond⟩
    exact ⟨hs, hc, hr, hfirst, hsecond⟩
  · rintro ⟨hs, hc, hr, hfirst, hsecond⟩
    exact ⟨⟨hs, hc, hfirst⟩, hr, hsecond⟩

end Collector

end CartoonDemo
