import Mathlib.Algebra.Order.Field.Basic
import Mathlib.Data.List.Pairwise
import Mathlib.Tactic.Linarith
import Mathlib.Tactic.Ring

/-!
# CartoonDemo.Library.TokenBucket

A **token bucket** over an ordered field: it holds at most `capacity` tokens, gains `rate` of
them in a unit of time, and a request takes one token or is refused.

Three facts are derived about the requests that one bucket admits. Those that fall into an
interval of length `d` number at most `capacity + rate * d`
(`length_admitted_between_le`), wherever the interval lies. And of a burst on a full bucket
exactly the first `capacity` are admitted (`length_admitted_burst`), so the bound is attained
by every bucket on its own. After the time that it takes to fill it, it admits its capacity in
requests, whenever they come (`Valid.admitted_after_idle`).
-/

namespace CartoonDemo

universe u

/-- A bucket, and the time at which its tokens were counted last. -/
structure TokenBucket (K : Type u) where
  capacity : K
  rate : K
  tokens : K
  last : K
  deriving DecidableEq, Repr

namespace TokenBucket

variable {K : Type u} [Field K] [LinearOrder K]

/-- Add what has accrued since the last look. -/
def refill (b : TokenBucket K) (now : K) : TokenBucket K :=
  { b with tokens := min b.capacity (b.tokens + max 0 (now - b.last) * b.rate), last := now }

/-- One request: whether it is admitted, and the bucket after it. -/
def acquire (b : TokenBucket K) (now : K) : Bool × TokenBucket K :=
  let b := b.refill now
  if 1 ≤ b.tokens then (true, { b with tokens := b.tokens - 1 }) else (false, b)

/-- The times of the admitted requests. -/
def admitted : TokenBucket K → List K → List K
  | _, [] => []
  | b, t :: ts =>
      (if (b.acquire t).1 then [t] else []) ++ admitted (b.acquire t).2 ts

/-- The admitted requests in a closed interval. -/
def admittedBetween (b : TokenBucket K) (ts : List K) (start stop : K) : List K :=
  (b.admitted ts).filter (fun t => start ≤ t ∧ t ≤ stop)

/-- No tokens are owed, none are above the capacity, and tokens do not vanish with time. -/
structure Valid (b : TokenBucket K) : Prop where
  nonneg : 0 ≤ b.tokens
  le_capacity : b.tokens ≤ b.capacity
  rate_nonneg : 0 ≤ b.rate

/-! ### One request -/

@[simp] theorem refill_capacity (b : TokenBucket K) (now : K) :
    (b.refill now).capacity = b.capacity := rfl

@[simp] theorem refill_rate (b : TokenBucket K) (now : K) : (b.refill now).rate = b.rate := rfl

@[simp] theorem refill_last (b : TokenBucket K) (now : K) : (b.refill now).last = now := rfl

@[simp] theorem acquire_capacity (b : TokenBucket K) (now : K) :
    (b.acquire now).2.capacity = b.capacity := by
  unfold acquire; dsimp only; split <;> rfl

@[simp] theorem acquire_rate (b : TokenBucket K) (now : K) :
    (b.acquire now).2.rate = b.rate := by
  unfold acquire; dsimp only; split <;> rfl

@[simp] theorem acquire_last (b : TokenBucket K) (now : K) : (b.acquire now).2.last = now := by
  unfold acquire; dsimp only; split <;> rfl

theorem admitted_mem {b : TokenBucket K} {ts : List K} {t : K} (h : t ∈ b.admitted ts) :
    t ∈ ts := by
  induction ts generalizing b with
  | nil => exact absurd h (by simp [admitted])
  | cons u ts ih =>
      rcases List.mem_append.mp h with h | h
      · split at h
        · rw [List.mem_singleton.mp h]
          exact List.mem_cons_self
        · exact absurd h (by simp)
      · exact List.mem_cons_of_mem _ (ih h)

/-- Requests come in order, so nothing is admitted before the first of them. -/
theorem le_of_mem_admitted {b : TokenBucket K} {t : K} {ts : List K}
    (hsorted : (t :: ts).Pairwise (· ≤ ·)) {u : K} (hu : u ∈ b.admitted (t :: ts)) : t ≤ u := by
  rcases List.mem_cons.mp (admitted_mem hu) with rfl | hmem
  · exact le_refl u
  · exact (List.pairwise_cons.mp hsorted).1 u hmem

variable [IsStrictOrderedRing K]

/-- The bucket is never emptier than its tokens, and never fuller than their sum. -/
theorem Valid.refill {b : TokenBucket K} (h : b.Valid) {now : K} (hnow : b.last ≤ now) :
    (b.refill now).Valid ∧ (b.refill now).tokens ≤ b.tokens + b.rate * (now - b.last) := by
  have hgain : max 0 (now - b.last) * b.rate = b.rate * (now - b.last) := by
    rw [max_eq_right (sub_nonneg.mpr hnow), mul_comm]
  have hpos : 0 ≤ b.rate * (now - b.last) := mul_nonneg h.rate_nonneg (sub_nonneg.mpr hnow)
  have htokens : (b.refill now).tokens = min b.capacity (b.tokens + b.rate * (now - b.last)) := by
    rw [← hgain]
    rfl
  refine ⟨⟨?_, ?_, h.rate_nonneg⟩, ?_⟩
  · rw [htokens]
    exact le_min (h.nonneg.trans h.le_capacity) (add_nonneg h.nonneg hpos)
  · rw [htokens]
    exact min_le_left _ _
  · rw [htokens]
    exact min_le_right _ _

/-- **One request**: an admitted one takes a token of those that have accrued. -/
theorem Valid.acquire {b : TokenBucket K} (h : b.Valid) {now : K} (hnow : b.last ≤ now) :
    (b.acquire now).2.Valid ∧
      (b.acquire now).2.tokens + (if (b.acquire now).1 then 1 else 0) ≤
        b.tokens + b.rate * (now - b.last) := by
  obtain ⟨hvalid, hle⟩ := h.refill hnow
  unfold TokenBucket.acquire
  dsimp only
  by_cases htok : 1 ≤ (b.refill now).tokens
  · rw [if_pos htok]
    refine ⟨⟨sub_nonneg.mpr htok, ?_, hvalid.rate_nonneg⟩, ?_⟩
    · exact (sub_le_self _ zero_le_one).trans hvalid.le_capacity
    · simpa using hle
  · rw [if_neg htok]
    exact ⟨hvalid, by simpa using hle⟩

omit [IsStrictOrderedRing K] in
/-- A request is refused only where there is less than one token. -/
theorem lt_one_of_refused {b : TokenBucket K} {now : K} (h : (b.acquire now).1 = false) :
    (b.refill now).tokens < 1 := by
  rw [TokenBucket.acquire] at h
  split at h
  · cases h
  · next hfew => exact not_le.mp hfew

/-- After the time that it takes to fill it, a bucket is full. -/
theorem Valid.refill_full {b : TokenBucket K} (h : b.Valid) {now : K} (hnow : b.last ≤ now)
    (hidle : b.capacity ≤ b.rate * (now - b.last)) : (b.refill now).tokens = b.capacity := by
  have hgain : max 0 (now - b.last) * b.rate = b.rate * (now - b.last) := by
    rw [max_eq_right (sub_nonneg.mpr hnow), mul_comm]
  show min b.capacity (b.tokens + max 0 (now - b.last) * b.rate) = b.capacity
  rw [hgain]
  exact min_eq_left (le_add_of_nonneg_of_le h.nonneg hidle)

/-- As many requests as there are tokens are all admitted, whenever they come. -/
theorem Valid.admitted_eq_self {b : TokenBucket K} (h : b.Valid) {ts : List K}
    (hsorted : ts.Pairwise (· ≤ ·)) (hlast : ∀ t ∈ ts, b.last ≤ t)
    (htokens : (ts.length : K) ≤ b.tokens) : b.admitted ts = ts := by
  induction ts generalizing b with
  | nil => rfl
  | cons t ts ih =>
      have hcons := List.pairwise_cons.mp hsorted
      have ht : b.last ≤ t := hlast t List.mem_cons_self
      rw [List.length_cons, Nat.cast_succ] at htokens
      -- nothing is lost by looking
      have hkeep : b.tokens ≤ (b.refill t).tokens :=
        le_min h.le_capacity (le_add_of_nonneg_right
          (mul_nonneg (le_max_left _ _) h.rate_nonneg))
      have hone : 1 ≤ (b.refill t).tokens :=
        le_trans (le_add_of_nonneg_left (Nat.cast_nonneg _)) (htokens.trans hkeep)
      have hacquire : b.acquire t =
          (true, { b.refill t with tokens := (b.refill t).tokens - 1 }) := by
        rw [TokenBucket.acquire]
        exact if_pos hone
      have hrest : (b.acquire t).2.admitted ts = ts := by
        refine ih (h.acquire ht).1 hcons.2 (by simpa using hcons.1) ?_
        rw [hacquire]
        exact le_sub_iff_add_le.mpr (htokens.trans hkeep)
      rw [admitted, hrest, hacquire]
      rfl

/-! ### Intervals

Between two moments no more is admitted than was in the bucket and has flowed in.
-/

/-- What a bucket admits up to a time is covered by its tokens and what accrues. -/
theorem length_admitted_until_le {b : TokenBucket K} (h : b.Valid) {ts : List K}
    (hsorted : ts.Pairwise (· ≤ ·)) (hlast : ∀ t ∈ ts, b.last ≤ t) {stop : K}
    (hstop : b.last ≤ stop) :
    (((b.admitted ts).filter (fun t => t ≤ stop)).length : K) ≤
      b.tokens + b.rate * (stop - b.last) := by
  induction ts generalizing b with
  | nil =>
      have hpos := mul_nonneg h.rate_nonneg (sub_nonneg.mpr hstop)
      simpa [admitted] using add_nonneg h.nonneg hpos
  | cons t ts ih =>
      have hcons := List.pairwise_cons.mp hsorted
      have ht : b.last ≤ t := hlast t List.mem_cons_self
      obtain ⟨hvalid, hle⟩ := h.acquire ht
      by_cases hts : t ≤ stop
      · have hrest := ih hvalid hcons.2 (by simpa using hcons.1) (by simpa using hts)
        rw [acquire_rate, acquire_last] at hrest
        have hhead : (((if (b.acquire t).1 then [t] else []).filter
            (fun t => t ≤ stop)).length : K) = if (b.acquire t).1 then 1 else 0 := by
          cases (b.acquire t).1 <;> simp [hts]
        rw [admitted, List.filter_append, List.length_append, Nat.cast_add, hhead]
        calc _ ≤ (if (b.acquire t).1 then (1 : K) else 0) +
              ((b.acquire t).2.tokens + b.rate * (stop - t)) := by linarith
          _ ≤ b.tokens + b.rate * (t - b.last) + b.rate * (stop - t) := by linarith
          _ = b.tokens + b.rate * (stop - b.last) := by ring
      · -- the first request is past the end already, and so are the others
        have hnone : (b.admitted (t :: ts)).filter (fun t => t ≤ stop) = [] := by
          refine List.filter_eq_nil_iff.mpr fun u hu => ?_
          simpa using lt_of_lt_of_le (not_le.mp hts) (le_of_mem_admitted hsorted hu)
        have hpos := mul_nonneg h.rate_nonneg (sub_nonneg.mpr hstop)
        rw [hnone]
        simpa using add_nonneg h.nonneg hpos

/-- Looking twice at the same time is looking once. -/
theorem acquire_refill {b : TokenBucket K} (h : b.Valid) {now : K} (hnow : b.last ≤ now) :
    (b.refill now).acquire now = b.acquire now := by
  have hvalid := (h.refill hnow).1
  have htwice : (b.refill now).refill now = b.refill now := by
    unfold TokenBucket.refill at hvalid ⊢
    simp only [sub_self, max_self, zero_mul, add_zero] at hvalid ⊢
    rw [min_eq_right hvalid.le_capacity]
  unfold TokenBucket.acquire
  rw [htwice]

/-- **The rate limit.** Whatever the interval, a bucket admits no more requests in it than its
capacity and what accrues during the interval. -/
theorem length_admitted_between_le {b : TokenBucket K} (h : b.Valid) {ts : List K}
    (hsorted : ts.Pairwise (· ≤ ·)) (hlast : ∀ t ∈ ts, b.last ≤ t) {start stop : K}
    (hstop : start ≤ stop) :
    ((b.admittedBetween ts start stop).length : K) ≤ b.capacity + b.rate * (stop - start) := by
  induction ts generalizing b with
  | nil =>
      have hpos := mul_nonneg h.rate_nonneg (sub_nonneg.mpr hstop)
      simpa [admittedBetween, admitted] using add_nonneg (h.nonneg.trans h.le_capacity) hpos
  | cons t ts ih =>
      have hcons := List.pairwise_cons.mp hsorted
      have ht : b.last ≤ t := hlast t List.mem_cons_self
      by_cases hstart : t < start
      · -- before the interval: the bucket goes on, as full as it may be
        have hrest := ih (h.acquire ht).1 hcons.2 (by simpa using hcons.1)
        rw [acquire_capacity, acquire_rate] at hrest
        have hskip : b.admittedBetween (t :: ts) start stop =
            (b.acquire t).2.admittedBetween ts start stop := by
          have hhead : (if (b.acquire t).1 then [t] else []).filter
              (fun t => start ≤ t ∧ t ≤ stop) = [] := by
            cases (b.acquire t).1 <;> simp [hstart]
          unfold admittedBetween
          rw [admitted, List.filter_append, hhead, List.nil_append]
        rw [hskip]
        exact hrest
      · -- from the first request in the interval on, the tokens of a full bucket are enough
        rw [not_lt] at hstart
        obtain ⟨hvalid, -⟩ := h.refill ht
        have hmono : b.rate * (stop - t) ≤ b.rate * (stop - start) :=
          mul_le_mul_of_nonneg_left (by linarith) h.rate_nonneg
        have hsame : b.admitted (t :: ts) = (b.refill t).admitted (t :: ts) := by
          rw [admitted, admitted, acquire_refill h ht]
        by_cases hts : t ≤ stop
        · have huntil := length_admitted_until_le hvalid hsorted
            (by simpa using hcons.1) (by simpa using hts)
          have hsub : ((b.admittedBetween (t :: ts) start stop).length : K) ≤
              (((b.refill t).admitted (t :: ts)).filter (fun t => t ≤ stop)).length := by
            unfold admittedBetween
            rw [hsame]
            rw [← List.countP_eq_length_filter, ← List.countP_eq_length_filter]
            refine Nat.cast_le.mpr (List.countP_mono_left fun u _ hu => ?_)
            have hu : start ≤ u ∧ u ≤ stop := by simpa using hu
            simpa using hu.2
          have hcap := hvalid.le_capacity
          rw [refill_rate, refill_last] at huntil
          rw [refill_capacity] at hcap
          linarith
        · have hnone : b.admittedBetween (t :: ts) start stop = [] := by
            refine List.filter_eq_nil_iff.mpr fun u hu => ?_
            have hlt : stop < u :=
              lt_of_lt_of_le (not_le.mp hts) (le_of_mem_admitted hsorted hu)
            simpa using fun _ => hlt
          have hpos := mul_nonneg h.rate_nonneg (sub_nonneg.mpr hstop)
          rw [hnone]
          simpa using add_nonneg (h.nonneg.trans h.le_capacity) hpos

/-- After the time that it takes to fill a bucket, its capacity in requests is admitted. -/
theorem Valid.admitted_after_idle {b : TokenBucket K} (h : b.Valid) {t : K} {ts : List K}
    (hsorted : (t :: ts).Pairwise (· ≤ ·)) (hlast : b.last ≤ t)
    (hidle : b.capacity ≤ b.rate * (t - b.last))
    (hlength : ((t :: ts).length : K) ≤ b.capacity) : b.admitted (t :: ts) = t :: ts := by
  have hsame : b.admitted (t :: ts) = (b.refill t).admitted (t :: ts) := by
    rw [admitted, admitted, acquire_refill h hlast]
  rw [hsame]
  refine (h.refill hlast).1.admitted_eq_self hsorted (fun u hu => ?_) ?_
  · rcases List.mem_cons.mp hu with rfl | hu
    · exact le_refl u
    · exact (List.pairwise_cons.mp hsorted).1 u hu
  · rw [h.refill_full hlast hidle]
    exact hlength

/-! ### Bursts -/

/-- A burst at one time is admitted as long as there are tokens. -/
theorem length_admitted_burst {b : TokenBucket K} {k n : ℕ} (htokens : b.tokens = k)
    (hcapacity : b.tokens ≤ b.capacity) :
    (b.admitted (List.replicate n b.last)).length = min n k := by
  induction n generalizing b k with
  | zero => simp [admitted]
  | succ n ih =>
      have hrefill : b.refill b.last = b := by
        unfold TokenBucket.refill
        simp only [sub_self, max_self, zero_mul, add_zero, min_eq_right hcapacity]
      have hacquire : b.acquire b.last =
          if 1 ≤ b.tokens then (true, { b with tokens := b.tokens - 1 }) else (false, b) := by
        unfold TokenBucket.acquire
        rw [hrefill]
      rw [List.replicate_succ, admitted, hacquire]
      cases k with
      | zero =>
          have hnone : ¬ (1 : K) ≤ b.tokens := by
            rw [htokens, Nat.cast_zero]
            exact not_le.mpr zero_lt_one
          rw [if_neg hnone]
          have hrest := ih htokens hcapacity
          simpa using hrest
      | succ k =>
          have hsome : (1 : K) ≤ b.tokens := by
            rw [htokens, Nat.cast_succ]
            exact le_add_of_nonneg_left (Nat.cast_nonneg k)
          rw [if_pos hsome]
          have hrest := @ih { b with tokens := b.tokens - 1 } k
            (by simp [htokens]) ((sub_le_self _ zero_le_one).trans hcapacity)
          rw [List.length_append]
          simp only [hrest, if_true, List.length_singleton]
          omega

end TokenBucket

end CartoonDemo
