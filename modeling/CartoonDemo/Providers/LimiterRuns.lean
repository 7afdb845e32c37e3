import CartoonDemo.Providers.RateLimit

/-!
# CartoonDemo.Providers.LimiterRuns

The **runs of one rate limiter** (`providers/rate_limit.py`): a sequence of `acquire` calls at
readings of a clock that does not go back. The bucket of the limiter is the one of
`CartoonDemo.Library.TokenBucket`, and what holds of the bucket holds of the calls
(`limiter_sound`).
-/

namespace CartoonDemo

namespace ClientRateLimiter

/-- The calls of a run, with the time and the success of each, and the limiter after them. -/
def run : ClientRateLimiter → List ℚ → List (ℚ × Bool) × ClientRateLimiter
  | limiter, [] => ([], limiter)
  | limiter, now :: times =>
      let (admitted, next) := limiter.acquire now
      let (calls, last) := run next times
      ((now, admitted) :: calls, last)

theorem run_cons (limiter : ClientRateLimiter) (now : ℚ) (times : List ℚ) :
    limiter.run (now :: times) =
      ((now, (limiter.acquire now).1) :: ((limiter.acquire now).2.run times).1,
        ((limiter.acquire now).2.run times).2) := rfl

/-- The successful calls are the admitted requests of the bucket. -/
theorem run_admitted (b : TokenBucket ℚ) (times : List ℚ) :
    (((ClientRateLimiter.mk (some b)).run times).1.filter Prod.snd).map Prod.fst =
      b.admitted times := by
  induction times generalizing b with
  | nil => rfl
  | cons now times ih =>
      rw [run_cons, TokenBucket.admitted, ← ih (b.acquire now).2]
      show List.map Prod.fst (List.filter Prod.snd ((now, (b.acquire now).1) :: _)) = _
      cases (b.acquire now).1 <;> rfl

/-- Every call of a run is made at its time. -/
theorem run_times (limiter : ClientRateLimiter) (times : List ℚ) :
    (limiter.run times).1.map Prod.fst = times := by
  induction times generalizing limiter with
  | nil => rfl
  | cons now times ih =>
      rw [run_cons, List.map_cons, ih]

/-- The bucket of a limit, at any point of a run. -/
structure LimiterBucket (limit : ℤ) (last : ℚ) (b : TokenBucket ℚ) : Prop where
  capacity : b.capacity = limit
  rate : b.rate = limit / 60
  valid : b.Valid
  last : b.last = last

theorem LimiterBucket.acquire {limit : ℤ} {last now : ℚ} {b : TokenBucket ℚ}
    (h : LimiterBucket limit last b) (hnow : last ≤ now) :
    LimiterBucket limit now (b.acquire now).2 where
  capacity := (b.acquire_capacity now).trans h.capacity
  rate := (b.acquire_rate now).trans h.rate
  valid := (h.valid.acquire (h.last.trans_le hnow)).1
  last := b.acquire_last now

/-- A run keeps the bucket of the limit. -/
theorem LimiterBucket.run {limit : ℤ} {last : ℚ} {b : TokenBucket ℚ}
    (h : LimiterBucket limit last b) {times : List ℚ} (hsorted : (last :: times).Pairwise (· ≤ ·)) :
    ∃ b', ((ClientRateLimiter.mk (some b)).run times).2 = ⟨some b'⟩ ∧
      LimiterBucket limit ((last :: times).getLast (List.cons_ne_nil _ _)) b' := by
  induction times generalizing last b with
  | nil => exact ⟨b, rfl, h⟩
  | cons now times ih =>
      obtain ⟨hlast, hrest⟩ := List.pairwise_cons.mp hsorted
      obtain ⟨b', hrun, hb'⟩ := ih (h.acquire (hlast now List.mem_cons_self)) hrest
      refine ⟨b', hrun, ?_⟩
      rw [List.getLast_cons (List.cons_ne_nil _ _)]
      exact hb'

/-- A new limiter has the bucket of its limit. -/
theorem limiterBucket_create {limit : ℤ} (hlimit : 0 < limit) (start : ℚ) :
    ∃ b, create (some limit) start = ⟨some b⟩ ∧ LimiterBucket limit start b := by
  have hnonneg : (0 : ℚ) ≤ limit := Int.cast_nonneg hlimit.le
  refine ⟨{ capacity := limit, rate := limit / 60, tokens := limit, last := start }, ?_, rfl, rfl,
    ⟨hnonneg, le_refl _, div_nonneg hnonneg (by norm_num)⟩, rfl⟩
  rw [create]
  exact if_neg (not_le.mpr hlimit)

/-- The successful calls of an interval. -/
def successesBetween (calls : List (ℚ × Bool)) (start stop : ℚ) : List (ℚ × Bool) :=
  calls.filter fun call => call.2 && (decide (start ≤ call.1) && decide (call.1 ≤ stop))

theorem length_successesBetween (b : TokenBucket ℚ) (times : List ℚ) (start stop : ℚ) :
    (successesBetween ((ClientRateLimiter.mk (some b)).run times).1 start stop).length =
      (b.admittedBetween times start stop).length := by
  rw [TokenBucket.admittedBetween, ← run_admitted, List.filter_map, List.length_map,
    List.filter_filter, successesBetween]
  congr 1
  refine List.filter_congr fun call _ => ?_
  simp [Bool.and_comm]

/-- The tokens that a limiter has at a time, with those that have accrued. -/
def available (limit : ℤ) (b : TokenBucket ℚ) (now : ℚ) : ℚ :=
  min limit (b.tokens + (now - b.last) * (limit / 60))

/-- **The limiter is sound.** After any calls it owes no tokens and has no more than the limit, it
refuses a call only for want of a token, and when it has not been asked for a minute it admits
as many calls as the limit says; and in no interval it has admitted more than the limit and what
accrues. -/
theorem limiter_sound {limit : ℤ} (hlimit : 0 < limit) {start : ℚ} {times : List ℚ}
    (hsorted : (start :: times).Pairwise (· ≤ ·)) :
    (∃ b, ((create (some limit) start).run times).2 = ⟨some b⟩ ∧
      b.last = (start :: times).getLast (List.cons_ne_nil _ _) ∧ 0 ≤ b.tokens ∧ b.tokens ≤ limit ∧
      (∀ now, b.last ≤ now → ((ClientRateLimiter.mk (some b)).acquire now).1 = false →
        available limit b now < 1) ∧
      ∀ now later, b.last + 60 ≤ now → (now :: later).Pairwise (· ≤ ·) →
        ((now :: later).length : ℤ) = limit →
          ∀ call ∈ ((ClientRateLimiter.mk (some b)).run (now :: later)).1, call.2 = true) ∧
    ∀ since until_, since ≤ until_ →
      ((successesBetween ((create (some limit) start).run times).1 since until_).length : ℚ) ≤
        limit + (until_ - since) * limit / 60 := by
  obtain ⟨b₀, hcreate, hb₀⟩ := limiterBucket_create hlimit start
  obtain ⟨b, hrun, hb⟩ := hb₀.run hsorted
  rw [hcreate]
  refine ⟨⟨b, hrun, hb.last, hb.valid.nonneg, hb.capacity ▸ hb.valid.le_capacity, ?_, ?_⟩, ?_⟩
  · intro now hnow hrefused
    have hfew := TokenBucket.lt_one_of_refused (b := b) hrefused
    have htokens : (b.refill now).tokens = available limit b now := by
      show min b.capacity (b.tokens + max 0 (now - b.last) * b.rate) = _
      rw [available, hb.capacity, hb.rate, max_eq_right (sub_nonneg.mpr hnow)]
    rwa [← htokens]
  · intro now later hidle hlater hlength
    have hpos : (0 : ℚ) < limit := Int.cast_pos.mpr hlimit
    have hfill : b.capacity ≤ b.rate * (now - b.last) := by
      rw [hb.capacity, hb.rate]
      have h60 : 60 ≤ now - b.last := by linarith
      calc (limit : ℚ) = limit / 60 * 60 := by ring
        _ ≤ limit / 60 * (now - b.last) :=
          mul_le_mul_of_nonneg_left h60 (div_nonneg hpos.le (by norm_num))
    have hmany : ((now :: later).length : ℚ) ≤ b.capacity := by
      rw [hb.capacity, ← hlength]
      exact (Int.cast_natCast _).ge
    have hall := hb.valid.admitted_after_idle hlater (by linarith) hfill hmany
    -- as many calls succeed as are made
    have hcalls := congrArg List.length ((run_admitted b (now :: later)).trans hall)
    rw [List.length_map] at hcalls
    have htimes := congrArg List.length (run_times ⟨some b⟩ (now :: later))
    rw [List.length_map] at htimes
    exact List.length_filter_eq_length_iff.mp (hcalls.trans htimes.symm)
  · intro since until_ hle
    rw [length_successesBetween]
    have hafter : ∀ t ∈ times, b₀.last ≤ t := by
      rw [hb₀.last]
      exact (List.pairwise_cons.mp hsorted).1
    have hbound := TokenBucket.length_admitted_between_le hb₀.valid
      (List.pairwise_cons.mp hsorted).2 hafter hle
    rw [hb₀.capacity, hb₀.rate] at hbound
    calc ((b₀.admittedBetween times since until_).length : ℚ)
        ≤ limit + limit / 60 * (until_ - since) := hbound
      _ = limit + (until_ - since) * limit / 60 := by ring

theorem limiter_sound_two :
    ∃ b, ((create (some 2) 0).run [0, 1, 1]).2 = ⟨some b⟩ ∧ 0 ≤ b.tokens ∧ b.tokens ≤ 2 := by
  obtain ⟨⟨b, hrun, -, hnonneg, hle, -⟩, -⟩ :=
    @limiter_sound 2 (by decide) 0 [0, 1, 1] (by simp)
  exact ⟨b, hrun, hnonneg, by exact_mod_cast hle⟩

end ClientRateLimiter

end CartoonDemo
