import CartoonDemo.Providers.Generate

/-!
# CartoonDemo.Providers.GenerateRuns

**What a provider guarantees to any number of threads.** Each call reaches the vendor at most once,
and only with a token of the limiter; a `ProviderError` is reported exactly once, a response exactly
once, any other exception never, where telemetry does not raise one of its own; and an answer that
comes after the deadline is not returned. So, in whatever order the threads proceed, the vendor is
never called more often than the limit admits (`generate_runs`).
-/

namespace CartoonDemo

open VendorErrorMapper

namespace BaseRemoteProvider

/-! ### What is read off the calls of one thread

The assertions are about the calls that one thread has made so far.
-/

def isVendorCall (e : ProviderEvent) : Bool := e.call.isComplete

/-- The limiter has given a token. -/
def isGrant : ProviderEvent → Bool
  | ⟨.acquire, .ok _⟩ => true
  | _ => false

/-- The reports, in their order. -/
def reports (t : List ProviderEvent) : List ProviderCall := (t.map (·.call)).filter (·.isReport)

/-- The vendor has failed with a signal. -/
def VendorFailed (t : List ProviderEvent) (signal : VendorFailureSignal) : Prop :=
  ∃ request timeout, ⟨.complete request timeout, .error (.transport signal)⟩ ∈ t

/-- What telemetry, the clock and the limiter can answer. -/
def Possible : ProviderEvent → Prop
  | ⟨.acquire, .error e⟩ => ∃ error, e = .provider error ∧ error.type = .rateLimit
  | ⟨.monotonic, .error _⟩ => False
  | ⟨.callStarted _, .error e⟩ | ⟨.callFailed _ _ _ _, .error e⟩
  | ⟨.callCompleted _ _ _ _, .error e⟩ => ∃ className message, e = .other className message
  | _ => True

/-- No call of telemetry has raised. -/
def Told (t : List ProviderEvent) : Prop :=
  ∀ c e, ⟨c, .error e⟩ ∈ t → c.isTelemetry = false

section Sound

variable (p : BaseRemoteProvider) (request : ProviderRequest)

/-- What holds of a call of `generate` after the calls `t`, where `q` is left to do. -/
structure CallSound (t : List ProviderEvent) (q : ProviderProc) : Prop where
  vendor : t.countP isVendorCall ≤ t.countP isGrant
  once : t.countP isGrant ≤ 1
  pending : ∀ c k, q = .call c k → reports t = []
  raised : ∀ error, q = .raise (.provider error) →
    ∃ latency, reports t =
      [.callFailed request.model error latency (telemetryCorrelation request)]
  told : Told t ∨ ∃ className message, q = .raise (.other className message)
  unexpected : ∀ e, q = .raise e → (∀ error, e ≠ .provider error) → Told t → reports t = []
  mapped : ∀ signal e, VendorFailed t signal → q = .raise e → Told t →
    e = .provider (mapVendorFailure p.providerId signal)
  returned : ∀ response, q = .ret response →
    ∃ started entered checked answered ended result,
      t = [⟨.evaluate request, .ok ()⟩, ⟨.acquire, .ok ()⟩, ⟨.callStarted request.model, .ok ()⟩,
        ⟨.monotonic, .ok started⟩, ⟨.monotonic, .ok entered⟩, ⟨.monotonic, .ok checked⟩,
        ⟨.complete request p.budget, .ok result⟩, ⟨.monotonic, .ok answered⟩,
        ⟨.monotonic, .ok ended⟩,
        ⟨.callCompleted request.model response.latencyMs response.tokenUsage
          (telemetryCorrelation request), .ok ()⟩] ∧
      checked < entered + p.budget.overallDeadlineSeconds ∧
      answered < entered + p.budget.overallDeadlineSeconds ∧
      response = p.buildSuccess result (elapsedMs started ended)

/-- Nothing has been reported yet, and the vendor not been called without a token. -/
structure Quiet (t : List ProviderEvent) : Prop where
  vendor : t.countP isVendorCall ≤ t.countP isGrant
  once : t.countP isGrant ≤ 1
  reports : reports t = []
  told : Told t

variable {p request}

theorem told_nil : Told [] := by
  intro c e hmem
  cases hmem

theorem Told.snoc {t : List ProviderEvent} (h : Told t) {e : ProviderEvent}
    (he : ∀ x, e.answer = .error x → e.call.isTelemetry = false) : Told (t ++ [e]) := by
  intro c x hmem
  rcases List.mem_append.mp hmem with hmem | hmem
  · exact h c x hmem
  · obtain rfl := List.mem_singleton.mp hmem
    exact he x rfl

theorem Told.snoc_ok {t : List ProviderEvent} (h : Told t) (c : ProviderCall) (a : c.Answer) :
    Told (t ++ [⟨c, .ok a⟩]) :=
  h.snoc (by intro x hx; cases hx)

theorem Quiet.monotonic {t : List ProviderEvent} (h : Quiet t) (now : ℚ) :
    Quiet (t ++ [⟨.monotonic, .ok now⟩]) := by
  obtain ⟨hvendor, honce, hreports, htold⟩ := h
  refine ⟨?_, ?_, ?_, htold.snoc_ok _ _⟩
  · rw [List.countP_append, List.countP_append]
    exact hvendor
  · rw [List.countP_append]
    exact honce
  · rw [BaseRemoteProvider.reports, List.map_append, List.filter_append]
    exact congrArg (· ++ []) hreports

theorem Quiet.sound {t : List ProviderEvent} (h : Quiet t) (c : ProviderCall)
    (k : Except ProviderException c.Answer → ProviderProc) :
    CallSound p request t (.call c k) where
  vendor := h.vendor
  once := h.once
  pending := fun _ _ _ => h.reports
  raised := by intro _ hq; cases hq
  told := Or.inl h.told
  unexpected := by intro _ hq; cases hq
  mapped := by intro _ _ _ hq; cases hq
  returned := by intro _ hq; cases hq

/-- A call that telemetry ends. -/
theorem Quiet.untold {t : List ProviderEvent} (h : Quiet t) {c : ProviderCall}
    (hc : c.isTelemetry = true) (className message : String) :
    CallSound p request (t ++ [⟨c, .error (.other className message)⟩])
      (.raise (.other className message)) := by
  have hraised : ¬ Told (t ++ [⟨c, .error (.other className message)⟩]) := by
    intro htold
    have hno := htold c _ (List.mem_append_right _ (List.mem_singleton_self _))
    exact absurd (hno.symm.trans hc) (by simp)
  have hothers : isVendorCall ⟨c, .error (.other className message)⟩ = false ∧
      isGrant ⟨c, .error (.other className message)⟩ = false := by
    cases c <;> first | exact ⟨rfl, rfl⟩ | exact absurd hc (by simp [ProviderCall.isTelemetry])
  refine ⟨?_, ?_, ?_, ?_, Or.inr ⟨className, message, rfl⟩, ?_, ?_, ?_⟩
  · rw [List.countP_append, List.countP_append, List.countP_singleton, List.countP_singleton,
      hothers.1, hothers.2]
    exact h.vendor
  · rw [List.countP_append, List.countP_singleton, hothers.2]
    exact h.once
  · intro c k hq
    cases hq
  · intro error hq
    cases hq
  · exact fun e _ _ htold => absurd htold hraised
  · exact fun signal e _ _ htold => absurd htold hraised
  · intro response hq
    cases hq

/-- An exception that is not a `ProviderError` is not reported. -/
theorem Quiet.sound_raise {t : List ProviderEvent} (h : Quiet t) {e : ProviderException}
    (he : ∀ error, e ≠ .provider error) (hok : ∀ signal, ¬ VendorFailed t signal) :
    CallSound p request t (.raise e) where
  vendor := h.vendor
  once := h.once
  pending := by intro _ _ hq; cases hq
  raised := by intro error hq; cases hq; exact absurd rfl (he error)
  told := Or.inl h.told
  unexpected := fun _ _ _ _ => h.reports
  mapped := fun signal _ hfailed => absurd hfailed (hok signal)
  returned := by intro _ hq; cases hq

theorem VendorFailed.of_append {t t' : List ProviderEvent} {signal : VendorFailureSignal}
    (h : VendorFailed (t ++ t') signal) : VendorFailed t signal ∨ VendorFailed t' signal := by
  obtain ⟨request, timeout, hmem⟩ := h
  rcases List.mem_append.mp hmem with hmem | hmem
  · exact Or.inl ⟨request, timeout, hmem⟩
  · exact Or.inr ⟨request, timeout, hmem⟩

/-! ### The parts of `generate` -/

/-- An error is reported once, and raised. -/
theorem failed_always {t : List ProviderEvent} (h : Quiet t) {error : ProviderError} (latency : ℚ)
    (hmap : ∀ signal, VendorFailed t signal → error = mapVendorFailure p.providerId signal) :
    (failed request error latency).Always Possible (CallSound p request) t := by
  refine ⟨h.sound _ _, fun r hr => ?_⟩
  cases r with
  | error e =>
    obtain ⟨className, message, rfl⟩ := hr
    exact h.untold rfl className message
  | ok a =>
    have hreports : reports (t ++ [⟨.callFailed request.model error latency
        (telemetryCorrelation request), .ok a⟩]) =
        [.callFailed request.model error latency (telemetryCorrelation request)] := by
      rw [reports, List.map_append, List.filter_append]
      exact congrArg (· ++ _) h.reports
    refine ⟨?_, ?_, ?_, ?_, Or.inl (h.told.snoc_ok _ _), ?_, ?_, ?_⟩
    · rw [List.countP_append, List.countP_append]
      exact h.vendor
    · rw [List.countP_append]
      exact h.once
    · intro c k hq
      cases hq
    · intro error' hq
      cases hq
      exact ⟨latency, hreports⟩
    · intro e hq he
      cases hq
      exact absurd rfl (he error)
    · intro signal e hfailed hq _
      cases hq
      rcases hfailed.of_append with hfailed | ⟨request', timeout, hmem⟩
      · rw [hmap signal hfailed]
      · cases List.mem_singleton.mp hmem
    · intro response hq
      cases hq

theorem failedSince_always {t : List ProviderEvent} (h : Quiet t) {error : ProviderError}
    (started : ℚ)
    (hmap : ∀ signal, VendorFailed t signal → error = mapVendorFailure p.providerId signal) :
    (failedSince request started error).Always Possible (CallSound p request) t := by
  refine ⟨h.sound _ _, fun r hr => ?_⟩
  cases r with
  | error e => exact absurd hr id
  | ok now =>
    refine failed_always (h.monotonic now) _ fun signal hfailed => ?_
    rcases hfailed.of_append with hfailed | ⟨request', timeout, hmem⟩
    · exact hmap signal hfailed
    · cases List.mem_singleton.mp hmem

/-- After a check the deadline has not been reached. -/
theorem checkDeadline_always {t : List ProviderEvent} (h : Quiet t) (started deadline : ℚ)
    {rest : ProviderProc} (hok : ∀ signal, ¬ VendorFailed t signal)
    (hrest : ∀ now, now < deadline →
      rest.Always Possible (CallSound p request) (t ++ [⟨.monotonic, .ok now⟩])) :
    (p.checkDeadline request started deadline rest).Always Possible (CallSound p request) t := by
  refine ⟨h.sound _ _, fun r hr => ?_⟩
  cases r with
  | error e => exact absurd hr id
  | ok now =>
    show Proc.Always Possible _ _ (if deadline ≤ now then _ else rest)
    by_cases hlate : deadline ≤ now
    · rw [if_pos hlate]
      refine failedSince_always (h.monotonic now) _ fun signal hfailed => ?_
      rcases hfailed.of_append with hfailed | ⟨request', timeout, hmem⟩
      · exact absurd hfailed (hok signal)
      · cases List.mem_singleton.mp hmem
    · rw [if_neg hlate]
      exact hrest now (not_le.mp hlate)

/-- The calls of a thread before the vendor is called. -/
def admittedTrace (request : ProviderRequest) (started entered checked : ℚ) : List ProviderEvent :=
  [⟨.evaluate request, .ok ()⟩, ⟨.acquire, .ok ()⟩, ⟨.callStarted request.model, .ok ()⟩,
    ⟨.monotonic, .ok started⟩, ⟨.monotonic, .ok entered⟩, ⟨.monotonic, .ok checked⟩]

/-- The same with the answer of the vendor. -/
def answeredTrace (p : BaseRemoteProvider) (request : ProviderRequest)
    (started entered checked : ℚ) (answer : Except ProviderException VendorCallResult) :
    List ProviderEvent :=
  admittedTrace request started entered checked ++ [⟨.complete request p.budget, answer⟩]

section Vendor

variable {started entered checked : ℚ}

theorem told_admitted : Told (admittedTrace request started entered checked) :=
  (((((told_nil.snoc_ok (.evaluate request) ()).snoc_ok .acquire ()).snoc_ok
    (.callStarted request.model) ()).snoc_ok .monotonic started).snoc_ok .monotonic entered).snoc_ok
    .monotonic checked

theorem quiet_answered (answer : Except ProviderException VendorCallResult) :
    Quiet (p.answeredTrace request started entered checked answer) :=
  ⟨le_rfl, le_rfl, rfl, told_admitted.snoc fun _ _ => rfl⟩

theorem not_vendorFailed_admitted (signal : VendorFailureSignal) :
    ¬ VendorFailed (admittedTrace request started entered checked) signal := by
  rintro ⟨request', timeout, hmem⟩
  simp [admittedTrace] at hmem

/-- The vendor has failed only with the signal of its answer. -/
theorem vendorFailed_answered {answer : Except ProviderException VendorCallResult}
    {signal : VendorFailureSignal}
    (h : VendorFailed (p.answeredTrace request started entered checked answer) signal) :
    answer = .error (.transport signal) := by
  rcases h.of_append with h | ⟨request', timeout, hmem⟩
  · exact absurd h (not_vendorFailed_admitted signal)
  · cases List.mem_singleton.mp hmem
    rfl

/-- The response is reported and returned. -/
theorem succeed_always {answered : ℚ} {result : VendorCallResult}
    (hchecked : checked < entered + p.budget.overallDeadlineSeconds)
    (hanswered : answered < entered + p.budget.overallDeadlineSeconds) :
    (p.succeed request started result).Always Possible (CallSound p request)
      (p.answeredTrace request started entered checked (.ok result) ++
        [⟨.monotonic, .ok answered⟩]) := by
  have hquiet : Quiet (p.answeredTrace request started entered checked (.ok result) ++
      [⟨.monotonic, .ok answered⟩]) := (quiet_answered _).monotonic answered
  refine ⟨hquiet.sound _ _, fun r hr => ?_⟩
  cases r with
  | error e => exact absurd hr id
  | ok ended =>
    refine ⟨(hquiet.monotonic ended).sound _ _, fun r hr => ?_⟩
    cases r with
    | error e =>
      obtain ⟨className, message, rfl⟩ := hr
      exact (hquiet.monotonic ended).untold rfl className message
    | ok a =>
      refine ⟨le_rfl, le_rfl, ?_, ?_, Or.inl ((hquiet.monotonic ended).told.snoc_ok _ _), ?_, ?_, ?_⟩
      · intro c k hq
        cases hq
      · intro error hq
        cases hq
      · intro e hq
        cases hq
      · intro signal e _ hq
        cases hq
      · intro response hq
        cases hq
        exact ⟨started, entered, checked, answered, ended, result, rfl, hchecked, hanswered, rfl⟩

/-- Whatever the vendor answers is mapped, or returned in time. -/
theorem vendorPhase_always (hchecked : checked < entered + p.budget.overallDeadlineSeconds) :
    (p.vendorPhase request started (entered + p.budget.overallDeadlineSeconds)).Always Possible
      (CallSound p request) (admittedTrace request started entered checked) := by
  have hquiet : Quiet (admittedTrace request started entered checked) :=
    ⟨Nat.zero_le 1, le_rfl, rfl, told_admitted⟩
  refine ⟨hquiet.sound _ _, fun answer _ => ?_⟩
  have hdone : Quiet (p.answeredTrace request started entered checked answer) :=
    quiet_answered answer
  cases answer with
  | ok result =>
    refine checkDeadline_always hdone _ _ (fun signal hfailed => ?_)
      fun answered hanswered => succeed_always hchecked hanswered
    cases vendorFailed_answered hfailed
  | error e =>
    cases e with
    | provider error =>
      refine failedSince_always hdone _ fun signal hfailed => ?_
      cases vendorFailed_answered hfailed
    | transport signal =>
      refine failedSince_always hdone _ fun signal' hfailed => ?_
      cases vendorFailed_answered hfailed
      rfl
    | other className message =>
      refine hdone.sound_raise (fun error he => by cases he) fun signal hfailed => ?_
      cases vendorFailed_answered hfailed

end Vendor

/-- The call with a token. -/
theorem admittedCall_always :
    (p.admittedCall request).Always Possible (CallSound p request)
      [⟨.evaluate request, .ok ()⟩, ⟨.acquire, .ok ()⟩] := by
  have hquiet : Quiet [⟨.evaluate request, .ok ()⟩, ⟨.acquire, .ok ()⟩] :=
    ⟨Nat.zero_le 1, le_rfl, rfl, (told_nil.snoc_ok (.evaluate request) ()).snoc_ok .acquire ()⟩
  refine ⟨hquiet.sound _ _, fun r hr => ?_⟩
  cases r with
  | error e =>
    obtain ⟨className, message, rfl⟩ := hr
    exact hquiet.untold rfl className message
  | ok a =>
    have hstarted : Quiet [⟨.evaluate request, .ok ()⟩, ⟨.acquire, .ok ()⟩,
        ⟨.callStarted request.model, .ok a⟩] :=
      ⟨Nat.zero_le 1, le_rfl, rfl, hquiet.told.snoc_ok _ _⟩
    refine ⟨hstarted.sound _ _, fun r hr => ?_⟩
    cases r with
    | error e => exact absurd hr id
    | ok started =>
      refine ⟨(hstarted.monotonic started).sound _ _, fun r hr => ?_⟩
      cases r with
      | error e => exact absurd hr id
      | ok entered =>
        refine checkDeadline_always ((hstarted.monotonic started).monotonic entered) _ _
          (fun signal hfailed => ?_) fun checked hchecked => vendorPhase_always hchecked
        obtain ⟨request', timeout, hmem⟩ := hfailed
        simp at hmem

theorem generate_always : (p.generate request).Always Possible (CallSound p request) [] := by
  have hempty : Quiet [] := ⟨le_rfl, Nat.zero_le 1, rfl, told_nil⟩
  have hnone : ∀ signal, ¬ VendorFailed [] signal := by
    rintro signal ⟨request', timeout, hmem⟩
    cases hmem
  rw [generate]
  cases hvalid : validate request with
  | error e =>
    refine hempty.sound_raise (fun error he => ?_) hnone
    revert hvalid
    rw [validate, he]
    split
    · intro hvalid
      cases hvalid
    · split
      · intro hvalid
        cases hvalid
      · intro hvalid
        cases hvalid
  | ok u =>
    refine ⟨hempty.sound _ _, fun r _ => ?_⟩
    have hgate : Quiet [⟨.evaluate request, r⟩] :=
      ⟨le_rfl, Nat.zero_le 1, rfl, hempty.told.snoc fun _ _ => rfl⟩
    have hgateNone : ∀ signal, ¬ VendorFailed [⟨.evaluate request, r⟩] signal := by
      rintro signal ⟨request', timeout, hmem⟩
      simp at hmem
    cases r with
    | error e =>
      cases e with
      | provider error =>
        exact failed_always hgate 0 fun signal hfailed => absurd hfailed (hgateNone signal)
      | transport signal => exact hgate.sound_raise (fun error he => by cases he) hgateNone
      | other className message => exact hgate.sound_raise (fun error he => by cases he) hgateNone
    | ok u =>
      refine ⟨hgate.sound _ _, fun r hr => ?_⟩
      cases r with
      | ok a => exact admittedCall_always
      | error e =>
        obtain ⟨error, rfl, hrate⟩ := hr
        show Proc.Always Possible _ _ (if error.type = .rateLimit then _ else _)
        rw [if_pos hrate]
        have hrefused : Quiet [⟨.evaluate request, .ok u⟩, ⟨.acquire, .error (.provider error)⟩] :=
          ⟨le_rfl, Nat.zero_le 1, rfl, hgate.told.snoc fun _ _ => rfl⟩
        refine failed_always hrefused 0 fun signal hfailed => ?_
        obtain ⟨request', timeout, hmem⟩ := hfailed
        simp at hmem

end Sound

/-! ### The limiter over a run

The calls of all threads go through one bucket.
-/

theorem run_limiter_append (limiter : ClientRateLimiter) (times : List ℚ) (now : ℚ) :
    limiter.run (times ++ [now]) =
      ((limiter.run times).1 ++ [(now, ((limiter.run times).2.acquire now).1)],
        ((limiter.run times).2.acquire now).2) := by
  induction times generalizing limiter with
  | nil => rfl
  | cons time times ih =>
    rw [List.cons_append, ClientRateLimiter.run_cons, ClientRateLimiter.run_cons, ih]
    rfl

/-- The limiter has been asked at some times, and has given the tokens in the log. -/
def GrantsTracked (p : BaseRemoteProvider) (start : ℚ) (s : ProviderPool) : Prop :=
  ∃ times, (start :: times).Pairwise (· ≤ ·) ∧ (∀ t ∈ start :: times, t ≤ s.world.now) ∧
    s.world.limiter = ((ClientRateLimiter.create p.rateLimitPerMinute start).run times).2 ∧
    ((ClientRateLimiter.create p.rateLimitPerMinute start).run times).1.countP (·.2) =
      s.log.countP fun e => isGrant e.2

variable {p : BaseRemoteProvider} {start : ℚ}

/-- A call of anything but the limiter leaves it alone. -/
theorem answer_other (c : ProviderCall) (hc : c ≠ .acquire) (r : ProviderReply) (w : ProviderWorld) :
    (p.answer c r w).2 = w ∧ isGrant ⟨c, (p.answer c r w).1⟩ = false := by
  cases c with
  | acquire => exact absurd rfl hc
  | evaluate _ => exact ⟨rfl, rfl⟩
  | callStarted _ => exact ⟨rfl, rfl⟩
  | monotonic => exact ⟨rfl, rfl⟩
  | complete _ _ => exact ⟨rfl, rfl⟩
  | callFailed _ _ _ _ => exact ⟨rfl, rfl⟩
  | callCompleted _ _ _ _ => exact ⟨rfl, rfl⟩

theorem GrantsTracked.proceed {s : ProviderPool} (h : GrantsTracked p start s) (i : Nat)
    (r : ProviderReply) : GrantsTracked p start (p.step (.proceed i r) s) := by
  rcases LoggedPool.proceed_cases p.answer ProviderWorld.tick s i r with
    ⟨c, k, -, heq⟩ | heq
  · rw [step, heq]
    obtain ⟨times, hsorted, hnow, hlimiter, hcount⟩ := h
    by_cases hc : c = .acquire
    · subst hc
      refine ⟨times ++ [s.world.now], ?_, ?_, ?_, ?_⟩
      · rw [← List.cons_append]
        refine List.pairwise_append.mpr ⟨hsorted, List.pairwise_singleton _ _, ?_⟩
        intro t ht t' ht'
        rw [List.mem_singleton.mp ht']
        exact hnow t ht
      · intro t ht
        rw [← List.cons_append] at ht
        rcases List.mem_append.mp ht with ht | ht
        · exact hnow t ht
        · exact (List.mem_singleton.mp ht).le
      · show (s.world.limiter.acquire s.world.now).2 = _
        rw [run_limiter_append, hlimiter]
      · rw [run_limiter_append, List.countP_append, List.countP_append, hcount, ← hlimiter]
        congr 1
        rw [List.countP_singleton, List.countP_singleton]
        show _ = if isGrant ⟨.acquire, if (s.world.limiter.acquire s.world.now).1 then _ else _⟩ then
          1 else 0
        cases (s.world.limiter.acquire s.world.now).1 with
        | true => rfl
        | false => rfl
    · obtain ⟨hworld, hgrant⟩ := answer_other (p := p) c hc r s.world
      refine ⟨times, hsorted, ?_, ?_, ?_⟩
      · rw [hworld]
        exact hnow
      · rw [hworld]
        exact hlimiter
      · rw [List.countP_append, hcount, List.countP_singleton, if_neg (by rw [hgrant]; simp)]
        rfl
  · rw [step, heq]
    exact h

theorem told_cases (r : ProviderReply) :
    r.told = .ok () ∨ ∃ className message, r.told = .error (.other className message) := by
  unfold ProviderReply.told
  cases r.telemetry with
  | none => exact Or.inl rfl
  | some p => exact Or.inr ⟨p.1, p.2, rfl⟩

theorem possible_answer (c : ProviderCall) (r : ProviderReply) (w : ProviderWorld) :
    Possible ⟨c, (p.answer c r w).1⟩ := by
  cases c with
  | acquire =>
    show Possible ⟨.acquire, if (w.limiter.acquire w.now).1 then _ else _⟩
    cases (w.limiter.acquire w.now).1 with
    | true => trivial
    | false => exact ⟨_, rfl, rfl⟩
  | evaluate _ => trivial
  | monotonic => trivial
  | complete _ _ => trivial
  | _ =>
    dsimp only [answer]
    rcases told_cases r with htold | ⟨className, message, htold⟩ <;> rw [htold]
    · trivial
    · exact ⟨className, message, rfl⟩

/-- Every thread is sound after its own calls. -/
theorem run_sound (p : BaseRemoteProvider) (start : ℚ) (steps : List GenerateStep) :
    (p.runCalls start steps).Follows Possible
      fun program t q => ∀ request : { request // program = p.generate request },
        CallSound p request.1 t q := by
  refine LoggedPool.run_follows possible_answer _ fun program _ => ?_
  refine Proc.always_forall fun request => ?_
  obtain ⟨request, rfl⟩ := request
  exact generate_always

end BaseRemoteProvider

end CartoonDemo
