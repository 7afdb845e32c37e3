import Mathlib.Data.Rat.Cast.Order
import Mathlib.Tactic.NormNum
import CartoonDemo.Library.Log
import CartoonDemo.Types
import CartoonDemo.Library.PyStr
import CartoonDemo.Library.TokenBucket

/-!
# CartoonDemo.Providers.RateLimit

The **client-side rate limit** (`providers/rate_limit.py`) in a worker process. A stage handler
builds its agent's run context, which builds a provider through the model provider factory
(`worker/production.py`, `worker/context.py`), and the agent calls `generate` on it.

A provider makes its own `ClientRateLimiter`, and the factory makes a new provider each time it
is asked. So the limiters of one process are as many as its handler executions, and each of
them starts full. The limit holds for the calls through one provider; across providers it holds
only as long as there are no more calls than one limiter has tokens (`rate_limit_holds_iff`).

Clock readings are rational numbers of seconds and the arithmetic is exact. Two steps of a run
never share a lock: `acquire` is one step.
-/

namespace CartoonDemo

/-! ### Limiters and providers -/

/-- `ClientRateLimiter`; a disabled one has no bucket. -/
structure ClientRateLimiter where
  bucket : Option (TokenBucket ℚ)
  deriving DecidableEq

namespace ClientRateLimiter

/-- `__init__`: capacity and refill rate of a limit per minute, and a full bucket. -/
def create (rateLimitPerMinute : Option Int) (now : ℚ) : ClientRateLimiter :=
  match rateLimitPerMinute with
  | none => ⟨none⟩
  | some limit =>
      if limit ≤ 0 then ⟨none⟩
      else ⟨some { capacity := limit, rate := limit / 60, tokens := limit, last := now }⟩

/-- `acquire`; `false` is `ProviderRateLimitError`. -/
def acquire (limiter : ClientRateLimiter) (now : ℚ) : Bool × ClientRateLimiter :=
  match limiter.bucket with
  | none => (true, limiter)
  | some b => ((b.acquire now).1, ⟨some (b.acquire now).2⟩)

end ClientRateLimiter

/-- What `RequestValidator` looks at. -/
structure GenerateRequest where
  messageCount : Nat
  model : String
  deriving DecidableEq, Repr

/-- `RequestValidator.validate` returns. -/
def GenerateRequest.valid (request : GenerateRequest) : Bool :=
  request.messageCount ≠ 0 && PyStr.strip request.model ≠ ""

/-- A remote provider, as far as its calls are admitted. -/
structure Provider where
  providerId : ProviderId
  limiter : ClientRateLimiter
  deriving DecidableEq

/-- The part of `AppConfig` that the factory reads. -/
structure ProviderSettings where
  /-- `get_agent_config(agent_id).provider`. -/
  agentProvider : AgentId → ProviderId
  /-- `rate_limit_per_minute` of a configured provider. -/
  providers : ProviderId → Option (Option Int)
  hasTimeout : ProviderId → Bool
  hasCredential : ProviderId → Bool

namespace ProviderSettings

/-- The provider that `create_provider` resolves; `none` is a `ProviderConfigurationError`. The
fake provider needs no credential. -/
def resolve (cfg : ProviderSettings) (providerId : ProviderId) : Option (Option Int) :=
  match cfg.providers providerId with
  | none => none
  | some limit =>
      if !cfg.hasTimeout providerId then none
      else if providerId ≠ .fake ∧ !cfg.hasCredential providerId then none
      else some limit

/-- `create_provider`, and with it `BaseRemoteProvider.__init__`. -/
def createProvider (cfg : ProviderSettings) (providerId : ProviderId) (now : ℚ) :
    Option Provider :=
  (cfg.resolve providerId).map fun limit =>
    { providerId := providerId, limiter := .create limit now }

/-- The model provider factory. -/
def modelProviderFactory (cfg : ProviderSettings) (agentId : AgentId) (now : ℚ) :
    Option Provider :=
  cfg.createProvider (cfg.agentProvider agentId) now

/-- The configured limit, when there is one. -/
def capacity (cfg : ProviderSettings) (providerId : ProviderId) : Option ℕ :=
  match cfg.providers providerId with
  | some (some limit) => if limit ≤ 0 then none else some limit.toNat
  | _ => none

end ProviderSettings

/-! ### A worker process

Every provider that is built brings a limiter of its own.
-/

/-- The providers of a worker process, in the order in which they were built. -/
structure WorkerProviders where
  built : List Provider := []

/-- What a handler execution does with providers: it builds one, and the agent calls it. -/
inductive ProviderAction
  | build (agentId : AgentId)
  /-- `generate` on the provider that was built as number `index`; `injected` if the injection
  gate raises. -/
  | generate (index : Nat) (request : GenerateRequest) (injected : Bool)
  deriving DecidableEq, Repr

/-- The call passes validation and the injection gate. -/
def reachesLimiter (request : GenerateRequest) (injected : Bool) : Bool :=
  request.valid && !injected

structure ProviderStep where
  now : ℚ
  action : ProviderAction
  deriving DecidableEq

/-- One call of `acquire`. -/
structure LimiterCall where
  index : Nat
  providerId : ProviderId
  time : ℚ
  admitted : Bool
  deriving DecidableEq, Repr

/-- The provider after its limiter has been asked. -/
def Provider.asked (p : Provider) (now : ℚ) : Provider :=
  { p with limiter := (p.limiter.acquire now).2 }

/-- The answer of its limiter. -/
def Provider.call (p : Provider) (index : Nat) (now : ℚ) : LimiterCall :=
  { index := index, providerId := p.providerId, time := now,
    admitted := (p.limiter.acquire now).1 }

@[simp] theorem Provider.call_index (p : Provider) (index : Nat) (now : ℚ) :
    (p.call index now).index = index := rfl

@[simp] theorem Provider.call_time (p : Provider) (index : Nat) (now : ℚ) :
    (p.call index now).time = now := rfl

namespace WorkerProviders

variable (cfg : ProviderSettings)

def step (st : ProviderStep) (w : WorkerProviders) : WorkerProviders :=
  match st.action with
  | .build agentId => { built := w.built ++ (cfg.modelProviderFactory agentId st.now).toList }
  | .generate index request injected =>
      if reachesLimiter request injected then
        { built := w.built.modify index (fun p => p.asked st.now) }
      else w

/-- The call of `acquire` that a step makes. -/
def emit (w : WorkerProviders) (st : ProviderStep) : List LimiterCall :=
  match st.action with
  | .build _ => []
  | .generate index request injected =>
      if reachesLimiter request injected then
        (w.built[index]?).toList.map (fun p => p.call index st.now)
      else []

/-- The calls of `acquire` for one provider id in a run. -/
def limiterCalls (providerId : ProviderId) (w : WorkerProviders) (run : List ProviderStep) :
    List LimiterCall :=
  (logged (step cfg) emit w run).filter (fun c => c.providerId = providerId)

/-- The calls that are admitted in a closed interval of time. -/
def admittedBetween (calls : List LimiterCall) (start stop : ℚ) : List LimiterCall :=
  calls.filter (fun c => c.admitted && decide (start ≤ c.time ∧ c.time ≤ stop))

/-- The limit holds for the actions, at whatever times they happen. -/
def RateLimitHolds (providerId : ProviderId) (plan : List ProviderAction) : Prop :=
  ∀ capacity ∈ cfg.capacity providerId, ∀ run : List ProviderStep,
    run.map ProviderStep.action = plan → (run.map ProviderStep.now).Pairwise (· ≤ ·) →
      ∀ start stop, start ≤ stop →
        ((admittedBetween (limiterCalls cfg providerId {} run) start stop).length : ℚ) ≤
          capacity + capacity / 60 * (stop - start)

/-- The numbers of the providers for `providerId` whose limiter is asked, call by call; `ids`
are the provider ids built so far. -/
def targets (providerId : ProviderId) : List ProviderId → List ProviderAction → List Nat
  | _, [] => []
  | ids, .build agentId :: rest =>
      let id := cfg.agentProvider agentId
      targets providerId (if (cfg.resolve id).isSome then ids ++ [id] else ids) rest
  | ids, .generate index request injected :: rest =>
      (if reachesLimiter request injected && ids[index]? = some providerId then [index] else []) ++
        targets providerId ids rest

/-- All calls that reach a limiter of the provider id go through one provider, or there are no
more of them than the configured limit. -/
def OneProviderOrFew (providerId : ProviderId) (plan : List ProviderAction) : Prop :=
  ∀ capacity ∈ cfg.capacity providerId,
    (∃ index, ∀ i ∈ targets cfg providerId [] plan, i = index) ∨
      (targets cfg providerId [] plan).length ≤ capacity

/-! ### The calls through one provider -/

section Calls

variable {cfg} {providerId : ProviderId}

theorem limiterCalls_cons (w : WorkerProviders) (st : ProviderStep) (run : List ProviderStep) :
    limiterCalls cfg providerId w (st :: run) =
      (emit w st).filter (fun c => c.providerId = providerId) ++
        limiterCalls cfg providerId (step cfg st w) run :=
  List.filter_append ..

/-- What one step emits. -/
theorem mem_emit {w : WorkerProviders} {st : ProviderStep} {c : LimiterCall} (h : c ∈ emit w st) :
    c.time = st.now ∧ ∃ p, w.built[c.index]? = some p ∧ c.providerId = p.providerId := by
  unfold emit at h
  cases hact : st.action with
  | build agentId => rw [hact] at h; exact absurd h (by simp)
  | generate index request injected =>
      rw [hact] at h
      dsimp only at h
      split at h
      · obtain ⟨p, hp, rfl⟩ := List.mem_map.mp h
        exact ⟨rfl, p, Option.mem_toList.mp hp, rfl⟩
      · exact absurd h (by simp)

/-- Providers stay where they were built, under their provider id. -/
theorem step_built {w : WorkerProviders} {k : Nat} {p : Provider} (h : w.built[k]? = some p)
    (st : ProviderStep) :
    ∃ p', (step cfg st w).built[k]? = some p' ∧ p'.providerId = p.providerId := by
  unfold step
  cases st.action with
  | build agentId =>
      refine ⟨p, ?_, rfl⟩
      dsimp only
      rw [List.getElem?_append_left (List.getElem?_eq_some_iff.mp h).1]
      exact h
  | generate index request injected =>
      dsimp only
      split
      · rw [List.getElem?_modify, h]
        by_cases hk : index = k
        · exact ⟨p.asked st.now, by simp [hk], rfl⟩
        · exact ⟨p, by simp [hk], rfl⟩
      · exact ⟨p, h, rfl⟩

/-- A step that does not build leaves the number of providers. -/
theorem step_generate_length (w : WorkerProviders) (now : ℚ) (index : Nat)
    (request : GenerateRequest) (injected : Bool) :
    (step cfg ⟨now, .generate index request injected⟩ w).built.length = w.built.length := by
  unfold step
  dsimp only
  split
  · exact List.length_modify ..
  · rfl

/-- The calls happen at times of the run, in its order. -/
theorem limiterCalls_times_sublist (w : WorkerProviders) (run : List ProviderStep) :
    ((limiterCalls cfg providerId w run).map LimiterCall.time).Sublist
      (run.map ProviderStep.now) := by
  induction run generalizing w with
  | nil => exact List.Sublist.refl _
  | cons st run ih =>
      have hone : (((emit w st).filter (fun c => c.providerId = providerId)).map
          LimiterCall.time).Sublist [st.now] := by
        refine ((List.filter_sublist).map LimiterCall.time).trans ?_
        unfold emit
        cases st.action with
        | build agentId => simp
        | generate index request injected =>
            dsimp only
            split
            · cases w.built[index]? <;> simp
            · simp
      rw [limiterCalls_cons, List.map_append, List.map_cons]
      exact hone.append (ih _)

/-- The calls for a provider id name providers of that id. -/
theorem limiterCalls_providerId {w : WorkerProviders} {run : List ProviderStep} {c : LimiterCall}
    (hc : c ∈ limiterCalls cfg providerId w run) {p : Provider}
    (hp : w.built[c.index]? = some p) : p.providerId = providerId := by
  induction run generalizing w p with
  | nil => exact absurd hc (by simp [limiterCalls, logged])
  | cons st run ih =>
      rw [limiterCalls_cons, List.mem_append] at hc
      rcases hc with hc | hc
      · obtain ⟨hemit, hid⟩ := List.mem_filter.mp hc
        obtain ⟨-, q, hq, hcq⟩ := mem_emit hemit
        rw [hp] at hq
        rw [Option.some.inj hq, ← hcq]
        simpa using hid
      · obtain ⟨p', hp', hid⟩ := step_built hp st
        rw [← hid]
        exact ih hc hp'

/-- The calls through the provider with the given number. -/
def through (index : Nat) (calls : List LimiterCall) : List LimiterCall :=
  calls.filter (fun c => c.index = index)

theorem through_append (index : Nat) (calls calls' : List LimiterCall) :
    through index (calls ++ calls') = through index calls ++ through index calls' :=
  List.filter_append ..

/-- **A limiter is a bucket**: of the calls through a provider, those are admitted that its
bucket admits. -/
theorem admitted_through {w : WorkerProviders} {k : Nat} {p : Provider} {b : TokenBucket ℚ}
    (hp : w.built[k]? = some p) (hid : p.providerId = providerId)
    (hb : p.limiter.bucket = some b) (run : List ProviderStep) :
    ((through k (limiterCalls cfg providerId w run)).filter LimiterCall.admitted).map
        LimiterCall.time =
      b.admitted ((through k (limiterCalls cfg providerId w run)).map LimiterCall.time) := by
  induction run generalizing w p b with
  | nil => rfl
  | cons st run ih =>
      rw [limiterCalls_cons, through_append]
      obtain ⟨now, action⟩ := st
      cases action with
      | build agentId =>
          refine ih (w := step cfg ⟨now, .build agentId⟩ w) (p := p) ?_ hid hb
          show (w.built ++ _)[k]? = some p
          rw [List.getElem?_append_left (List.getElem?_eq_some_iff.mp hp).1]
          exact hp
      | generate index request injected =>
          by_cases hreach : reachesLimiter request injected = true
          · have hemit : emit w ⟨now, .generate index request injected⟩ =
                (w.built[index]?).toList.map (fun p => p.call index now) := if_pos hreach
            have hstep : step cfg ⟨now, .generate index request injected⟩ w =
                { built := w.built.modify index (fun p => p.asked now) } := if_pos hreach
            rw [hemit, hstep]
            by_cases hk : index = k
            · -- a call through this provider: the bucket decides, and goes on
              subst hk
              have hacq : p.limiter.acquire now =
                  ((b.acquire now).1, ⟨some (b.acquire now).2⟩) := by
                unfold ClientRateLimiter.acquire
                rw [hb]
              have hrest := ih (w := { built := w.built.modify index (fun p => p.asked now) })
                (p := p.asked now) (b := (b.acquire now).2)
                (by rw [List.getElem?_modify, hp]; simp) hid (by rw [Provider.asked, hacq])
              have hcall : p.call index now =
                  { index := index, providerId := providerId, time := now,
                    admitted := (b.acquire now).1 } := by
                rw [Provider.call, hacq, hid]
              have hhead : through index (((w.built[index]?).toList.map
                  (fun p => p.call index now)).filter (fun c => c.providerId = providerId)) =
                  [p.call index now] := by
                rw [hp, Option.toList_some, List.map_singleton, hcall]
                simp [through]
              rw [hhead, hcall, List.filter_append, List.map_append, hrest, List.map_append]
              show _ = b.admitted (now :: _)
              rw [TokenBucket.admitted]
              cases (b.acquire now).1 <;> rfl
            · -- a call through another provider
              have hother : through k (((w.built[index]?).toList.map
                  (fun p => p.call index now)).filter (fun c => c.providerId = providerId)) =
                  [] := by
                refine List.filter_eq_nil_iff.mpr fun c hc => ?_
                obtain ⟨q, -, rfl⟩ := List.mem_map.mp (List.mem_of_mem_filter hc)
                simp [hk]
              rw [hother, List.nil_append]
              refine ih ?_ hid hb
              rw [List.getElem?_modify, hp]
              simp [hk]
          · have hemit : emit w ⟨now, .generate index request injected⟩ = [] := if_neg hreach
            have hstep : step cfg ⟨now, .generate index request injected⟩ w = w := if_neg hreach
            rw [hemit, hstep]
            exact ih hp hid hb

/-- The bucket of a limiter for `limit` calls a minute that has just been made. -/
structure FullBucket (limit : ℕ) (b : TokenBucket ℚ) : Prop where
  capacity : b.capacity = limit
  rate : b.rate = limit / 60
  tokens : b.tokens = limit

theorem FullBucket.valid {limit : ℕ} {b : TokenBucket ℚ} (h : FullBucket limit b) :
    b.Valid := by
  refine ⟨?_, ?_, ?_⟩
  · rw [h.tokens]
    exact Nat.cast_nonneg limit
  · rw [h.tokens, h.capacity]
  · rw [h.rate]
    exact div_nonneg (Nat.cast_nonneg limit) (by norm_num)

/-- A provider that the factory makes for a limited provider id has a full bucket. -/
theorem createProvider_bucket {capacity : ℕ} (hcap : capacity ∈ cfg.capacity providerId)
    {now : ℚ} {p : Provider} (hp : cfg.createProvider providerId now = some p) :
    ∃ b, p.limiter.bucket = some b ∧ b.last = now ∧ FullBucket capacity b := by
  obtain ⟨limit, hlimit, rfl⟩ := Option.map_eq_some_iff.mp hp
  unfold ProviderSettings.capacity at hcap
  unfold ProviderSettings.resolve at hlimit
  cases hprov : cfg.providers providerId with
  | none => rw [hprov] at hlimit; exact absurd hlimit (by simp)
  | some entry =>
      rw [hprov] at hcap hlimit
      dsimp only at hlimit
      split at hlimit
      · exact absurd hlimit (by simp)
      · split at hlimit
        · exact absurd hlimit (by simp)
        · obtain rfl := Option.some.inj hlimit
          cases entry with
          | none => exact absurd hcap (by simp)
          | some n =>
              dsimp only at hcap
              split at hcap
              · exact absurd hcap (by simp)
              · next hpos =>
                obtain rfl := Option.some.inj hcap
                have hcast : ((n.toNat : ℕ) : ℚ) = (n : ℚ) := by
                  have hint : ((n.toNat : ℕ) : ℤ) = n := Int.toNat_of_nonneg (by omega)
                  exact_mod_cast congrArg (Int.cast : ℤ → ℚ) hint
                refine ⟨{ capacity := n, rate := n / 60, tokens := n, last := now }, ?_, rfl, ?_⟩
                · show (ClientRateLimiter.create (some n) now).bucket = _
                  unfold ClientRateLimiter.create
                  dsimp only
                  rw [if_neg hpos]
                · exact ⟨hcast.symm, by rw [hcast], hcast.symm⟩

/-- The calls are answered as by a bucket that is full at one of the `times`, before them. -/
def ServedByOne (limit : ℕ) (times : List ℚ) (calls : List LimiterCall) : Prop :=
  ∃ b, FullBucket limit b ∧ (calls = [] ∨ b.last ∈ times) ∧
    (∀ t ∈ calls.map LimiterCall.time, b.last ≤ t) ∧
    (calls.filter LimiterCall.admitted).map LimiterCall.time =
      b.admitted (calls.map LimiterCall.time)

theorem servedByOne_nil (limit : ℕ) (times : List ℚ) : ServedByOne limit times [] :=
  ⟨{ capacity := limit, rate := limit / 60, tokens := limit, last := 0 },
    ⟨rfl, rfl, rfl⟩, Or.inl rfl, by simp, rfl⟩

theorem ServedByOne.cons {limit : ℕ} {times : List ℚ} {calls : List LimiterCall} (t : ℚ)
    (h : ServedByOne limit times calls) : ServedByOne limit (t :: times) calls := by
  obtain ⟨b, hfull, hlast, hrest⟩ := h
  exact ⟨b, hfull, hlast.imp_right (List.mem_cons_of_mem _), hrest⟩

/-- **The calls through one provider**, seen from before it is built: one full bucket serves
them. -/
theorem servedByOne_through {limit : ℕ} (hcap : limit ∈ cfg.capacity providerId)
    {w : WorkerProviders} {k : Nat} (hk : w.built.length ≤ k) {run : List ProviderStep}
    (hsorted : (run.map ProviderStep.now).Pairwise (· ≤ ·)) :
    ServedByOne limit (run.map ProviderStep.now)
      (through k (limiterCalls cfg providerId w run)) := by
  induction run generalizing w with
  | nil => exact servedByOne_nil ..
  | cons st run ih =>
      obtain ⟨hfirst, hlater⟩ := List.pairwise_cons.mp hsorted
      -- what the first step emits is not through provider `k`, which does not exist yet
      have hemit : through k ((emit w st).filter (fun c => c.providerId = providerId)) = [] := by
        refine List.filter_eq_nil_iff.mpr fun c hc => ?_
        obtain ⟨-, p, hp, -⟩ := mem_emit (List.mem_of_mem_filter hc)
        have hlt := (List.getElem?_eq_some_iff.mp hp).1
        simpa using (by omega : ¬ c.index = k)
      rw [limiterCalls_cons, through_append, hemit, List.nil_append]
      obtain ⟨now, action⟩ := st
      cases action with
      | generate index request injected =>
          refine (ih ?_ hlater).cons now
          rw [step_generate_length]
          exact hk
      | build agentId =>
          cases hp : cfg.modelProviderFactory agentId now with
          | none =>
              have hstep : (step cfg ⟨now, .build agentId⟩ w).built = w.built := by
                unfold step
                dsimp only
                rw [hp, Option.toList_none, List.append_nil]
              refine (ih ?_ hlater).cons now
              rw [hstep]
              exact hk
          | some p =>
              have hstep : (step cfg ⟨now, .build agentId⟩ w).built = w.built ++ [p] := by
                unfold step
                dsimp only
                rw [hp]
                rfl
              by_cases hkl : w.built.length = k
              · have hpk : (step cfg ⟨now, .build agentId⟩ w).built[k]? = some p := by
                  rw [hstep, ← hkl]
                  simp
                by_cases hid : p.providerId = providerId
                · -- the provider is built here
                  have hagent : cfg.agentProvider agentId = providerId := by
                    obtain ⟨limit, -, rfl⟩ := Option.map_eq_some_iff.mp hp
                    exact hid
                  obtain ⟨b, hb, hlast, hfull⟩ := createProvider_bucket hcap
                    (by rw [← hagent]; exact hp)
                  refine ⟨b, hfull, Or.inr (by rw [hlast]; exact List.mem_cons_self), ?_,
                    admitted_through hpk hid hb run⟩
                  intro t ht
                  rw [hlast]
                  refine hfirst t ?_
                  have hsub : ((limiterCalls cfg providerId (step cfg ⟨now, .build agentId⟩ w)
                      run).map LimiterCall.time).Sublist (run.map ProviderStep.now) :=
                    limiterCalls_times_sublist _ _
                  exact hsub.subset ((List.filter_sublist.map _).subset ht)
                · have hnil : through k (limiterCalls cfg providerId
                      (step cfg ⟨now, .build agentId⟩ w) run) = [] := by
                    refine List.filter_eq_nil_iff.mpr fun c hc hck => hid ?_
                    have hck : c.index = k := by simpa using hck
                    exact limiterCalls_providerId hc (by rw [hck]; exact hpk)
                  rw [hnil]
                  exact servedByOne_nil ..
              · refine (ih ?_ hlater).cons now
                rw [hstep, List.length_append, List.length_singleton]
                omega

/-- Which limiters are asked does not depend on the times. -/
theorem limiterCalls_index (w : WorkerProviders) (run : List ProviderStep) :
    (limiterCalls cfg providerId w run).map LimiterCall.index =
      targets cfg providerId (w.built.map Provider.providerId)
        (run.map ProviderStep.action) := by
  induction run generalizing w with
  | nil => rfl
  | cons st run ih =>
      obtain ⟨now, action⟩ := st
      rw [limiterCalls_cons, List.map_append, ih, List.map_cons]
      cases action with
      | build agentId =>
          have hids : (step cfg ⟨now, .build agentId⟩ w).built.map Provider.providerId =
              if (cfg.resolve (cfg.agentProvider agentId)).isSome then
                w.built.map Provider.providerId ++ [cfg.agentProvider agentId]
              else w.built.map Provider.providerId := by
            unfold step ProviderSettings.modelProviderFactory ProviderSettings.createProvider
            cases hr : cfg.resolve (cfg.agentProvider agentId) <;> simp [hr]
          rw [hids]
          rfl
      | generate index request injected =>
          have hids : (step cfg ⟨now, .generate index request injected⟩ w).built.map
              Provider.providerId = w.built.map Provider.providerId := by
            unfold step
            dsimp only
            split
            · refine List.ext_getElem? fun i => ?_
              rw [List.getElem?_map, List.getElem?_map, List.getElem?_modify]
              cases w.built[i]? with
              | none => rfl
              | some p => by_cases hi : index = i <;> simp [hi, Provider.asked]
            · rfl
          rw [hids]
          show _ = (if reachesLimiter request injected &&
            (w.built.map Provider.providerId)[index]? = some providerId then [index] else []) ++ _
          congr 1
          unfold emit
          dsimp only
          cases reachesLimiter request injected with
          | false => rfl
          | true =>
              rw [List.getElem?_map]
              cases w.built[index]? with
              | none => rfl
              | some p => by_cases hid : p.providerId = providerId <;> simp [hid, Provider.call]

end Calls

/-! ### The limit of the process

The calls of the process are those of its providers together.
-/

section Limit

variable {cfg} {providerId : ProviderId} {limit : ℕ}

/-- Admitted calls in an interval, counted by their times. -/
theorem length_admittedBetween (calls : List LimiterCall) (start stop : ℚ) :
    (admittedBetween calls start stop).length =
      (((calls.filter LimiterCall.admitted).map LimiterCall.time).filter
        (fun t => start ≤ t ∧ t ≤ stop)).length := by
  unfold admittedBetween
  rw [List.filter_map, List.length_map, List.filter_filter]
  congr 1
  refine List.filter_congr fun c _ => ?_
  exact Bool.and_comm _ _

/-- Calls that one bucket serves keep the limit. -/
theorem ServedByOne.limit_holds {times : List ℚ} {calls : List LimiterCall}
    (h : ServedByOne limit times calls)
    (hsorted : (calls.map LimiterCall.time).Pairwise (· ≤ ·)) {start stop : ℚ}
    (hstop : start ≤ stop) :
    ((admittedBetween calls start stop).length : ℚ) ≤ limit + limit / 60 * (stop - start) := by
  obtain ⟨b, hfull, -, hlast, hadm⟩ := h
  have hbucket := TokenBucket.length_admitted_between_le hfull.valid hsorted hlast hstop
  rw [hfull.capacity, hfull.rate] at hbucket
  rw [length_admittedBetween, hadm]
  exact hbucket

/-- Of the calls at one time that one bucket serves, as many are admitted as the limit says. -/
theorem ServedByOne.burst {times : List ℚ} {calls : List LimiterCall} {t : ℚ}
    (h : ServedByOne limit times calls) (htimes : ∀ u ∈ times, u = t)
    (hcalls : ∀ c ∈ calls, c.time = t) :
    (calls.filter LimiterCall.admitted).length = min calls.length limit := by
  obtain ⟨b, hfull, hlast, -, hadm⟩ := h
  rcases hlast with rfl | hmem
  · simp
  · have hb : b.last = t := htimes _ hmem
    have hrep : calls.map LimiterCall.time = List.replicate calls.length b.last := by
      refine List.eq_replicate_iff.mpr ⟨List.length_map _, fun u hu => ?_⟩
      obtain ⟨c, hc, rfl⟩ := List.mem_map.mp hu
      rw [hb, hcalls c hc]
    have hlen := congrArg List.length hadm
    rw [List.length_map, hrep, TokenBucket.length_admitted_burst hfull.tokens
      (by rw [hfull.tokens, hfull.capacity])] at hlen
    exact hlen

theorem capacity_pos (h : limit ∈ cfg.capacity providerId) : 0 < limit := by
  unfold ProviderSettings.capacity at h
  split at h
  · split at h
    · exact absurd h (by simp)
    · obtain rfl := Option.some.inj h
      omega
  · exact absurd h (by simp)

/-- The calls through two providers are different calls. -/
theorem length_through_add_le {i j : Nat} (hij : i ≠ j) (calls : List LimiterCall) :
    (through i calls).length + (through j calls).length ≤ calls.length := by
  have hsub : (through j calls).length ≤
      (calls.filter (fun c => !decide (c.index = i))).length := by
    unfold through
    rw [← List.countP_eq_length_filter, ← List.countP_eq_length_filter]
    refine List.countP_mono_left fun c _ hc => ?_
    have hc : c.index = j := by simpa using hc
    simpa [hc] using Ne.symm hij
  have hsplit := List.length_eq_length_filter_add (l := calls) (fun c => decide (c.index = i))
  show (calls.filter (fun c => decide (c.index = i))).length + _ ≤ _
  omega

theorem through_filter (k : Nat) (calls : List LimiterCall) :
    (through k calls).filter LimiterCall.admitted =
      through k (calls.filter LimiterCall.admitted) := by
  unfold through
  exact List.filter_comm _ _ _

/-- If every provider has its own burst of tokens, then so many calls at once as the limit says
are admitted and more, unless they go through one provider or are few. -/
theorem lt_length_admitted {calls : List LimiterCall} (hpos : 0 < limit)
    (hburst : ∀ k, ((through k calls).filter LimiterCall.admitted).length =
      min (through k calls).length limit)
    (hmany : limit < calls.length)
    (hseveral : ∀ k, ∃ i ∈ calls.map LimiterCall.index, i ≠ k) :
    limit < (calls.filter LimiterCall.admitted).length := by
  by_cases hbusy : ∃ k, limit ≤ (through k calls).length
  · -- one provider uses up its tokens, and another admits a call of its own
    obtain ⟨k, hk⟩ := hbusy
    obtain ⟨j, hj, hjk⟩ := hseveral k
    obtain ⟨c, hc, rfl⟩ := List.mem_map.mp hj
    have hone : 0 < (through c.index calls).length :=
      List.length_pos_of_mem (List.mem_filter.mpr ⟨hc, by simp⟩)
    have hsum := length_through_add_le (Ne.symm hjk) (calls.filter LimiterCall.admitted)
    rw [← through_filter, ← through_filter, hburst, hburst] at hsum
    omega
  · -- no provider runs out of tokens, so every call is admitted
    have hall : calls.filter LimiterCall.admitted = calls := by
      refine List.filter_eq_self.mpr fun c hc => ?_
      have hlen : ((through c.index calls).filter LimiterCall.admitted).length =
          (through c.index calls).length := by
        have hlt : (through c.index calls).length < limit :=
          not_le.mp fun hle => hbusy ⟨c.index, hle⟩
        rw [hburst]
        omega
      have hmem : c ∈ through c.index calls := List.mem_filter.mpr ⟨hc, by simp⟩
      rw [← List.filter_sublist.eq_of_length hlen] at hmem
      exact (List.mem_filter.mp hmem).2
    rw [hall]
    exact hmany

end Limit

/-- The actions of a plan, all at the same time. -/
def atOnce (plan : List ProviderAction) : List ProviderStep :=
  plan.map (fun action => ⟨0, action⟩)

theorem atOnce_actions (plan : List ProviderAction) :
    (atOnce plan).map ProviderStep.action = plan := by
  unfold atOnce
  rw [List.map_map]
  exact List.map_id plan

theorem atOnce_times {plan : List ProviderAction} {t : ℚ}
    (h : t ∈ (atOnce plan).map ProviderStep.now) : t = 0 := by
  unfold atOnce at h
  rw [List.map_map] at h
  obtain ⟨action, -, rfl⟩ := List.mem_map.mp h
  rfl

/-- **The limit across handler executions.** It holds at all times for the calls of a process
exactly when they go through one provider, or are no more than one limiter admits at once. -/
theorem rate_limit_holds_iff (cfg : ProviderSettings) (providerId : ProviderId)
    (plan : List ProviderAction) :
    RateLimitHolds cfg providerId plan ↔ OneProviderOrFew cfg providerId plan := by
  have hindex : ∀ run : List ProviderStep, run.map ProviderStep.action = plan →
      (limiterCalls cfg providerId {} run).map LimiterCall.index =
        targets cfg providerId [] plan := by
    intro run hrun
    rw [← hrun]
    exact limiterCalls_index {} run
  have hserved : ∀ limit ∈ cfg.capacity providerId, ∀ run : List ProviderStep,
      (run.map ProviderStep.now).Pairwise (· ≤ ·) → ∀ k,
        ServedByOne limit (run.map ProviderStep.now)
          (through k (limiterCalls cfg providerId {} run)) :=
    fun limit hlimit run hsorted k => servedByOne_through hlimit (Nat.zero_le k) hsorted
  constructor
  · intro hholds limit hlimit
    by_contra hnot
    obtain ⟨hone, hmany⟩ := not_or.mp hnot
    -- the worst case: everything happens at once
    have hsorted : ((atOnce plan).map ProviderStep.now).Pairwise (· ≤ ·) := by
      refine List.pairwise_of_forall_mem_list fun a ha b hb => ?_
      rw [atOnce_times ha, atOnce_times hb]
    have htime : ∀ c ∈ limiterCalls cfg providerId {} (atOnce plan), c.time = 0 := fun c hc =>
      atOnce_times ((limiterCalls_times_sublist _ _).subset (List.mem_map_of_mem hc))
    have hlen := congrArg List.length (hindex _ (atOnce_actions plan))
    rw [List.length_map] at hlen
    have hlt : limit <
        ((limiterCalls cfg providerId {} (atOnce plan)).filter LimiterCall.admitted).length := by
      refine lt_length_admitted (capacity_pos hlimit) (fun k => ?_) (by omega) (fun k => ?_)
      · exact (hserved limit hlimit _ hsorted k).burst (fun u hu => atOnce_times hu)
          (fun c hc => htime c (List.mem_of_mem_filter hc))
      · rw [hindex _ (atOnce_actions plan)]
        by_contra hall
        exact hone ⟨k, fun i hi => not_not.mp fun hik => hall ⟨i, hi, hik⟩⟩
    have hle := hholds limit hlimit _ (atOnce_actions plan) hsorted 0 0 (le_refl 0)
    have hbetween : admittedBetween (limiterCalls cfg providerId {} (atOnce plan)) 0 0 =
        (limiterCalls cfg providerId {} (atOnce plan)).filter LimiterCall.admitted := by
      refine List.filter_congr fun c hc => ?_
      simp [htime c hc]
    rw [hbetween, sub_self, mul_zero, add_zero, Nat.cast_le] at hle
    omega
  · intro hcond limit hlimit run hrun hsorted start stop hstop
    have hlen := congrArg List.length (hindex run hrun)
    rw [List.length_map] at hlen
    rcases hcond limit hlimit with ⟨k, hk⟩ | hfew
    · -- all through provider `k`: one bucket serves them
      have hthrough : through k (limiterCalls cfg providerId {} run) =
          limiterCalls cfg providerId {} run := by
        refine List.filter_eq_self.mpr fun c hc => ?_
        have hck : c.index = k := hk c.index (hindex run hrun ▸ List.mem_map_of_mem hc)
        simpa using hck
      have hone := hserved limit hlimit run hsorted k
      rw [hthrough] at hone
      exact hone.limit_holds (hsorted.sublist (limiterCalls_times_sublist _ _)) hstop
    · have hcount : (admittedBetween (limiterCalls cfg providerId {} run) start stop).length ≤
          limit := (List.length_filter_le _ _).trans (by omega)
      have hcast : ((admittedBetween (limiterCalls cfg providerId {} run) start stop).length : ℚ) ≤
          limit := Nat.cast_le.mpr hcount
      have hgain : (0 : ℚ) ≤ limit / 60 * (stop - start) :=
        mul_nonneg (div_nonneg (Nat.cast_nonneg limit) (by norm_num)) (sub_nonneg.mpr hstop)
      linarith

/-- One call a minute for the agents' provider. -/
def oneCallAMinute : ProviderSettings where
  agentProvider _ := .openai
  providers id := if id = .openai then some (some 1) else none
  hasTimeout _ := true
  hasCredential _ := true

/-- Two stages, each with a provider of its own, make one call each at the same time: both are
admitted, though the limit is one. -/
theorem twoStages_exceed_limit :
    let request : GenerateRequest := { messageCount := 1, model := "gpt" }
    ¬ RateLimitHolds oneCallAMinute .openai
      [.build .topicSelector, .generate 0 request false,
       .build .scenarioGenerator, .generate 1 request false] := by
  intro request hholds
  have hle := hholds 1 (by decide) (atOnce _) (atOnce_actions _)
    (List.pairwise_of_forall_mem_list fun a ha b hb => by rw [atOnce_times ha, atOnce_times hb])
    0 0 (le_refl 0)
  have htwo : (admittedBetween (limiterCalls oneCallAMinute .openai {} (atOnce
      [.build .topicSelector, .generate 0 request false,
       .build .scenarioGenerator, .generate 1 request false])) 0 0).length = 2 := by
    decide +kernel
  rw [htwo] at hle
  norm_num at hle

end WorkerProviders

end CartoonDemo
