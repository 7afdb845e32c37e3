import CartoonDemo.Worker.LeaseCoordinator

/-!
# CartoonDemo.Worker.LeaseRenewal

**Renewals of different leases.** A lease that is being renewed goes on being renewed, and a
stopped one is not renewed again (`renewals_independent`), in every run in which

- no timer of such a lease reads `_renew_failed` while a failed renewal of another lease has
  left it set, and
- `stop_renewal` meets no thread of its lease that is past its interval.

Neither is checked by the code: the flag is shared by all leases, and a running renewal that is
no longer in `_timers` enters its successor there (`renewals_interfere`).
-/

namespace CartoonDemo

namespace LeaseThread

/-- The renewal has begun, and has not ended. -/
def Running (t : LeaseThread) : Bool :=
  t.timer && match t.pc with
    | .checking | .renewing | .scheduling | .launching _ => true
    | _ => false

/-- The timer is going to call `_renew_lease`. -/
def Scheduled (t : LeaseThread) : Bool := t.timer && t.pc = .waiting && !t.cancelled

/-- A timer before the end of its interval. -/
def Idle (t : LeaseThread) : Bool := t.pc = .waiting || t.pc = .unstarted

/-- The thread is a renewal to come or leads to one. -/
def Active (t : LeaseThread) : Bool :=
  match t.pc with
  | .resetting | .scheduling | .launching _ | .checking | .renewing => true
  | .unstarted | .waiting => !t.cancelled
  | _ => false

/-- The thread belongs to a call of `stop_renewal`, or has been cancelled by one. -/
def Stops (t : LeaseThread) : Bool :=
  t.cancelled || match t.pc with
    | .popping _ | .cancelling _ _ => true
    | _ => false

theorem active_of_scheduled {t : LeaseThread} (h : t.Scheduled) : t.Active := by
  obtain ⟨leaseId, pc, timer, cancelled⟩ := t
  simp only [Scheduled, Bool.and_eq_true, decide_eq_true_eq] at h
  obtain ⟨⟨-, rfl⟩, h⟩ := h
  exact h

end LeaseThread

namespace LeaseCoordinator

/-- The lease has a timer, scheduled or running. -/
def Renewed (σ : LeaseCoordinator) (leaseId : String) : Prop :=
  ∃ t ∈ σ.threads, t.leaseId = leaseId ∧ (t.Scheduled ∨ t.Running)

/-- What the renewal of a lease owes to no other lease. -/
structure RenewalsIndependent (σ : LeaseCoordinator) : Prop where
  /-- A lease that was started, was not stopped and never failed to be renewed goes on. -/
  renewed : ∀ leaseId ∈ σ.started, leaseId ∉ σ.stopping → leaseId ∉ σ.failed → σ.Renewed leaseId
  /-- A stopped lease is not scheduled once its running renewals have ended. -/
  ended : ∀ leaseId ∈ σ.stopped,
    (∀ t ∈ σ.threads, t.leaseId = leaseId → ¬ t.Running) →
    ∀ t ∈ σ.threads, t.leaseId = leaseId → ¬ t.Scheduled

/-- The step meets none of the races: a lease is not started after it was stopped; a timer that
reads the flag finds it clear or has no renewal to lose; `cancel` reaches the only thread of the
lease that leads to a renewal, within its interval. -/
def undisturbed (σ : LeaseCoordinator) : CoordinatorAction → Bool
  | .startRenewal leaseId => !σ.stopping.contains leaseId
  | .proceed i _ =>
      match σ.threads[i]? with
      | none => true
      | some t =>
          match t.pc with
          | .checking =>
              !σ.renewFailed || σ.stopping.contains t.leaseId || σ.failed.contains t.leaseId
          | .cancelling timer _ =>
              σ.threads.zipIdx.all fun u =>
                !(u.1.leaseId = t.leaseId && u.1.Active) || (timer = some u.2 && u.1.Idle)
          | _ => true
  | _ => true

/-! ### Updating one thread -/

variable {σ : LeaseCoordinator} {i : Nat} {f : LeaseThread → LeaseThread} {leaseId : String}

theorem getElem?_updateThread (j : Nat) : (σ.updateThread i f).threads[j]? =
    (σ.threads[j]?).map fun t => if i = j then f t else t := List.getElem?_modify ..

theorem getElem?_updateThread_ne {j : Nat} (h : i ≠ j) :
    (σ.updateThread i f).threads[j]? = σ.threads[j]? := List.getElem?_modify_ne _ _ h

theorem getElem?_updateThread_self {t : LeaseThread} (h : σ.threads[i]? = some t) :
    (σ.updateThread i f).threads[i]? = some (f t) := by
  rw [getElem?_updateThread, h, Option.map_some, if_pos rfl]

theorem mem_updateThread {t : LeaseThread} (h : t ∈ (σ.updateThread i f).threads) :
    t ∈ σ.threads ∨ ∃ t₀, σ.threads[i]? = some t₀ ∧ f t₀ = t := by
  obtain ⟨j, hj⟩ := List.mem_iff_getElem?.mp h
  rw [getElem?_updateThread] at hj
  obtain ⟨t₀, ht₀, rfl⟩ := Option.map_eq_some_iff.mp hj
  split
  · next hij => exact Or.inr ⟨t₀, hij ▸ ht₀, rfl⟩
  · exact Or.inl (List.mem_of_getElem? ht₀)

/-- A renewed lease stays renewed if the updated thread of it, when it is the one renewing, is
afterwards. -/
theorem Renewed.update (h : σ.Renewed leaseId)
    (hf : ∀ t, σ.threads[i]? = some t → t.leaseId = leaseId → (t.Scheduled ∨ t.Running) →
      (f t).leaseId = leaseId ∧ ((f t).Scheduled ∨ (f t).Running)) :
    (σ.updateThread i f).Renewed leaseId := by
  obtain ⟨t, ht, hl, hlive⟩ := h
  obtain ⟨j, hj⟩ := List.mem_iff_getElem?.mp ht
  by_cases hij : i = j
  · subst hij
    exact ⟨f t, List.mem_of_getElem? (getElem?_updateThread_self hj), hf t hj hl hlive⟩
  · refine ⟨t, List.mem_of_getElem? (i := j) ?_, hl, hlive⟩
    rw [getElem?_updateThread_ne hij, hj]

theorem Renewed.spawn (h : σ.Renewed leaseId) (t : LeaseThread) : (σ.spawn t).Renewed leaseId := by
  obtain ⟨u, hu, hlive⟩ := h
  exact ⟨u, List.mem_append_left _ hu, hlive⟩

theorem getElem?_spawn {t u : LeaseThread} (h : (σ.spawn t).threads[i]? = some u) :
    σ.threads[i]? = some u ∨ u = t := by
  have h : (σ.threads ++ [t])[i]? = some u := h
  rw [List.getElem?_append] at h
  split at h
  · exact Or.inl h
  · exact Or.inr (List.mem_singleton.mp (List.mem_of_getElem? h))

/-! ### Which thread belongs to which lease

A timer and its thread know the lease that they were started for.
-/

/-- The threads with their leases; an entry never changes. -/
def owners (σ : LeaseCoordinator) : List (String × Bool) :=
  σ.threads.map fun t => (t.leaseId, t.timer)

theorem owners_updateThread (hf : ∀ t : LeaseThread, (f t).leaseId = t.leaseId ∧ (f t).timer = t.timer) :
    (σ.updateThread i f).owners = σ.owners := by
  refine List.ext_getElem? fun j => ?_
  rw [owners, owners, List.getElem?_map, getElem?_updateThread, List.getElem?_map, Option.map_map]
  refine Option.map_congr fun t _ => ?_
  show ((if i = j then f t else t).leaseId, (if i = j then f t else t).timer) = _
  split
  · rw [(hf t).1, (hf t).2]
  · rfl

theorem getElem?_owners {t : LeaseThread} (h : σ.threads[i]? = some t) :
    σ.owners[i]? = some (t.leaseId, t.timer) := by
  rw [owners, List.getElem?_map, h, Option.map_some]

theorem exists_thread_of_owners {b : Bool} (h : σ.owners[i]? = some (leaseId, b)) :
    ∃ t, σ.threads[i]? = some t ∧ t.leaseId = leaseId ∧ t.timer = b := by
  rw [owners, List.getElem?_map] at h
  obtain ⟨t, ht, heq⟩ := Option.map_eq_some_iff.mp h
  obtain ⟨rfl, rfl⟩ := Prod.mk.inj heq
  exact ⟨t, ht, rfl, rfl⟩

theorem owners_spawn_of_some {t : LeaseThread} {o : String × Bool} (h : σ.owners[i]? = some o) :
    (σ.spawn t).owners[i]? = some o := by
  rw [show (σ.spawn t).owners = σ.owners ++ [(t.leaseId, t.timer)] from List.map_append]
  rw [List.getElem?_append_left (List.getElem?_eq_some_iff.mp h).1, h]

/-- Timers are found under their own lease, and only stopped leases are touched by a stop. -/
structure Wired (σ : LeaseCoordinator) : Prop where
  timers : ∀ p ∈ σ.timers.rows, σ.owners[p.2]? = some (p.1, true)
  launching : ∀ (i : Nat) (t : LeaseThread) n, σ.threads[i]? = some t → t.pc = .launching n →
    i < n ∧ σ.owners[n]? = some (t.leaseId, true)
  cancelling : ∀ (i : Nat) (t : LeaseThread) (n : Nat) release, σ.threads[i]? = some t → t.pc = .cancelling (some n) release →
    σ.owners[n]? = some (t.leaseId, true)
  stopping : ∀ t ∈ σ.threads, t.Stops → t.leaseId ∈ σ.stopping
  stopped : ∀ leaseId ∈ σ.stopped, leaseId ∈ σ.stopping

theorem Wired.init (repo : LeaseSys) : Wired { repo } where
  timers := by simp [Table.empty]
  launching := by simp
  cancelling := by simp
  stopping := by simp
  stopped := by simp

/-- Nothing else is looked at. -/
theorem Wired.of_eq {σ' : LeaseCoordinator} (h : Wired σ) (htimers : σ'.timers = σ.timers)
    (hthreads : σ'.threads = σ.threads) (hstopping : σ'.stopping = σ.stopping)
    (hstopped : σ'.stopped = σ.stopped) : Wired σ' where
  timers := by rw [htimers, owners, hthreads]; exact h.timers
  launching := by rw [owners, hthreads]; exact h.launching
  cancelling := by rw [owners, hthreads]; exact h.cancelling
  stopping := by rw [hthreads, hstopping]; exact h.stopping
  stopped := by rw [hstopping, hstopped]; exact h.stopped

theorem Wired.update (h : Wired σ) (hf : ∀ t : LeaseThread, (f t).leaseId = t.leaseId ∧ (f t).timer = t.timer)
    (hlaunch : ∀ (t : LeaseThread) n, σ.threads[i]? = some t → (f t).pc = .launching n →
      i < n ∧ σ.owners[n]? = some (t.leaseId, true))
    (hcancel : ∀ (t : LeaseThread) (n : Nat) release, σ.threads[i]? = some t → (f t).pc = .cancelling (some n) release →
      σ.owners[n]? = some (t.leaseId, true))
    (hstop : ∀ t : LeaseThread, σ.threads[i]? = some t → (f t).Stops → t.leaseId ∈ σ.stopping) :
    Wired (σ.updateThread i f) where
  timers := by rw [owners_updateThread hf]; exact h.timers
  launching := by
    intro j t n hj hpc
    rw [getElem?_updateThread] at hj
    obtain ⟨t₀, ht₀, rfl⟩ := Option.map_eq_some_iff.mp hj
    rw [owners_updateThread hf]
    split
    · next hij =>
      rw [if_pos hij] at hpc
      subst hij
      rw [(hf t₀).1]
      exact hlaunch t₀ n ht₀ hpc
    · next hij =>
      rw [if_neg hij] at hpc
      exact h.launching j t₀ n ht₀ hpc
  cancelling := by
    intro j t n release hj hpc
    rw [getElem?_updateThread] at hj
    obtain ⟨t₀, ht₀, rfl⟩ := Option.map_eq_some_iff.mp hj
    rw [owners_updateThread hf]
    split
    · next hij =>
      rw [if_pos hij] at hpc
      subst hij
      rw [(hf t₀).1]
      exact hcancel t₀ n release ht₀ hpc
    · next hij =>
      rw [if_neg hij] at hpc
      exact h.cancelling j t₀ n release ht₀ hpc
  stopping := by
    intro t ht hs
    rcases mem_updateThread ht with ht | ⟨t₀, ht₀, rfl⟩
    · exact h.stopping t ht hs
    · rw [(hf t₀).1]
      exact hstop t₀ ht₀ hs
  stopped := h.stopped

/-- A thread that goes to a place where nothing is owed to it. -/
theorem Wired.goto (h : Wired σ) {pc : LeaseThreadPc} (hl : ∀ n, pc ≠ .launching n)
    (hc : ∀ n release, pc ≠ .cancelling (some n) release)
    (hs : ∀ t : LeaseThread, σ.threads[i]? = some t → ({ t with pc } : LeaseThread).Stops →
      t.leaseId ∈ σ.stopping) : Wired (σ.goto i pc) :=
  h.update (fun _ => ⟨rfl, rfl⟩) (fun _ n _ hn => absurd hn (hl n))
    (fun _ n release _ hn => absurd hn (hc n release)) hs

theorem stops_of_cancelled {t : LeaseThread} (h : t.cancelled) : t.Stops := by
  simp [LeaseThread.Stops, h]

/-- Going on without stopping anything. -/
theorem Wired.goOn (h : Wired σ) {pc : LeaseThreadPc} (hl : ∀ n, pc ≠ .launching n)
    (hp : ∀ release, pc ≠ .popping release) (hc : ∀ timer release, pc ≠ .cancelling timer release) :
    Wired (σ.goto i pc) := by
  refine h.goto hl (fun n => hc (some n)) fun t ht hs => ?_
  refine h.stopping t (List.mem_of_getElem? ht) (stops_of_cancelled ?_)
  cases pc with
  | popping release => exact absurd rfl (hp release)
  | cancelling timer release => exact absurd rfl (hc timer release)
  | _ => simpa [LeaseThread.Stops] using hs

theorem Wired.spawn (h : Wired σ) {t : LeaseThread} (hl : ∀ n, t.pc ≠ .launching n)
    (hc : ∀ timer release, t.pc ≠ .cancelling timer release)
    (hs : t.Stops → t.leaseId ∈ σ.stopping) : Wired (σ.spawn t) where
  timers := fun p hp => owners_spawn_of_some (h.timers p hp)
  launching := by
    intro i u n hi hpc
    rcases getElem?_spawn hi with hi | rfl
    · exact ⟨(h.launching i u n hi hpc).1, owners_spawn_of_some (h.launching i u n hi hpc).2⟩
    · exact absurd hpc (hl n)
  cancelling := by
    intro i u n release hi hpc
    rcases getElem?_spawn hi with hi | rfl
    · exact owners_spawn_of_some (h.cancelling i u n release hi hpc)
    · exact absurd hpc (hc (some n) release)
  stopping := by
    intro u hu hsu
    rcases List.mem_append.mp hu with hu | hu
    · exact h.stopping u hu hsu
    · obtain rfl := List.mem_singleton.mp hu
      exact hs hsu
  stopped := h.stopped

/-- `stop_renewal` and `release` enter with their lease on the list of stopped ones. -/
theorem Wired.stop (h : Wired σ) (leaseId : String) (release : Bool) :
    Wired { σ.spawn { leaseId, pc := .popping release } with
      stopping := σ.stopping ++ [leaseId] } := by
  have hmore : Wired { σ with stopping := σ.stopping ++ [leaseId] } :=
    { h with
      stopping := fun t ht hs => List.mem_append_left _ (h.stopping t ht hs)
      stopped := fun l hl => List.mem_append_left _ (h.stopped l hl) }
  exact (hmore.spawn (t := { leaseId, pc := .popping release }) (by simp) (by simp)
    fun _ => by simp).of_eq rfl rfl rfl rfl

/-- A new timer is entered under its lease. -/
theorem Wired.schedule (h : Wired σ) {t : LeaseThread} (hi : σ.threads[i]? = some t) :
    Wired ({ σ.spawn { leaseId := t.leaseId, pc := .unstarted, timer := true } with
      timers := σ.timers.upsert (t.leaseId, σ.threads.length) }.goto i
        (.launching σ.threads.length)) := by
  have hlt : i < σ.threads.length := (List.getElem?_eq_some_iff.mp hi).1
  have hspawn := h.spawn (t := { leaseId := t.leaseId, pc := .unstarted, timer := true }) (by simp)
    (by simp) (by simp [LeaseThread.Stops])
  have hnew : (σ.spawn { leaseId := t.leaseId, pc := .unstarted, timer := true }).owners[
      σ.threads.length]? = some (t.leaseId, true) := by
    refine getElem?_owners (t := { leaseId := t.leaseId, pc := .unstarted, timer := true }) ?_
    show (σ.threads ++ _)[σ.threads.length]? = _
    rw [List.getElem?_append_right (Nat.le_refl _), Nat.sub_self]
    rfl
  have htimers : Wired { σ.spawn { leaseId := t.leaseId, pc := .unstarted, timer := true } with
      timers := σ.timers.upsert (t.leaseId, σ.threads.length) } :=
    { hspawn with
      timers := fun p hp => by
        rcases Table.mem_upsert.mp hp with rfl | ⟨hp, -⟩
        · exact hnew
        · exact hspawn.timers p hp }
  refine htimers.update (fun _ => ⟨rfl, rfl⟩) (fun u n hu hn => ?_) (fun _ _ _ _ hn => ?_)
    fun u hu hs => ?_
  · obtain rfl := LeaseThreadPc.launching.inj hn
    obtain rfl : t = u := by
      have hu : (σ.threads ++ _)[i]? = some u := hu
      rw [List.getElem?_append_left hlt, hi] at hu
      exact Option.some.inj hu
    exact ⟨hlt, hnew⟩
  · exact absurd hn (by simp)
  · refine htimers.stopping u (List.mem_of_getElem? hu) (stops_of_cancelled ?_)
    simpa [LeaseThread.Stops] using hs

theorem Wired.cancelTimer (h : Wired σ) {t : LeaseThread} {timer : Option Nat} {release : Bool}
    (hi : σ.threads[i]? = some t) (hpc : t.pc = .cancelling timer release) :
    Wired (σ.cancelTimer timer) := by
  cases timer with
  | none => exact h
  | some n =>
      have hmem : t.leaseId ∈ σ.stopping :=
        h.stopping t (List.mem_of_getElem? hi) (by simp [LeaseThread.Stops, hpc])
      obtain ⟨u, hu, hul, -⟩ := exists_thread_of_owners (h.cancelling i t n release hi hpc)
      refine h.update (fun _ => ⟨rfl, rfl⟩) (fun v m hv hm => h.launching n v m hv hm)
        (fun v m _ hv hm => h.cancelling n v m _ hv hm) fun v hv _ => ?_
      rw [← Option.some.inj (hu.symm.trans hv), hul]
      exact hmem

theorem Wired.proceed (h : Wired σ) {t : LeaseThread} (hi : σ.threads[i]? = some t)
    (kind : TaskLeaseRepoKind) (ttl : Time) (outcome : RepoOutcome) :
    Wired (σ.proceed kind ttl i t outcome) := by
  have hgo : ∀ pc : LeaseThreadPc, (∀ n, pc ≠ .launching n) → (∀ release, pc ≠ .popping release) →
      (∀ timer release, pc ≠ .cancelling timer release) → Wired (σ.goto i pc) :=
    fun pc hl hp hc => h.goOn hl hp hc
  unfold LeaseCoordinator.proceed
  cases hpc : t.pc with
  | resetting => exact (hgo .scheduling (by simp) (by simp) (by simp)).of_eq rfl rfl rfl rfl
  | scheduling => exact h.schedule hi
  | launching n =>
      have hlaunched : Wired ((σ.goto n .waiting).goto i .finished) :=
        (h.goOn (by simp) (by simp) (by simp)).goOn (by simp) (by simp) (by simp)
      dsimp only
      split
      · exact hlaunched
      · exact hlaunched.of_eq rfl rfl rfl rfl
  | waiting => cases t.cancelled <;> exact hgo _ (by simp) (by simp) (by simp)
  | checking => cases σ.renewFailed <;> exact hgo _ (by simp) (by simp) (by simp)
  | renewing =>
      cases outcome with
      | outage => exact (hgo .finished (by simp) (by simp) (by simp)).of_eq rfl rfl rfl rfl
      | served first second =>
          show Wired (σ.callRenew kind ttl i t.leaseId first second)
          unfold callRenew
          dsimp only
          split
          · split
            · exact (hgo .scheduling (by simp) (by simp) (by simp)).of_eq rfl rfl rfl rfl
            · exact (hgo .failing (by simp) (by simp) (by simp)).of_eq rfl rfl rfl rfl
          · exact h
  | failing => exact (hgo .finished (by simp) (by simp) (by simp)).of_eq rfl rfl rfl rfl
  | popping release =>
      have hmem : t.leaseId ∈ σ.stopping :=
        h.stopping t (List.mem_of_getElem? hi) (by simp [LeaseThread.Stops, hpc])
      have herase : Wired { σ with timers := σ.timers.erase t.leaseId } :=
        { h with timers := fun p hp => h.timers p (Table.mem_erase.mp hp).1 }
      refine herase.update (fun _ => ⟨rfl, rfl⟩) (by simp) (fun u n _ hu hn => ?_) fun u hu _ => ?_
      · obtain rfl := Option.some.inj (hi.symm.trans hu)
        obtain ⟨p, hp, rfl⟩ := Option.map_eq_some_iff.mp (LeaseThreadPc.cancelling.inj hn).1
        obtain ⟨hp, hl⟩ := Table.get?_eq_some_iff.mp hp
        exact hl ▸ h.timers p hp
      · obtain rfl := Option.some.inj (hi.symm.trans hu)
        exact hmem
  | cancelling timer release =>
      have hmem : t.leaseId ∈ σ.stopping :=
        h.stopping t (List.mem_of_getElem? hi) (by simp [LeaseThread.Stops, hpc])
      have hgone : Wired ((σ.cancelTimer timer).goto i
          (if release then .releasing else .finished)) := by
        have hcancelled := h.cancelTimer hi hpc
        cases release
        · show Wired ((σ.cancelTimer timer).goto i .finished)
          exact hcancelled.goOn (by simp) (by simp) (by simp)
        · show Wired ((σ.cancelTimer timer).goto i .releasing)
          exact hcancelled.goOn (by simp) (by simp) (by simp)
      have hstopped : ∀ l ∈ σ.stopped ++ [t.leaseId], l ∈ σ.stopping := by
        intro l hl
        rcases List.mem_append.mp hl with hl | hl
        · exact h.stopped l hl
        · exact List.mem_singleton.mp hl ▸ hmem
      cases timer with
      | none => exact { hgone with stopped := hstopped }
      | some n => exact { hgone with stopped := hstopped }
  | releasing =>
      cases outcome with
      | outage => exact hgo _ (by simp) (by simp) (by simp)
      | served first second =>
          dsimp only
          split
          · exact (hgo .finished (by simp) (by simp) (by simp)).of_eq rfl rfl rfl rfl
          · exact h
  | unstarted => exact h
  | finished => exact h

theorem Wired.step (h : Wired σ) (kind : TaskLeaseRepoKind) (ttl : Time) (a : CoordinatorAction) :
    Wired (σ.step kind ttl a) := by
  cases a with
  | onTable call => exact h.of_eq rfl rfl rfl rfl
  | startRenewal leaseId => exact h.spawn (by simp) (by simp) (by simp [LeaseThread.Stops])
  | stopRenewal leaseId => exact h.stop leaseId false
  | release leaseId => exact h.stop leaseId true
  | proceed i outcome =>
      show Wired (match σ.threads[i]? with
        | none => σ
        | some t => σ.proceed kind ttl i t outcome)
      cases hi : σ.threads[i]? with
      | none => exact h
      | some t => exact h.proceed hi kind ttl outcome

/-! ### A renewed lease goes on being renewed

Until somebody stops it or a renewal fails, there is a thread that will renew it.
-/

/-- Every lease that is owed a renewal has one. -/
def Ongoing (σ : LeaseCoordinator) : Prop :=
  ∀ leaseId ∈ σ.started, leaseId ∉ σ.stopping → leaseId ∉ σ.failed → σ.Renewed leaseId

/-- A thread that is neither scheduled nor running may go anywhere. -/
theorem Renewed.goto_other (h : σ.Renewed leaseId) {t : LeaseThread} (hi : σ.threads[i]? = some t)
    (hidle : ¬ (t.Scheduled ∨ t.Running)) (pc : LeaseThreadPc) : (σ.goto i pc).Renewed leaseId := by
  refine h.update fun u hu _ hlive => absurd hlive ?_
  rwa [← Option.some.inj (hi.symm.trans hu)]

/-- A thread of another lease may go anywhere. -/
theorem Renewed.goto_of_ne (h : σ.Renewed leaseId) {t : LeaseThread} (hi : σ.threads[i]? = some t)
    (hne : t.leaseId ≠ leaseId) (pc : LeaseThreadPc) : (σ.goto i pc).Renewed leaseId := by
  refine h.update fun u hu hl _ => absurd hl ?_
  rwa [← Option.some.inj (hi.symm.trans hu)]

/-- A timer that goes from one part of its renewal to the next. -/
theorem Renewed.goto_running (h : σ.Renewed leaseId) {pc : LeaseThreadPc}
    (hpc : ∀ t : LeaseThread, t.timer → ({ t with pc } : LeaseThread).Running) :
    (σ.goto i pc).Renewed leaseId := by
  refine h.update fun t _ hl hlive => ⟨hl, Or.inr (hpc t ?_)⟩
  rcases hlive with hlive | hlive
  · simp only [LeaseThread.Scheduled, Bool.and_eq_true] at hlive
    exact hlive.1.1
  · simp only [LeaseThread.Running, Bool.and_eq_true] at hlive
    exact hlive.1

/-- A started timer renews its lease in the place of the thread that started it. -/
theorem Wired.renewed_launch (h : Wired σ) {t : LeaseThread} {n : Nat}
    (hi : σ.threads[i]? = some t) (hpc : t.pc = .launching n) (hstop : t.leaseId ∉ σ.stopping) :
    ((σ.goto n .waiting).goto i .finished).Renewed t.leaseId := by
  obtain ⟨hlt, hn⟩ := h.launching i t n hi hpc
  obtain ⟨u, hu, hul, htimer⟩ := exists_thread_of_owners hn
  have hcancelled : u.cancelled = false := by
    by_contra hc
    refine hstop (hul ▸ h.stopping u (List.mem_of_getElem? hu) (stops_of_cancelled ?_))
    simpa using hc
  refine ⟨{ u with pc := .waiting }, List.mem_of_getElem? (i := n) ?_, hul, Or.inl ?_⟩
  · show ((σ.goto n .waiting).updateThread i _).threads[n]? = _
    rw [getElem?_updateThread_ne (Nat.ne_of_lt hlt)]
    exact getElem?_updateThread_self hu
  · simp [LeaseThread.Scheduled, htimer, hcancelled]

theorem Ongoing.launch (h : Ongoing σ) (hw : Wired σ) {t : LeaseThread} {n : Nat}
    (hi : σ.threads[i]? = some t) (hpc : t.pc = .launching n) {l : String}
    (hl : l ∈ σ.started ∨ l = t.leaseId) (hstop : l ∉ σ.stopping) (hfail : l ∉ σ.failed) :
    ((σ.goto n .waiting).goto i .finished).Renewed l := by
  by_cases hlt : l = t.leaseId
  · subst hlt
    exact hw.renewed_launch hi hpc hstop
  · obtain ⟨hin, hn⟩ := hw.launching i t n hi hpc
    obtain ⟨u, hu, hul, -⟩ := exists_thread_of_owners hn
    have hfirst := (h l (hl.resolve_right hlt) hstop hfail).goto_of_ne hu
      (fun he => hlt (he ▸ hul)) .waiting
    refine hfirst.goto_of_ne (t := t) ?_ (fun he => hlt he.symm) .finished
    exact (getElem?_updateThread_ne (Nat.ne_of_gt hin)).trans hi

theorem Ongoing.proceed (h : Ongoing σ) (hw : Wired σ) {t : LeaseThread}
    (hi : σ.threads[i]? = some t) {outcome : RepoOutcome}
    (hok : σ.undisturbed (.proceed i outcome)) (kind : TaskLeaseRepoKind) (ttl : Time) :
    Ongoing (σ.proceed kind ttl i t outcome) := by
  -- a thread that is no live timer takes nothing from the leases of the state before
  have hother : ¬ (t.Scheduled ∨ t.Running) → ∀ pc l, l ∈ σ.started → l ∉ σ.stopping →
      l ∉ σ.failed → (σ.goto i pc).Renewed l :=
    fun hidle pc l hl hs hf => (h l hl hs hf).goto_other hi hidle pc
  -- and a thread whose lease is owed nothing neither
  have hne : ∀ l, t.leaseId ≠ l → ∀ pc, l ∈ σ.started → l ∉ σ.stopping → l ∉ σ.failed →
      (σ.goto i pc).Renewed l := fun l hne pc hl hs hf => (h l hl hs hf).goto_of_ne hi hne pc
  unfold LeaseCoordinator.proceed
  cases hpc : t.pc with
  | resetting =>
      exact fun l hl hs hf => hother (by simp [LeaseThread.Scheduled, LeaseThread.Running, hpc]) _
        l hl hs hf
  | scheduling =>
      intro l hl hs hf
      refine Renewed.goto_running (σ := { σ.spawn _ with timers := _ }) ?_
        (fun t ht => by simp [LeaseThread.Running, ht])
      exact (h l hl hs hf).spawn _
  | launching n =>
      intro l hl hs hf
      dsimp only at hl hs hf ⊢
      split at hl
      · next ht =>
        rw [if_pos ht] at hs hf ⊢
        exact h.launch hw hi hpc (Or.inl hl) hs hf
      · next ht =>
        rw [if_neg ht] at hs hf ⊢
        refine h.launch hw hi hpc ?_ hs hf
        exact (List.mem_append.mp hl).imp id List.mem_singleton.mp
  | waiting =>
      intro l hl hs hf
      cases hc : t.cancelled with
      | true =>
          exact hother (by simp [LeaseThread.Scheduled, LeaseThread.Running, hpc, hc]) _ l hl hs hf
      | false =>
          exact (h l hl hs hf).goto_running fun t ht => by simp [LeaseThread.Running, ht]
  | checking =>
      intro l hl hs hf
      cases hr : σ.renewFailed with
      | false => exact (h l hl hs hf).goto_running fun t ht => by simp [LeaseThread.Running, ht]
      | true =>
          have hlost : t.leaseId ∈ σ.stopping ∨ t.leaseId ∈ σ.failed := by
            simpa [undisturbed, hi, hpc, hr] using hok
          refine hne l ?_ _ hl hs hf
          rintro rfl
          exact hlost.elim hs hf
  | renewing =>
      have hfailing : ∀ pc, ∀ l ∈ σ.started, l ∉ σ.stopping → l ∉ σ.failed ++ [t.leaseId] →
          (σ.goto i pc).Renewed l := by
        intro pc l hl hs hf
        rw [List.mem_append, not_or] at hf
        exact hne l (fun he => hf.2 (List.mem_singleton.mpr he.symm)) pc hl hs hf.1
      cases outcome with
      | outage => exact hfailing .finished
      | served first second =>
          show Ongoing (σ.callRenew kind ttl i t.leaseId first second)
          unfold callRenew
          dsimp only
          split
          · split
            · exact fun l hl hs hf => Renewed.goto_running (σ := { σ with repo := _ })
                (h l hl hs hf) fun t ht => by simp [LeaseThread.Running, ht]
            · exact hfailing .failing
          · exact h
  | failing =>
      exact fun l hl hs hf => hother (by simp [LeaseThread.Scheduled, LeaseThread.Running, hpc]) _
        l hl hs hf
  | popping release =>
      exact fun l hl hs hf => hother (by simp [LeaseThread.Scheduled, LeaseThread.Running, hpc]) _
        l hl hs hf
  | cancelling timer release =>
      intro l hl hs hf
      have hmem : t.leaseId ∈ σ.stopping :=
        hw.stopping t (List.mem_of_getElem? hi) (by simp [LeaseThread.Stops, hpc])
      cases timer with
      | none =>
          exact hother (by simp [LeaseThread.Scheduled, LeaseThread.Running, hpc]) _ l hl hs hf
      | some n =>
          obtain ⟨u, hu, hul, -⟩ := exists_thread_of_owners (hw.cancelling i t n release hi hpc)
          -- the cancelled timer is one of the stopped lease
          have hnot : ∀ v, σ.threads[n]? = some v → v.leaseId ≠ l := by
            intro v hv he
            rw [← Option.some.inj (hu.symm.trans hv), hul] at he
            exact hs (he ▸ hmem)
          have hcancelled : (σ.cancelTimer (some n)).Renewed l :=
            (h l hl hs hf).update fun v hv he _ => absurd he (hnot v hv)
          refine hcancelled.update fun v hv he _ => absurd he ?_
          rw [show σ.cancelTimer (some n) = σ.updateThread n _ from rfl, getElem?_updateThread, hi,
            Option.map_some] at hv
          rw [← Option.some.inj hv]
          split
          · exact fun he => hs (he ▸ hmem)
          · exact fun he => hs (he ▸ hmem)
  | releasing =>
      have hidle : ¬ (t.Scheduled ∨ t.Running) := by
        simp [LeaseThread.Scheduled, LeaseThread.Running, hpc]
      cases outcome with
      | outage => exact hother hidle .finished
      | served first second =>
          dsimp only
          split
          · exact hother hidle .finished
          · exact h
  | unstarted => exact h
  | finished => exact h

theorem Ongoing.step (h : Ongoing σ) (hw : Wired σ) {a : CoordinatorAction}
    (hok : σ.undisturbed a) (kind : TaskLeaseRepoKind) (ttl : Time) :
    Ongoing (σ.step kind ttl a) := by
  -- a call of `stop_renewal` only adds to the leases that are owed nothing
  have hstop : ∀ leaseId release, Ongoing { σ.spawn { leaseId, pc := .popping release } with
      stopping := σ.stopping ++ [leaseId] } := by
    intro leaseId release l hl hs hf
    rw [List.mem_append, not_or] at hs
    exact (h l hl hs.1 hf).spawn _
  cases a with
  | onTable call => exact h
  | startRenewal leaseId => exact fun l hl hs hf => (h l hl hs hf).spawn _
  | stopRenewal leaseId => exact hstop leaseId false
  | release leaseId => exact hstop leaseId true
  | proceed i outcome =>
      show Ongoing (match σ.threads[i]? with
        | none => σ
        | some t => σ.proceed kind ttl i t outcome)
      cases hi : σ.threads[i]? with
      | none => exact h
      | some t => exact h.proceed hw hi hok kind ttl

/-! ### A stopped lease is not renewed again -/

/-- No thread of a stopped lease leads to a renewal. -/
def Ended (σ : LeaseCoordinator) : Prop :=
  ∀ t ∈ σ.threads, t.leaseId ∈ σ.stopped → ¬ t.Active

theorem Ended.update (h : Ended σ) (hf : ∀ t, σ.threads[i]? = some t →
    (f t).leaseId ∈ σ.stopped → (f t).Active → t.leaseId ∈ σ.stopped ∧ t.Active) :
    Ended (σ.updateThread i f) := by
  intro t ht hl hactive
  rcases mem_updateThread ht with ht | ⟨t₀, ht₀, rfl⟩
  · exact h t ht hl hactive
  · obtain ⟨hl₀, hactive₀⟩ := hf t₀ ht₀ hl hactive
    exact h t₀ (List.mem_of_getElem? ht₀) hl₀ hactive₀

/-- A thread goes somewhere without becoming active by it. -/
theorem Ended.goto (h : Ended σ) {t : LeaseThread} (hi : σ.threads[i]? = some t)
    {pc : LeaseThreadPc} (hpc : ({ t with pc } : LeaseThread).Active → t.Active) :
    Ended (σ.goto i pc) := by
  refine h.update fun u hu hl hactive => ?_
  obtain rfl := Option.some.inj (hi.symm.trans hu)
  exact ⟨hl, hpc hactive⟩

theorem Ended.spawn (h : Ended σ) {t : LeaseThread} (ht : t.Active → t.leaseId ∉ σ.stopped) :
    Ended (σ.spawn t) := by
  intro u hu hl hactive
  rcases List.mem_append.mp hu with hu | hu
  · exact h u hu hl hactive
  · obtain rfl := List.mem_singleton.mp hu
    exact ht hactive hl

/-- An active thread is not one of a stopped lease. -/
theorem Ended.not_stopped (h : Ended σ) {t : LeaseThread} (hi : σ.threads[i]? = some t)
    (hactive : t.Active) : t.leaseId ∉ σ.stopped := fun hl =>
  h t (List.mem_of_getElem? hi) hl hactive

theorem Ended.launch (h : Ended σ) (hw : Wired σ) {t : LeaseThread} {n : Nat}
    (hi : σ.threads[i]? = some t) (hpc : t.pc = .launching n) :
    Ended ((σ.goto n .waiting).goto i .finished) := by
  obtain ⟨hin, hn⟩ := hw.launching i t n hi hpc
  obtain ⟨u, hu, hul, -⟩ := exists_thread_of_owners hn
  have hwaiting : Ended (σ.goto n .waiting) := by
    refine h.update fun v hv hl _ => absurd hl ?_
    show v.leaseId ∉ σ.stopped
    rw [← Option.some.inj (hu.symm.trans hv), hul]
    exact h.not_stopped hi (by simp [LeaseThread.Active, hpc])
  exact hwaiting.goto ((getElem?_updateThread_ne (Nat.ne_of_gt hin)).trans hi)
    (by simp [LeaseThread.Active])

/-- `cancel` reaches the one thread that leads to a renewal of the lease. -/
theorem Ended.cancel (h : Ended σ) {t : LeaseThread} {timer : Option Nat} {release : Bool}
    (hi : σ.threads[i]? = some t) (hpc : t.pc = .cancelling timer release) {outcome : RepoOutcome}
    (hok : σ.undisturbed (.proceed i outcome)) (pc : LeaseThreadPc)
    (hidle : pc = .releasing ∨ pc = .finished) :
    Ended { (σ.cancelTimer timer).goto i pc with stopped := σ.stopped ++ [t.leaseId] } := by
  have honly : ∀ j (u : LeaseThread), σ.threads[j]? = some u → u.leaseId = t.leaseId → u.Active →
      timer = some j ∧ u.Idle := by
    intro j u hu hl hactive
    have hall := hok
    simp only [undisturbed, hi, hpc, List.all_eq_true] at hall
    have hj := hall (u, j) (List.mem_zipIdx_iff_getElem?.mpr hu)
    simpa [hl, hactive] using hj
  have hgone : ∀ u ∈ (σ.cancelTimer timer).threads, u.leaseId = t.leaseId → ¬ u.Active := by
    intro u hu hl hactive
    cases timer with
    | none =>
        obtain ⟨j, hj⟩ := List.mem_iff_getElem?.mp hu
        exact absurd (honly j u hj hl hactive).1 (by simp)
    | some n =>
        obtain ⟨j, hj⟩ := List.mem_iff_getElem?.mp hu
        by_cases hnj : n = j
        · subst hnj
          rw [show (σ.cancelTimer (some n)).threads = (σ.updateThread n _).threads from rfl,
            getElem?_updateThread] at hj
          obtain ⟨v, hv, rfl⟩ := Option.map_eq_some_iff.mp hj
          rw [if_pos rfl] at hl hactive
          -- a cancelled timer is active only past its interval, where it was no less active
          have hvactive : v.Active := by
            revert hactive
            cases hvpc : v.pc <;> simp [LeaseThread.Active, hvpc]
          have hvidle := (honly n v hv hl hvactive).2
          revert hactive hvidle
          cases hvpc : v.pc <;> simp [LeaseThread.Active, LeaseThread.Idle, hvpc]
        · have hj : σ.threads[j]? = some u := (getElem?_updateThread_ne hnj).symm.trans hj
          exact hnj (Option.some.inj (honly j u hj hl hactive).1)
  have hcancelled : Ended (σ.cancelTimer timer) := by
    cases timer with
    | none => exact h
    | some n =>
        refine h.update fun v _ hl hactive => ⟨hl, ?_⟩
        revert hactive
        cases hvpc : v.pc <;> simp [LeaseThread.Active, hvpc]
  intro u hu hl
  have hinactive : ∀ v : LeaseThread, ¬ ({ v with pc } : LeaseThread).Active := by
    rcases hidle with rfl | rfl <;> simp [LeaseThread.Active]
  rcases mem_updateThread hu with hu | ⟨v, -, rfl⟩
  · rcases List.mem_append.mp (show u.leaseId ∈ σ.stopped ++ [t.leaseId] from hl) with hl | hl
    · have hsame : (σ.cancelTimer timer).stopped = σ.stopped := by cases timer <;> rfl
      exact hcancelled u hu (hsame ▸ hl)
    · exact hgone u hu (List.mem_singleton.mp hl)
  · exact hinactive v

theorem Ended.proceed (h : Ended σ) (hw : Wired σ) {t : LeaseThread}
    (hi : σ.threads[i]? = some t) {outcome : RepoOutcome}
    (hok : σ.undisturbed (.proceed i outcome)) (kind : TaskLeaseRepoKind) (ttl : Time) :
    Ended (σ.proceed kind ttl i t outcome) := by
  unfold LeaseCoordinator.proceed
  cases hpc : t.pc with
  | resetting => exact h.goto (σ := σ) hi (by simp [LeaseThread.Active, hpc])
  | scheduling =>
      have hnew : t.leaseId ∉ σ.stopped := h.not_stopped hi (by simp [LeaseThread.Active, hpc])
      have hspawn := h.spawn (t := { leaseId := t.leaseId, pc := .unstarted, timer := true })
        fun _ => hnew
      refine Ended.goto (σ := { σ.spawn _ with timers := _ }) (t := t) hspawn ?_
        (by simp [LeaseThread.Active, hpc])
      show (σ.threads ++ _)[i]? = _
      rw [List.getElem?_append_left (List.getElem?_eq_some_iff.mp hi).1, hi]
  | launching n =>
      dsimp only
      split
      · exact h.launch hw hi hpc
      · exact h.launch hw hi hpc
  | waiting =>
      cases hc : t.cancelled with
      | true => exact h.goto hi (by simp [LeaseThread.Active])
      | false => exact h.goto hi (by simp [LeaseThread.Active, hpc, hc])
  | checking => exact h.goto hi (by simp [LeaseThread.Active, hpc])
  | renewing =>
      cases outcome with
      | outage => exact h.goto (σ := σ) hi (by simp [LeaseThread.Active])
      | served first second =>
          show Ended (σ.callRenew kind ttl i t.leaseId first second)
          unfold callRenew
          dsimp only
          split
          · split
            · exact Ended.goto (σ := { σ with repo := _ }) h hi (by simp [LeaseThread.Active, hpc])
            · exact Ended.goto (σ := { σ with repo := _ }) h hi (by simp [LeaseThread.Active])
          · exact h
  | failing => exact h.goto (σ := σ) hi (by simp [LeaseThread.Active])
  | popping release =>
      exact Ended.goto (σ := { σ with timers := _ }) h hi (by simp [LeaseThread.Active])
  | cancelling timer release =>
      refine h.cancel hi hpc hok _ ?_
      cases release
      · exact Or.inr rfl
      · exact Or.inl rfl
  | releasing =>
      cases outcome with
      | outage => exact h.goto hi (by simp [LeaseThread.Active])
      | served first second =>
          dsimp only
          split
          · exact Ended.goto (σ := { σ with repo := _ }) h hi (by simp [LeaseThread.Active])
          · exact h
  | unstarted => exact h
  | finished => exact h

theorem Ended.step (h : Ended σ) (hw : Wired σ) {a : CoordinatorAction} (hok : σ.undisturbed a)
    (kind : TaskLeaseRepoKind) (ttl : Time) : Ended (σ.step kind ttl a) := by
  cases a with
  | onTable call => exact h
  | startRenewal leaseId =>
      refine h.spawn fun _ hl => ?_
      have hnew : leaseId ∉ σ.stopping := by simpa [undisturbed] using hok
      exact hnew (hw.stopped leaseId hl)
  | stopRenewal leaseId =>
      exact h.spawn (t := { leaseId, pc := .popping false }) (by simp [LeaseThread.Active])
  | release leaseId =>
      exact h.spawn (t := { leaseId, pc := .popping true }) (by simp [LeaseThread.Active])
  | proceed i outcome =>
      show Ended (match σ.threads[i]? with
        | none => σ
        | some t => σ.proceed kind ttl i t outcome)
      cases hi : σ.threads[i]? with
      | none => exact h
      | some t => exact h.proceed hw hi hok kind ttl

/-! ### Every interleaving

The two facts about single leases, for all of them at once.
-/

/-- What an undisturbed step keeps. -/
structure Inv (σ : LeaseCoordinator) : Prop where
  wired : Wired σ
  ongoing : Ongoing σ
  ended : Ended σ

theorem Inv.init (repo : LeaseSys) : Inv { repo } where
  wired := Wired.init repo
  ongoing := fun l hl => absurd hl (by simp)
  ended := fun t ht => absurd ht (by simp)

theorem Inv.step (h : Inv σ) {a : CoordinatorAction} (hok : σ.undisturbed a)
    (kind : TaskLeaseRepoKind) (ttl : Time) : Inv (σ.step kind ttl a) where
  wired := h.wired.step kind ttl a
  ongoing := h.ongoing.step h.wired hok kind ttl
  ended := h.ended.step h.wired hok kind ttl

theorem Inv.independent (h : Inv σ) : RenewalsIndependent σ where
  renewed := h.ongoing
  ended := by
    rintro leaseId hl - t ht rfl hscheduled
    exact h.ended t ht hl (LeaseThread.active_of_scheduled hscheduled)

/-- **Renewals of different leases are independent** in every interleaving whose steps meet none
of the races, whatever the other processes do to the table. -/
theorem renewals_independent (kind : TaskLeaseRepoKind) (ttl : Time) (repo : LeaseSys)
    (as : List CoordinatorAction)
    (hok : Along (step kind ttl) (fun σ a => σ.undisturbed a) { repo } as) :
    ∀ pre, pre <+: as → RenewalsIndependent (run (step kind ttl) { repo } pre) := by
  rintro pre ⟨post, rfl⟩
  have hinv : Inv (run (step kind ttl) { repo } pre) :=
    run_along (motive := Inv) (fun _ _ h ha => h.step ha kind ttl) (Inv.init repo)
      (along_append.mp hok).1
  exact hinv.independent

/-- `try_acquire` on the table. -/
def grant (leaseId taskId : String) (now : Time) : CoordinatorAction :=
  .onTable { call := .tryAcquire leaseId taskId "worker" 60, first := now, second := now }

/-- The next operation of a thread, with one clock reading. -/
def next (i : Nat) (now : Time) : CoordinatorAction := .proceed i (.served now now)

/-- A lease that is renewed once and then released. -/
def renewedOnce : List CoordinatorAction :=
  [grant "l" "t" 0, .startRenewal "l", next 0 0, next 0 0, next 0 0,
    next 1 30, next 1 30, next 1 30, next 1 30, next 1 30,
    .release "l", next 3 40, next 3 40, next 3 40, next 2 60]

theorem renewedOnce_independent :
    (∃ t ∈ (run (step .postgres 60) { repo := { clock := 0 } } (renewedOnce.take 10)).threads,
      t.Scheduled) ∧
    RenewalsIndependent (run (step .postgres 60) { repo := { clock := 0 } } renewedOnce) :=
  ⟨by decide, renewals_independent .postgres 60 { clock := 0 } renewedOnce (by decide) renewedOnce
    List.prefix_rfl⟩

/-- The lease `m` expires before its timer fires; the timer of `l` then finds the flag set. -/
def failedElsewhere : List CoordinatorAction :=
  [grant "m" "u" 0, .startRenewal "m", next 0 0, next 0 0, next 0 0,
    grant "l" "t" 90, .startRenewal "l", next 2 90, next 2 90, next 2 90,
    next 1 100, next 1 100, next 1 100, next 1 100, next 3 120, next 3 120]

/-- The renewal of `l` is under way when it is stopped. -/
def stoppedUnderWay : List CoordinatorAction :=
  [grant "l" "t" 0, .startRenewal "l", next 0 0, next 0 0, next 0 0, next 1 30, next 1 30,
    .stopRenewal "l", next 2 30, next 2 30, next 1 30, next 1 30, next 1 30]

/-- Neither half holds of every interleaving. -/
theorem renewals_interfere :
    (¬ ∀ as, ∀ leaseId ∈ (run (step .postgres 60) { repo := { clock := 0 } } as).started,
      leaseId ∉ (run (step .postgres 60) { repo := { clock := 0 } } as).stopping →
      leaseId ∉ (run (step .postgres 60) { repo := { clock := 0 } } as).failed →
      (run (step .postgres 60) { repo := { clock := 0 } } as).Renewed leaseId) ∧
    ¬ ∀ as, RenewalsIndependent (run (step .postgres 60) { repo := { clock := 0 } } as) := by
  refine ⟨fun h => ?_, fun h => ?_⟩
  · obtain ⟨t, ht, hl, hlive⟩ := h failedElsewhere "l" (by decide) (by decide) (by decide)
    revert hlive
    revert t
    decide
  · have hended := (h stoppedUnderWay).ended "l" (by decide) (by decide)
    revert hended
    decide

end LeaseCoordinator

end CartoonDemo
