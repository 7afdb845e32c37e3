import CartoonDemo.Config.Conversions

/-!
# CartoonDemo.Config.SafeToRun

**An accepted configuration is safe to run on**, as far as its numbers are numbers. The
validator refuses a value by `value <= 0`, which nan and the positive infinity pass, and the
mapper's `_require_positive_float` looks at the type only. Everything else that the runtime
relies on does hold of every accepted configuration: the references resolve, the four policies
are there, the counts are positive, the injections exist.

The condition of `safeToRun_iff` is read off the tree: what stands at the paths of the seconds
(`SecondsFinite`), and what is converted (`Convertible`).
-/

namespace CartoonDemo

open RawConfigTree SchemaMapper ConfigValidator

/-! ### Safety

What the program relies on in a configuration.
-/

/-- The backoff's numbers. -/
def RetryPolicyDraft.seconds (policy : RetryPolicyDraft) : List PyFloat :=
  [policy.backoff.initialSeconds, policy.backoff.multiplier, policy.backoff.maxSeconds]

/-- The timeouts that are present. -/
def TimeoutDraft.seconds (timeout : TimeoutDraft) : List PyFloat :=
  timeout.readSeconds :: (timeout.connectSeconds.toList ++ timeout.totalSeconds.toList)

/-- A finite number greater than 0. -/
def PyFloat.Usable (x : PyFloat) : Prop := x.isFinite ∧ PyFloat.zero.lt x

/-- Every backoff and timeout of the configuration satisfies `p`. -/
structure ConcreteAppConfig.AllSeconds (config : ConcreteAppConfig) (p : PyFloat → Prop) :
    Prop where
  backoff : ∀ taskType policy, config.getRetryPolicy taskType = some policy →
    ∀ x ∈ policy.seconds, p x
  timeout : ∀ providerId timeout, config.timeouts.lookup providerId = some timeout →
    ∀ x ∈ timeout.seconds, p x

/-- What the processes rely on, but for the seconds. -/
structure ConcreteAppConfig.Resolved (config : ConcreteAppConfig) : Prop where
  agentConfig : ∀ agentId, (config.getAgentConfig agentId).isSome
  agentProvider : ∀ agentId agent, config.getAgentConfig agentId = some agent →
    (config.getProviderConfig agent.provider).isSome ∧
      (config.timeouts.lookup agent.provider).isSome
  retryPolicy : ∀ taskType, ∃ policy,
    config.getRetryPolicy taskType = some policy ∧ 1 ≤ policy.maxAttempts
  concurrency : ∀ agentId, ∃ n, config.getWorkerConcurrency agentId = some n ∧ 0 < n
  candidateCount : 0 < config.collection.candidateCount
  maxScenarioRevisions : 0 < config.workflow.maxScenarioRevisions
  rateLimit : ∀ providerId provider n, config.getProviderConfig providerId = some provider →
    provider.rateLimitPerMinute = some n → 0 < n
  injections : ∀ ref ∈ config.failureInjection.activeInjections, ∃ id, ref = .known id

/-- An accepted configuration is safe to run on, and `get_provider_config` finds `p`; a refused
one is refused with a `ConfigError`. -/
def SafeToRun (world : Surroundings) (tree : RawConfigTree) (p : ProviderId) : Prop :=
  match loadConfig world tree with
  | .error e => e.IsConfigError
  | .ok config => config.Resolved ∧ config.AllSeconds PyFloat.Usable ∧
      (config.getProviderConfig p).isSome

/-! ### The numbers of a tree

The places of the seconds in a tree, and the numbers that stand there.
-/

/-- The node at a path of names. -/
def Node.at : List String → Node → Option Node
  | [], node => some node
  | name :: path, .mapping entries => (find? entries name).bind (Node.at path)
  | _, _ => none

/-- The fields of a backoff. -/
def backoffKeys : List String := ["initial_seconds", "multiplier", "max_seconds"]

/-- The fields of a timeout. -/
def timeoutKeys : List String := ["read_seconds", "connect_seconds", "total_seconds"]

/-- The paths of the seconds. -/
def secondsPaths : List (List String) :=
  TaskType.all.flatMap (fun t => backoffKeys.map fun key => ["retry", t.value, "backoff", key]) ++
  ProviderId.all.flatMap fun p => timeoutKeys.map fun key => ["timeouts", p.value, key]

namespace RawConfigTree

/-- There is neither nan nor an infinity where seconds are expected. -/
def SecondsFinite (tree : RawConfigTree) : Prop :=
  ∀ path ∈ secondsPaths, ∀ x, (Node.mapping tree).at path = some (.float x) → x.isFinite

/-- The tree has an entry for the provider. -/
def Defines (tree : RawConfigTree) (p : ProviderId) : Prop :=
  ((Node.mapping tree).at ["providers", p.value]).isSome

end RawConfigTree

theorem at_singleton (node : RawConfigTree) (key : String) :
    (Node.mapping node).at [key] = find? node key := by
  simp only [Node.at]
  cases find? node key <;> rfl

/-- A path goes through the mappings of its keys. -/
theorem at_cons {node entries : RawConfigTree} {key : String} (path : List String)
    (h : find? node key = some (.mapping entries)) :
    (Node.mapping node).at (key :: path) = (Node.mapping entries).at path := by
  simp only [Node.at, h, Option.bind_some]

/-! ### Numbers that were read -/

/-- An integer is always finite, a float is read as it stands. -/
theorem isFinite_requirePositiveFloat {node : Node} {keyPath : String} {x : PyFloat}
    (h : requirePositiveFloat node keyPath = .ok x) :
    x.isFinite ↔ ∀ y, node = .float y → y.isFinite := by
  cases node with
  | int n =>
      simp only [requirePositiveFloat] at h
      split at h
      · next y hy =>
        obtain rfl := Except.ok.inj h
        exact iff_of_true (PyFloat.isFinite_of_ofInt hy) (by simp)
      · exact absurd h (by simp)
  | float y =>
      obtain rfl := Except.ok.inj h
      exact ⟨fun hx z hz => Node.float.inj hz ▸ hx, fun hall => hall y rfl⟩
  | _ => exact absurd h (by simp [requirePositiveFloat])

/-- The number under a key. -/
theorem isFinite_floatKey {node : RawConfigTree} {root key : String} {x : PyFloat}
    (h : floatKey node root key = .ok x) :
    x.isFinite ↔ ∀ y, find? node key = some (.float y) → y.isFinite := by
  obtain ⟨value, hvalue, h⟩ := except_bind_ok h
  unfold requireKey at hvalue
  cases hfind : find? node key with
  | none => rw [hfind] at hvalue; exact absurd hvalue (by simp)
  | some v =>
      rw [hfind] at hvalue
      obtain rfl := Except.ok.inj hvalue
      rw [isFinite_requirePositiveFloat h]
      simp only [Option.some.injEq]

/-- The number under a key that may be missing. -/
theorem isFinite_optionalFloat {node : RawConfigTree} {key keyPath : String} {o : Option PyFloat}
    (h : optionalFloat (get node key) keyPath = .ok o) :
    (∀ x ∈ o.toList, x.isFinite) ↔ ∀ y, find? node key = some (.float y) → y.isFinite := by
  unfold RawConfigTree.get at h
  cases hfind : find? node key with
  | none =>
      rw [hfind] at h
      obtain rfl := Except.ok.inj h
      simp
  | some v =>
      rw [hfind, Option.getD_some] at h
      unfold optionalFloat at h
      split at h
      · obtain rfl := Except.ok.inj h
        simp
      · obtain ⟨x, hx, rfl⟩ := except_map_ok h
        simp only [Option.toList_some, List.mem_singleton, forall_eq, Option.some.injEq]
        exact isFinite_requirePositiveFloat hx

theorem mapping_of_requireMapping {node : Node} {keyPath : String} {m : RawConfigTree}
    (h : requireMapping node keyPath = .ok m) : node = .mapping m := by
  cases node with
  | mapping entries => obtain rfl := Except.ok.inj h; rfl
  | _ => exact absurd h (by simp [requireMapping])

theorem find_of_mappingKey {node : RawConfigTree} {root key : String} {m : RawConfigTree}
    (h : mappingKey node root key = .ok m) : find? node key = some (.mapping m) := by
  obtain ⟨value, hvalue, h⟩ := except_bind_ok h
  obtain rfl := mapping_of_requireMapping h
  unfold requireKey at hvalue
  cases hfind : find? node key with
  | none => rw [hfind] at hvalue; exact absurd hvalue (by simp)
  | some v => rw [hfind] at hvalue; exact congrArg some (Except.ok.inj hvalue)

theorem find_of_requireDomain {tree : RawConfigTree} {name : String} {m : RawConfigTree}
    (h : requireDomain tree name = .ok m) : find? tree name = some (.mapping m) := by
  unfold requireDomain at h
  cases hfind : find? tree name with
  | none => rw [hfind] at h; exact absurd h (by simp)
  | some v => rw [hfind] at h; exact congrArg some (mapping_of_requireMapping h)

/-- The seconds of a policy are the numbers of its backoff. -/
theorem seconds_of_mapRetryEntry {node : RawConfigTree} {taskType : TaskType}
    {policy : RetryPolicyDraft} (h : mapRetryEntry node taskType = .ok (taskType, policy)) :
    ∃ entry backoff, find? node taskType.value = some (.mapping entry) ∧
      find? entry "backoff" = some (.mapping backoff) ∧
      ((∀ x ∈ policy.seconds, x.isFinite) ↔
        ∀ key ∈ backoffKeys, ∀ x, find? backoff key = some (.float x) → x.isFinite) := by
  unfold mapRetryEntry at h
  dsimp only at h
  cases hfind : find? node taskType.value with
  | none => rw [hfind] at h; exact absurd h (by simp [throw, throwThe, MonadExceptOf.throw])
  | some value =>
      rw [hfind] at h
      obtain ⟨entry, hentry, h⟩ := except_bind_ok h
      obtain ⟨policy', hpolicy, h⟩ := except_bind_ok h
      obtain rfl : policy' = policy := (Prod.mk.inj (Except.ok.inj h)).2
      obtain rfl := mapping_of_requireMapping hentry
      obtain ⟨backoff, hbackoff, hpolicy⟩ := except_bind_ok hpolicy
      obtain ⟨maxAttempts, -, hpolicy⟩ := except_bind_ok hpolicy
      obtain ⟨initial, hinitial, hpolicy⟩ := except_bind_ok hpolicy
      obtain ⟨multiplier, hmultiplier, hpolicy⟩ := except_bind_ok hpolicy
      obtain ⟨maxSeconds, hmax, hpolicy⟩ := except_bind_ok hpolicy
      obtain rfl := Except.ok.inj hpolicy
      refine ⟨entry, backoff, rfl, find_of_mappingKey hbackoff, ?_⟩
      simp only [RetryPolicyDraft.seconds, backoffKeys, List.forall_mem_cons,
        List.not_mem_nil, false_implies, implies_true, and_true, isFinite_floatKey hinitial,
        isFinite_floatKey hmultiplier, isFinite_floatKey hmax]

/-- The seconds of a timeout are the numbers of its entry. -/
theorem seconds_of_mapTimeout {p : ProviderId} {value : Node} {timeout : TimeoutDraft}
    (h : mapTimeout (.str p.value, value) = .ok (p, timeout)) :
    ∃ entry, value = .mapping entry ∧
      ((∀ x ∈ timeout.seconds, x.isFinite) ↔
        ∀ key ∈ timeoutKeys, ∀ x, find? entry key = some (.float x) → x.isFinite) := by
  unfold mapTimeout at h
  rw [providerOfKey_value, except_ok_bind] at h
  obtain ⟨entry, hentry, h⟩ := except_bind_ok h
  obtain ⟨connect, hconnect, h⟩ := except_bind_ok h
  obtain ⟨read, hread, h⟩ := except_bind_ok h
  obtain ⟨total, htotal, h⟩ := except_bind_ok h
  obtain rfl := (Prod.mk.inj (Except.ok.inj h)).2
  refine ⟨entry, mapping_of_requireMapping hentry, ?_⟩
  simp only [TimeoutDraft.seconds, timeoutKeys, List.forall_mem_cons, List.forall_mem_append,
    List.not_mem_nil, false_implies, implies_true, and_true, isFinite_floatKey hread,
    isFinite_optionalFloat hconnect, isFinite_optionalFloat htotal]

/-! ### What an accepted tree holds

The mapper reads each number from its place, and the validator has checked it.
-/

/-- A provider is found under its own name. -/
theorem value_of_providerOfKey {key : NodeKey} {p : ProviderId} (h : providerOfKey key = .ok p) :
    key = .str p.value := by
  unfold providerOfKey at h
  cases hfind : ProviderId.all.find? (fun p => key = .str p.value) with
  | none => rw [hfind] at h; exact absurd h (by simp)
  | some q =>
      rw [hfind] at h
      obtain rfl := Except.ok.inj h
      simpa using List.find?_some hfind

theorem providerKey_injective :
    Function.Injective fun p : ProviderId => NodeKey.str p.value := by
  intro p q h
  have hvalue : p.value = q.value := NodeKey.str.inj h
  cases p <;> cases q <;> first | rfl | exact absurd hvalue (by decide)

section MapResult

variable {world : Surroundings} {tree : RawConfigTree} {draft : ConfigDraft}

/-- The domains of a tree that was mapped, as far as they are needed. -/
theorem domains_of_map (h : SchemaMapper.map world tree = .ok draft) :
    (∃ node, mapAgents node = .ok draft.agents) ∧
    (∃ node, find? tree "providers" = some (.mapping node) ∧
      mapProviders world node = .ok draft.providers) ∧
    (∃ node, find? tree "retry" = some (.mapping node) ∧ mapRetry node = .ok draft.retry) ∧
    ∃ node, find? tree "timeouts" = some (.mapping node) ∧
      mapTimeouts node draft.agents = .ok draft.timeouts := by
  obtain ⟨version, -, h⟩ := except_bind_ok h
  obtain ⟨infrastructureNode, -, h⟩ := except_bind_ok h
  obtain ⟨infrastructure, -, h⟩ := except_bind_ok h
  obtain ⟨agentsNode, -, h⟩ := except_bind_ok h
  obtain ⟨agents, hagents, h⟩ := except_bind_ok h
  obtain ⟨providersNode, hprovidersNode, h⟩ := except_bind_ok h
  obtain ⟨providers, hproviders, h⟩ := except_bind_ok h
  obtain ⟨collectionNode, -, h⟩ := except_bind_ok h
  obtain ⟨collection, -, h⟩ := except_bind_ok h
  obtain ⟨workflowNode, -, h⟩ := except_bind_ok h
  obtain ⟨workflow, -, h⟩ := except_bind_ok h
  obtain ⟨workersNode, -, h⟩ := except_bind_ok h
  obtain ⟨workers, -, h⟩ := except_bind_ok h
  obtain ⟨retryNode, hretryNode, h⟩ := except_bind_ok h
  obtain ⟨retry, hretry, h⟩ := except_bind_ok h
  obtain ⟨timeoutsNode, htimeoutsNode, h⟩ := except_bind_ok h
  obtain ⟨timeouts, htimeouts, h⟩ := except_bind_ok h
  obtain ⟨injection, -, h⟩ := except_bind_ok h
  obtain rfl := Except.ok.inj h
  exact ⟨⟨agentsNode, hagents⟩,
    ⟨providersNode, find_of_requireDomain hprovidersNode, hproviders⟩,
    ⟨retryNode, find_of_requireDomain hretryNode, hretry⟩,
    ⟨timeoutsNode, find_of_requireDomain htimeoutsNode, htimeouts⟩⟩

/-- Every agent has an entry. -/
theorem agents_of_map (h : SchemaMapper.map world tree = .ok draft) (agentId : AgentId) :
    ∃ agent, draft.agents.lookup agentId = some agent := by
  obtain ⟨⟨node, hagents⟩, -⟩ := domains_of_map h
  obtain ⟨u, -, hloop⟩ := except_bind_ok hagents
  have hkey : ∀ k y, mapAgent node k = .ok y → y.1 = k := by
    intro k y hy
    unfold mapAgent at hy
    dsimp only at hy
    split at hy
    · exact absurd hy (by simp [throw, throwThe, MonadExceptOf.throw])
    · obtain ⟨_, -, hy⟩ := except_bind_ok hy
      obtain ⟨_, -, hy⟩ := except_bind_ok hy
      obtain ⟨_, -, hy⟩ := except_bind_ok hy
      obtain ⟨_, -, hy⟩ := except_bind_ok hy
      obtain ⟨_, -, hy⟩ := except_bind_ok hy
      obtain rfl := Except.ok.inj hy
      rfl
  have hmem : agentId ∈ AgentId.all := by cases agentId <;> decide
  obtain ⟨agent, hagent, -⟩ := lookup_of_mapM_keys hkey hloop hmem
  exact ⟨agent, hagent⟩

/-- Each task type has the policy that its entry describes. -/
theorem retry_of_map (h : SchemaMapper.map world tree = .ok draft) : ∃ node,
    find? tree "retry" = some (.mapping node) ∧ ∀ taskType, ∃ policy,
      draft.retry.lookup taskType = some policy ∧
        mapRetryEntry node taskType = .ok (taskType, policy) := by
  obtain ⟨-, -, ⟨node, hnode, hretry⟩, -⟩ := domains_of_map h
  obtain ⟨u, -, hloop⟩ := except_bind_ok hretry
  have hkey : ∀ k y, mapRetryEntry node k = .ok y → y.1 = k := by
    intro k y hy
    unfold mapRetryEntry at hy
    dsimp only at hy
    split at hy
    · exact absurd hy (by simp [throw, throwThe, MonadExceptOf.throw])
    · obtain ⟨_, -, hy⟩ := except_bind_ok hy
      obtain ⟨_, -, hy⟩ := except_bind_ok hy
      obtain rfl := Except.ok.inj hy
      rfl
  refine ⟨node, hnode, fun taskType => ?_⟩
  have hmem : taskType ∈ TaskType.all := by cases taskType <;> decide
  exact lookup_of_mapM_keys hkey hloop hmem

/-- The providers of the draft are those of the tree. -/
theorem providers_of_map (h : SchemaMapper.map world tree = .ok draft) (p : ProviderId) :
    (draft.providers.lookup p).isSome ↔ tree.Defines p := by
  obtain ⟨-, ⟨node, hnode, hproviders⟩, -⟩ := domains_of_map h
  obtain ⟨u, -, hloop⟩ := except_bind_ok hproviders
  have hkey : ∀ x y, mapProvider world x = .ok y → x.1 = .str y.1.value := by
    intro x y hy
    obtain ⟨_, hid, hy⟩ := except_bind_ok hy
    obtain ⟨_, -, hy⟩ := except_bind_ok hy
    obtain ⟨_, -, hy⟩ := except_bind_ok hy
    obtain ⟨_, -, hy⟩ := except_bind_ok hy
    obtain ⟨_, -, hy⟩ := except_bind_ok hy
    obtain rfl := Except.ok.inj hy
    exact value_of_providerOfKey hid
  have hlookup := lookup_of_mapM_entries providerKey_injective hkey hloop p
  unfold RawConfigTree.Defines
  rw [at_cons _ hnode, at_singleton]
  unfold RawConfigTree.find?
  cases hfind : List.lookup (NodeKey.str p.value) node with
  | none => simp [hlookup.1 hfind]
  | some value =>
      obtain ⟨provider, hprovider, -⟩ := hlookup.2 value hfind
      simp [hprovider]

/-- A timeout of the draft is that of the tree, and the agents' providers have one. -/
theorem timeouts_of_map (h : SchemaMapper.map world tree = .ok draft) : ∃ node,
    find? tree "timeouts" = some (.mapping node) ∧
      (∀ p, find? node p.value = none → draft.timeouts.lookup p = none) ∧
      (∀ p value, find? node p.value = some value → ∃ timeout,
        draft.timeouts.lookup p = some timeout ∧
          mapTimeout (.str p.value, value) = .ok (p, timeout)) ∧
      ∀ entry ∈ draft.agents, (draft.timeouts.lookup entry.2.provider).isSome := by
  obtain ⟨-, -, -, node, hnode, htimeouts⟩ := domains_of_map h
  obtain ⟨u, -, htimeouts⟩ := except_bind_ok htimeouts
  obtain ⟨v, hrequired, hloop⟩ := except_bind_ok htimeouts
  have hkey : ∀ x y, mapTimeout x = .ok y → x.1 = .str y.1.value := by
    intro x y hy
    obtain ⟨_, hid, hy⟩ := except_bind_ok hy
    obtain ⟨_, -, hy⟩ := except_bind_ok hy
    obtain ⟨_, -, hy⟩ := except_bind_ok hy
    obtain ⟨_, -, hy⟩ := except_bind_ok hy
    obtain ⟨_, -, hy⟩ := except_bind_ok hy
    obtain rfl := Except.ok.inj hy
    exact value_of_providerOfKey hid
  have hlookup := lookup_of_mapM_entries providerKey_injective hkey hloop
  refine ⟨node, hnode, fun p => (hlookup p).1, fun p => (hlookup p).2, fun entry he => ?_⟩
  have hpresent : find? node entry.2.provider.value ≠ none := by
    unfold requireTimeouts at hrequired
    split at hrequired
    · next hnone => simpa using List.find?_eq_none.mp hnone entry he
    · exact absurd hrequired (by simp)
  obtain ⟨value, hvalue⟩ := Option.ne_none_iff_exists'.mp hpresent
  obtain ⟨timeout, htimeout, -⟩ := (hlookup entry.2.provider).2 value hvalue
  rw [htimeout]
  rfl

/-- The places of the seconds, spelled out. -/
theorem secondsFinite_iff_paths : tree.SecondsFinite ↔
    (∀ t : TaskType, ∀ key ∈ backoffKeys, ∀ x,
      (Node.mapping tree).at ["retry", t.value, "backoff", key] = some (.float x) →
        x.isFinite) ∧
    ∀ p : ProviderId, ∀ key ∈ timeoutKeys, ∀ x,
      (Node.mapping tree).at ["timeouts", p.value, key] = some (.float x) → x.isFinite := by
  have htask : ∀ t : TaskType, t ∈ TaskType.all := fun t => by cases t <;> decide
  have hprovider : ∀ p : ProviderId, p ∈ ProviderId.all := fun p => by cases p <;> decide
  unfold RawConfigTree.SecondsFinite secondsPaths
  rw [List.forall_mem_append]
  refine and_congr ⟨fun h t key hkey => ?_, fun h path hpath => ?_⟩
    ⟨fun h p key hkey => ?_, fun h path hpath => ?_⟩
  · exact h _ (List.mem_flatMap.mpr ⟨t, htask t, List.mem_map_of_mem hkey⟩)
  · obtain ⟨t, -, hpath⟩ := List.mem_flatMap.mp hpath
    obtain ⟨key, hkey, rfl⟩ := List.mem_map.mp hpath
    exact h t key hkey
  · exact h _ (List.mem_flatMap.mpr ⟨p, hprovider p, List.mem_map_of_mem hkey⟩)
  · obtain ⟨p, -, hpath⟩ := List.mem_flatMap.mp hpath
    obtain ⟨key, hkey, rfl⟩ := List.mem_map.mp hpath
    exact h p key hkey

/-- The seconds of the draft are finite exactly when those of the tree are. -/
theorem secondsFinite_iff (h : SchemaMapper.map world tree = .ok draft) :
    (AppConfigFactory.build draft).AllSeconds (fun x => x.isFinite) ↔ tree.SecondsFinite := by
  obtain ⟨retryNode, hretryNode, hretry⟩ := retry_of_map h
  obtain ⟨timeoutsNode, htimeoutsNode, hnone, hsome, -⟩ := timeouts_of_map h
  have hbackoff : ∀ t : TaskType,
      (∀ policy, draft.retry.lookup t = some policy → ∀ x ∈ policy.seconds, x.isFinite) ↔
        ∀ key ∈ backoffKeys, ∀ x,
          (Node.mapping tree).at ["retry", t.value, "backoff", key] = some (.float x) →
            x.isFinite := by
    intro t
    obtain ⟨policy, hlookup, hpolicy⟩ := hretry t
    obtain ⟨entry, backoff, hentry, hbackoff, hseconds⟩ := seconds_of_mapRetryEntry hpolicy
    simp only [hlookup, Option.some.injEq, forall_eq', hseconds, at_cons _ hretryNode,
      at_cons _ hentry, at_cons _ hbackoff, at_singleton]
  have htimeout : ∀ p : ProviderId,
      (∀ timeout, draft.timeouts.lookup p = some timeout →
        ∀ x ∈ timeout.seconds, x.isFinite) ↔
        ∀ key ∈ timeoutKeys, ∀ x,
          (Node.mapping tree).at ["timeouts", p.value, key] = some (.float x) →
            x.isFinite := by
    intro p
    cases hfind : find? timeoutsNode p.value with
    | none =>
        have hempty : ∀ path, (Node.mapping timeoutsNode).at (p.value :: path) = none := by
          intro path
          simp only [Node.at, hfind, Option.bind_none]
        simp [hnone p hfind, at_cons _ htimeoutsNode, hempty]
    | some value =>
        obtain ⟨timeout, hlookup, hmap⟩ := hsome p value hfind
        obtain ⟨entry, rfl, hseconds⟩ := seconds_of_mapTimeout hmap
        simp only [hlookup, Option.some.injEq, forall_eq', hseconds, at_cons _ htimeoutsNode,
          at_cons _ hfind, at_singleton]
  rw [secondsFinite_iff_paths]
  refine ⟨fun hall => ⟨fun t => (hbackoff t).mp (hall.backoff t), fun p =>
    (htimeout p).mp (hall.timeout p)⟩, fun hall => ⟨fun t => (hbackoff t).mpr (hall.1 t),
    fun p => (htimeout p).mpr (hall.2 p)⟩⟩

end MapResult

section Accepted

variable {world : Surroundings} {tree : RawConfigTree} {draft draft' : ConfigDraft}

/-- The validator returns the draft, with its references and numbers checked. -/
theorem validate_ok (h : ConfigValidator.validate world draft = .ok draft') :
    draft' = draft ∧ validateReferentialIntegrity draft = .ok () ∧
      ∀ c ∈ draft.numericChecks, c.passes := by
  obtain ⟨_, href, h⟩ := except_bind_ok h
  obtain ⟨_, hnumeric, h⟩ := except_bind_ok h
  obtain ⟨_, -, h⟩ := except_bind_ok h
  obtain ⟨_, -, h⟩ := except_bind_ok h
  obtain ⟨_, -, h⟩ := except_bind_ok h
  obtain rfl := Except.ok.inj h
  refine ⟨rfl, href, fun c hc => ?_⟩
  have hcheck := forM_ok_iff.mp hnumeric c hc
  have hok : (c.check world).isOk := by rw [hcheck]; rfl
  rw [isOk_check] at hok
  exact hok

/-- The checks of a policy are among those of the draft. -/
theorem retry_checks_mem {taskType : TaskType} {policy : RetryPolicyDraft}
    (h : draft.retry.lookup taskType = some policy) {c : NumericCheck}
    (hc : c ∈ policy.checks taskType) : c ∈ draft.numericChecks :=
  List.mem_append_right _ (List.mem_append_left _
    (List.mem_flatMap.mpr ⟨(taskType, policy), mem_of_lookup h, hc⟩))

theorem timeout_checks_mem {p : ProviderId} {timeout : TimeoutDraft}
    (h : draft.timeouts.lookup p = some timeout) {c : NumericCheck}
    (hc : c ∈ timeout.checks p) : c ∈ draft.numericChecks :=
  List.mem_append_right _ (List.mem_append_right _ (List.mem_append_left _
    (List.mem_flatMap.mpr ⟨(p, timeout), mem_of_lookup h, hc⟩)))

theorem provider_checks_mem {p : ProviderId} {provider : ProviderDraft}
    (h : draft.providers.lookup p = some provider) {c : NumericCheck}
    (hc : c ∈ provider.checks p) : c ∈ draft.numericChecks :=
  List.mem_append_right _ (List.mem_append_right _ (List.mem_append_right _
    (List.mem_flatMap.mpr ⟨(p, provider), mem_of_lookup h, hc⟩)))

theorem pos_of_passes {keyPath : String} {n : Int}
    (h : (NumericCheck.positiveInt keyPath n).passes) : 0 < n := by
  simpa [NumericCheck.passes] using h

/-- Only known injections are left. -/
theorem injections_of_validated (h : validateReferentialIntegrity draft = .ok ())
    {ref : InjectionRef} (href : ref ∈ draft.failureInjection.activeInjections) :
    ∃ id, ref = .known id := by
  obtain ⟨_, -, hinjections⟩ := except_bind_ok h
  obtain ⟨index, hindex⟩ := List.mem_iff_getElem?.mp href
  have hcheck := forM_ok_iff.mp hinjections (ref, index)
    (List.mk_mem_zipIdx_iff_getElem?.mpr hindex)
  cases ref with
  | known id => exact ⟨id, rfl⟩
  | unknown s => exact absurd hcheck (by simp [checkInjection])

/-- **Everything but the seconds** holds of whatever the loader accepts. -/
theorem resolved_of_accepted (hmap : SchemaMapper.map world tree = .ok draft)
    (hvalidate : ConfigValidator.validate world draft = .ok draft') :
    (AppConfigFactory.build draft).Resolved := by
  obtain ⟨-, href, hpasses⟩ := validate_ok hvalidate
  refine
    { agentConfig := fun agentId => ?_
      agentProvider := fun agentId agent hagent => ?_
      retryPolicy := fun taskType => ?_
      concurrency := fun agentId => ?_
      candidateCount := ?_
      maxScenarioRevisions := ?_
      rateLimit := fun p provider n hprovider hlimit => ?_
      injections := fun ref hmem => ?_ }
  · obtain ⟨agent, hagent⟩ := agents_of_map hmap agentId
    exact Option.isSome_iff_exists.mpr ⟨agent, hagent⟩
  · obtain ⟨-, -, -, -, htimeouts⟩ := timeouts_of_map hmap
    have hmem := mem_of_lookup hagent
    obtain ⟨provider, hprovider⟩ := reference_of_validated href hmem
    exact ⟨Option.isSome_iff_exists.mpr ⟨provider, hprovider⟩, htimeouts _ hmem⟩
  · obtain ⟨_, -, hretry⟩ := retry_of_map hmap
    obtain ⟨policy, hlookup, -⟩ := hretry taskType
    have hattempts := hpasses _ (retry_checks_mem hlookup (List.mem_cons_self ..))
    exact ⟨policy, hlookup, by simpa [NumericCheck.passes] using hattempts⟩
  · have hworkers : ∀ keyPath n, NumericCheck.positiveInt keyPath n ∈ draft.countChecks → 0 < n :=
      fun keyPath n hmem => pos_of_passes (hpasses _ (List.mem_append_left _ hmem))
    cases agentId with
    | topicSelector => exact ⟨_, rfl, hworkers _ _ (.tail _ (.tail _ (.head _)))⟩
    | scenarioGenerator => exact ⟨_, rfl, hworkers _ _ (.tail _ (.tail _ (.tail _ (.head _))))⟩
    | critic =>
        exact ⟨_, rfl, hworkers _ _ (.tail _ (.tail _ (.tail _ (.tail _ (.head _)))))⟩
  · exact pos_of_passes (hpasses _ (List.mem_append_left _ (.head _)))
  · exact pos_of_passes (hpasses _ (List.mem_append_left _ (.tail _ (.head _))))
  · have hcheck : NumericCheck.positiveInt
        ("providers." ++ p.value ++ ".rate_limit_per_minute") n ∈ provider.checks p := by
      simp [ProviderDraft.checks, hlimit]
    exact pos_of_passes (hpasses _ (provider_checks_mem hprovider hcheck))
  · have hactive : ref ∈ draft.failureInjection.activeInjections := by
      simp only [AppConfigFactory.build, AppConfigFactory.buildFailureInjection] at hmem
      split at hmem
      · exact hmem
      · exact absurd hmem (by simp)
    exact injections_of_validated href hactive

/-- No second of an accepted configuration is `<= 0`. -/
theorem seconds_of_accepted (hvalidate : ConfigValidator.validate world draft = .ok draft') :
    (AppConfigFactory.build draft).AllSeconds fun x => x.le PyFloat.zero = false := by
  obtain ⟨-, -, hpasses⟩ := validate_ok hvalidate
  have hfloat : ∀ keyPath x, NumericCheck.positiveFloat keyPath x ∈ draft.numericChecks →
      x.le PyFloat.zero = false := by
    intro keyPath x hmem
    simpa [NumericCheck.passes] using hpasses _ hmem
  refine ⟨fun t policy hpolicy x hx => ?_, fun p timeout htimeout x hx => ?_⟩
  · have hmem : ∃ keyPath, NumericCheck.positiveFloat keyPath x ∈ policy.checks t := by
      simp only [RetryPolicyDraft.seconds, List.mem_cons, List.not_mem_nil, or_false] at hx
      rcases hx with rfl | rfl | rfl
      · exact ⟨_, by simp only [RetryPolicyDraft.checks]; exact .tail _ (.head _)⟩
      · exact ⟨_, by simp only [RetryPolicyDraft.checks]; exact .tail _ (.tail _ (.head _))⟩
      · exact ⟨_, by
          simp only [RetryPolicyDraft.checks]; exact .tail _ (.tail _ (.tail _ (.head _)))⟩
    obtain ⟨keyPath, hmem⟩ := hmem
    exact hfloat keyPath x (retry_checks_mem hpolicy hmem)
  · have hmem : ∃ keyPath, NumericCheck.positiveFloat keyPath x ∈ timeout.checks p := by
      rcases List.mem_cons.mp hx with rfl | hx
      · exact ⟨_, .head _⟩
      · rcases List.mem_append.mp hx with hx | hx
        · exact ⟨_, .tail _ (List.mem_append_left _ (List.mem_map_of_mem hx))⟩
        · exact ⟨_, .tail _ (List.mem_append_right _ (List.mem_map_of_mem hx))⟩
    obtain ⟨keyPath, hmem⟩ := hmem
    exact hfloat keyPath x (timeout_checks_mem htimeout hmem)

end Accepted

/-! ### The condition -/

/-- The loader lets a tree through safely, or refuses it with a `ConfigError`, exactly when every
conversion it gets to is possible and, should it accept the tree, no second is nan or infinite
(and `p`, whose configuration is asked for, is in the tree). -/
theorem safeToRun_iff (world : Surroundings) (tree : RawConfigTree) (p : ProviderId) :
    SafeToRun world tree p ↔
      Convertible world tree ∧
        ((loadConfig world tree).isOk → tree.SecondsFinite ∧ tree.Defines p) := by
  rw [← raises_loadConfig]
  cases hload : loadConfig world tree with
  | error e =>
      have hrefused : SafeToRun world tree p ↔ e.IsConfigError := by
        simp only [SafeToRun, hload]
      rw [hrefused, raises_error]
      exact (and_iff_left (fun h => absurd h (by simp [Except.isOk, Except.toBool]))).symm
  | ok config =>
      obtain ⟨draft, hmap, h⟩ := except_bind_ok hload
      obtain ⟨draft', hvalidate, h⟩ := except_bind_ok h
      obtain rfl := Except.ok.inj h
      obtain ⟨rfl, -, -⟩ := validate_ok hvalidate
      have hsafe : SafeToRun world tree p ↔ tree.SecondsFinite ∧ tree.Defines p := by
        have hresolved := resolved_of_accepted hmap hvalidate
        have hpositive := seconds_of_accepted hvalidate
        simp only [SafeToRun, hload]
        rw [← secondsFinite_iff hmap, ← providers_of_map hmap p]
        refine ⟨fun h => ⟨?_, h.2.2⟩, fun h => ⟨hresolved, ?_, h.2⟩⟩
        · exact ⟨fun t policy ht x hx => (h.2.1.backoff t policy ht x hx).1,
            fun q timeout hq x hx => (h.2.1.timeout q timeout hq x hx).1⟩
        · -- a finite number that is not `<= 0` is greater than 0
          refine ⟨fun t policy ht x hx => ?_, fun q timeout hq x hx => ?_⟩
          · have hfinite := h.1.backoff t policy ht x hx
            exact ⟨hfinite,
              (PyFloat.gt_zero_iff hfinite).mpr (hpositive.backoff t policy ht x hx)⟩
          · have hfinite := h.1.timeout q timeout hq x hx
            exact ⟨hfinite,
              (PyFloat.gt_zero_iff hfinite).mpr (hpositive.timeout q timeout hq x hx)⟩
      rw [hsafe]
      simp [Except.isOk, Except.toBool]

/-! ### Two numbers -/

/-- A mapping with the given names. -/
def Node.object (entries : List (String × Node)) : Node :=
  .mapping (entries.map fun entry => (.str entry.1, entry.2))

/-- `config/cartoon.demo.yaml` with another `initial_seconds` for `COLLECT`. -/
def demoTree (initialSeconds : Node) : RawConfigTree :=
  let agent (name : String) : Node := .object
    [("provider", .str "fake"), ("model", .str "fake-model"),
     ("prompt_file", .str ("prompts/" ++ name ++ "/v1.txt"))]
  let policy (initial : Node) : Node := .object
    [("max_attempts", .int 3),
     ("backoff", .object [("initial_seconds", initial), ("multiplier", .float (.finite 2)),
       ("max_seconds", .float (.finite 30))])]
  [(.str "config_version", .str "1"),
   (.str "infrastructure", .object
     [("postgres", .object [("host", .str "localhost"), ("port", .int 5432),
        ("database", .str "cartoon"), ("user_env", .str "POSTGRES_USER"),
        ("password_env", .str "POSTGRES_PASSWORD")]),
      ("redis", .object [("host", .str "localhost"), ("port", .int 6379), ("db", .int 0)])]),
   (.str "agents", .object
     [("topic_selector", agent "topic_selector"),
      ("scenario_generator", agent "scenario_generator"), ("critic", agent "critic")]),
   (.str "providers", .object [("fake", .object [("api_key_env", .str "FAKE_API_KEY")])]),
   (.str "collection", .object [("candidate_count", .int 10)]),
   (.str "workflow", .object [("max_scenario_revisions", .int 2)]),
   (.str "workers", .object
     [("topic_selector_concurrency", .int 1), ("scenario_generator_concurrency", .int 1),
      ("critic_concurrency", .int 1)]),
   (.str "retry", .object
     [("COLLECT", policy initialSeconds), ("SELECT_TOPIC", policy (.float (.finite 1))),
      ("GENERATE_SCENARIO", policy (.float (.finite 1))),
      ("REVIEW_SCENARIO", policy (.float (.finite 1)))]),
   (.str "timeouts", .object [("fake", .object [("read_seconds", .float (.finite 30))])])]

/-- Prompt files and credentials are there. -/
def present : Surroundings :=
  { decimalText := fun _ => true, promptFile := fun _ => true, environ := fun _ => "set",
    shownFloat := fun _ => "" }

example : (loadConfig present (demoTree (.float (.finite 1)))).isOk := by decide +kernel

/-- `initial_seconds: .nan` is accepted, and `initial_seconds: 1000...` with 400 zeros ends in an
`OverflowError`. -/
theorem demoTree_unsafe :
    ¬ SafeToRun present (demoTree (.float .nan)) .fake ∧
    ¬ SafeToRun present (demoTree (.int (10 ^ 400))) .fake := by
  refine ⟨fun h => ?_, fun h => ?_⟩
  · have hnan : (loadConfig present (demoTree (.float .nan))).map (fun config =>
        (config.getRetryPolicy .collect).map fun policy => policy.backoff.initialSeconds) =
        .ok (some .nan) := by decide +kernel
    obtain ⟨config, hload, hpolicy⟩ := except_map_ok hnan
    obtain ⟨policy, hpolicy, hinitial⟩ := Option.map_eq_some_iff.mp hpolicy
    simp only [SafeToRun, hload] at h
    have husable := h.2.1.backoff .collect policy hpolicy .nan
      (hinitial ▸ List.mem_cons_self ..)
    exact absurd husable.1 (by decide)
  · have hload : loadConfig present (demoTree (.int (10 ^ 400))) =
        .error (.py (.other "OverflowError" "int too large to convert to float")) := by
      decide +kernel
    simp only [SafeToRun, hload] at h
    exact h

end CartoonDemo
