import CartoonDemo.Config.Validator
import CartoonDemo.Library.Loops

/-!
# CartoonDemo.Config.Conversions

**What can leave the loader that is no `ConfigError`.** The mapper and the validator raise a
`ConfigError` at every value they refuse; two built-in conversions on their way raise errors of
their own. `float(n)` overflows at an integer beyond the doubles, and `str(n)`, in the message
about a refused integer, fails at more than 4300 digits.

`Convertible` says for which trees neither happens: every conversion that the loader gets to is
possible. It follows the order in which the loader reads, since a value after the first refusal
is not read.
-/

namespace CartoonDemo

/-! ### Conversions

The conversions that a tree has to allow: the integers where a float is read, and those that a
message shows.
-/

/-- `float(node)` does not overflow. -/
def Node.Fits : Node → Prop
  | .int n => PyFloat.Fits n
  | _ => True

/-- `f"{key}"` does not raise. -/
def NodeKey.Printable : NodeKey → Prop
  | .int n => PyInt.Printable n
  | _ => True

namespace RawConfigTree

/-- The first key that is not allowed, if any, can be printed. -/
def KeysPrintable (node : RawConfigTree) (allowed : List String) : Prop :=
  ∀ entry, List.find? (fun entry => entry.1 ∉ allowed.map NodeKey.str) node = some entry →
    entry.1.Printable

end RawConfigTree

open RawConfigTree SchemaMapper ConfigValidator

/-- The weights up to the first one that is refused. -/
def ScoringFits (node : RawConfigTree) : Prop :=
  Reached (fun weight => (mapWeight node weight).isOk) (fun weight => (get node weight).Fits)
    ["weight_score", "weight_comments", "weight_recency"]

/-- The conversions of `collection` are possible. -/
def CollectionFits (node : RawConfigTree) : Prop :=
  ∀ scoring, find? node "scoring" = some (.mapping scoring) → ScoringFits scoring

/-- The backoff of a policy whose attempts are accepted, up to the first number that is
refused. -/
def PolicyFits (keyPath : String) (node : RawConfigTree) : Prop :=
  ∀ backoff, mappingKey node keyPath "backoff" = .ok backoff →
    (intKey node keyPath "max_attempts").isOk →
      Reached (fun key => (floatKey backoff (keyPath ++ ".backoff") key).isOk)
        (fun key => (get backoff key).Fits) ["initial_seconds", "multiplier", "max_seconds"]

/-- The conversions of `retry` are possible, as far as the mapper gets. -/
def RetryFits (node : RawConfigTree) : Prop :=
  KeysPrintable node (TaskType.all.map TaskType.value) ∧
  ((rejectUnknownKeys node "retry" (TaskType.all.map TaskType.value)).isOk →
    Reached (fun taskType => (mapRetryEntry node taskType).isOk)
      (fun taskType => ∀ policy, find? node taskType.value = some (.mapping policy) →
        PolicyFits ("retry." ++ taskType.value) policy) TaskType.all)

/-- The seconds of an entry, in the order in which they are read. -/
def TimeoutFits (entry : NodeKey × Node) : Prop :=
  ∀ providerId mapping, providerOfKey entry.1 = .ok providerId → entry.2 = .mapping mapping →
    (get mapping "connect_seconds").Fits ∧
    ((optionalFloat (get mapping "connect_seconds")
        ("timeouts." ++ providerId.value ++ ".connect_seconds")).isOk →
      (get mapping "read_seconds").Fits ∧
      ((floatKey mapping ("timeouts." ++ providerId.value) "read_seconds").isOk →
        (get mapping "total_seconds").Fits))

/-- The conversions of `timeouts` are possible, as far as the mapper gets. -/
def TimeoutsFit (node : RawConfigTree) (agents : List (AgentId × AgentDraft)) : Prop :=
  KeysPrintable node (ProviderId.all.map ProviderId.value) ∧
  ((rejectUnknownKeys node "timeouts" (ProviderId.all.map ProviderId.value)).isOk →
    (requireTimeouts node agents).isOk →
      Reached (fun entry => (mapTimeout entry).isOk) TimeoutFits node)

/-! ### What the readers raise

A reader of one value raises errors of the configuration, or it converts.
-/

theorem raises_throw {α : Type} {e : ConfigException} :
    Raises ConfigException.IsConfigError (throw e : Except ConfigException α) ↔
      e.IsConfigError :=
  raises_error

theorem raises_pure {α : Type} (a : α) :
    Raises ConfigException.IsConfigError (pure a : Except ConfigException α) :=
  raises_ok _ a

section Readers

variable {node : Node} {mapping : RawConfigTree} {keyPath root key : String}

/-- A value that is no mapping is an error of the configuration. -/
theorem raises_requireMapping : Raises ConfigException.IsConfigError (requireMapping node keyPath) := by
  cases node <;> first | exact raises_ok _ _ | exact raises_error.mpr trivial

theorem raises_requireDomain : Raises ConfigException.IsConfigError (requireDomain mapping key) := by
  unfold requireDomain
  split
  · exact raises_error.mpr trivial
  · exact raises_requireMapping

/-- So is a missing key. -/
theorem raises_requireKey : Raises ConfigException.IsConfigError (requireKey mapping key keyPath) := by
  unfold requireKey
  split
  · exact raises_error.mpr trivial
  · exact raises_ok _ _

theorem raises_requireStr : Raises ConfigException.IsConfigError (requireStr node keyPath) := by
  unfold requireStr
  split
  · dsimp only
    split
    · exact raises_error.mpr trivial
    · exact raises_ok _ _
  · exact raises_error.mpr trivial

/-- So is a value that is no integer. -/
theorem raises_requireInt : Raises ConfigException.IsConfigError (requireInt node keyPath) := by
  unfold requireInt
  split
  · exact raises_ok _ _
  · exact raises_error.mpr trivial

theorem raises_optionalDecimal {world : Surroundings} :
    Raises ConfigException.IsConfigError (optionalDecimal world node keyPath) := by
  unfold optionalDecimal
  split
  · exact raises_ok _ _
  · exact raises_ok _ _
  · exact raises_ok _ _
  · split
    · exact raises_ok _ _
    · exact raises_error.mpr trivial
  · exact raises_error.mpr trivial

theorem raises_parseProviderId :
    Raises ConfigException.IsConfigError (parseProviderId node keyPath) := by
  refine raises_requireStr.bind fun providerStr _ => ?_
  split
  · exact raises_pure _
  · exact raises_throw.mpr trivial

theorem raises_strKey : Raises ConfigException.IsConfigError (strKey mapping root key) :=
  raises_requireKey.bind fun _ _ => raises_requireStr

theorem raises_intKey : Raises ConfigException.IsConfigError (intKey mapping root key) :=
  raises_requireKey.bind fun _ _ => raises_requireInt

theorem raises_mappingKey : Raises ConfigException.IsConfigError (mappingKey mapping root key) :=
  raises_requireKey.bind fun _ _ => raises_requireMapping

/-- A number is read unless it is an integer beyond the doubles. -/
theorem raises_requirePositiveFloat :
    Raises ConfigException.IsConfigError (requirePositiveFloat node keyPath) ↔ node.Fits := by
  unfold requirePositiveFloat
  split
  · next n =>
    cases hx : PyFloat.ofInt n with
    | some x =>
        have hfits : PyFloat.Fits n := PyFloat.ofInt_isSome_iff.mp (by rw [hx]; rfl)
        exact iff_of_true (raises_ok _ x) hfits
    | none =>
        exact iff_of_false (fun h => raises_error.mp h) (PyFloat.ofInt_eq_none_iff.mp hx)
  · exact iff_of_true (raises_ok _ _) trivial
  · next hint _ =>
    refine iff_of_true (raises_error.mpr trivial) ?_
    cases node with
    | int n => exact absurd rfl (hint n)
    | _ => trivial

theorem raises_optionalFloat :
    Raises ConfigException.IsConfigError (optionalFloat node keyPath) ↔ node.Fits := by
  unfold optionalFloat
  split
  · exact iff_of_true (raises_ok _ _) trivial
  · exact raises_map_iff.trans raises_requirePositiveFloat

/-- Reading a float converts an integer, which may be too large. -/
theorem raises_floatKey :
    Raises ConfigException.IsConfigError (floatKey mapping root key) ↔ (get mapping key).Fits := by
  unfold floatKey requireKey RawConfigTree.get
  cases find? mapping key with
  | none => exact iff_of_true (raises_error.mpr trivial) trivial
  | some value => exact raises_requirePositiveFloat

/-- A weight is read in the same way. -/
theorem raises_mapWeight :
    Raises ConfigException.IsConfigError (mapWeight mapping key) ↔ (get mapping key).Fits := by
  unfold mapWeight RawConfigTree.get
  cases find? mapping key with
  | none => exact iff_of_true (raises_error.mpr trivial) trivial
  | some value => exact raises_optionalFloat

end Readers

/-! ### What the mapper raises

The same for each domain of the tree, as far as the mapper gets in it.
-/

section Mapper

variable {world : Surroundings} {node : RawConfigTree} {keyPath root : String}
  {allowed : List String}

/-- A message shows an integer only if it has few enough digits. -/
theorem raises_shownInt {n : Int} :
    Raises ConfigException.IsConfigError (shownInt n) ↔ PyInt.Printable n := by
  unfold shownInt
  cases hs : PyInt.str n with
  | some s =>
      have hn : PyInt.Printable n := PyInt.str_isSome_iff.mp (by rw [hs]; rfl)
      exact iff_of_true (raises_ok _ s) hn
  | none =>
      refine iff_of_false (fun h => raises_error.mp h) fun hn => ?_
      have hsome := PyInt.str_isSome_iff.mpr hn
      rw [hs] at hsome
      exact absurd hsome (by simp)

theorem raises_shown {key : NodeKey} :
    Raises ConfigException.IsConfigError key.shown ↔ key.Printable := by
  cases key with
  | str s => exact iff_of_true (raises_ok _ s) trivial
  | int n =>
      simp only [NodeKey.shown, NodeKey.Printable]
      exact raises_shownInt
  | other s => exact iff_of_true (raises_ok _ s) trivial

/-- A message shows the unknown keys. -/
theorem raises_rejectUnknownKeys :
    Raises ConfigException.IsConfigError (rejectUnknownKeys node root allowed) ↔
      KeysPrintable node allowed := by
  unfold rejectUnknownKeys KeysPrintable
  cases List.find? (fun entry => entry.1 ∉ allowed.map NodeKey.str) node with
  | none => exact iff_of_true (raises_ok _ ()) (by simp)
  | some entry =>
      refine raises_bind_iff.trans ?_
      rw [raises_shown]
      refine ⟨fun h e he => ?_, fun h => ⟨h entry rfl, fun _ _ => raises_throw.mpr trivial⟩⟩
      obtain rfl := Option.some.inj he
      exact h.1

/-- When no key is unknown, all are allowed. -/
theorem known_of_rejectUnknownKeys {u : Unit} (h : rejectUnknownKeys node root allowed = .ok u)
    {entry : NodeKey × Node} (hentry : entry ∈ node) : ∃ s ∈ allowed, entry.1 = .str s := by
  unfold rejectUnknownKeys at h
  cases hfind : List.find? (fun entry => entry.1 ∉ allowed.map NodeKey.str) node with
  | none =>
      have hknown := List.find?_eq_none.mp hfind entry hentry
      obtain ⟨s, hs, hkey⟩ := List.mem_map.mp (not_not.mp (by simpa using hknown))
      exact ⟨s, hs, hkey.symm⟩
  | some e =>
      rw [hfind] at h
      obtain ⟨key, -, hthrow⟩ := except_bind_ok h
      exact absurd hthrow (by simp [throw, throwThe, MonadExceptOf.throw])

theorem providerOfKey_value (p : ProviderId) : providerOfKey (.str p.value) = .ok p := by
  cases p <;> rfl

theorem raises_mapConfigVersion :
    Raises ConfigException.IsConfigError (mapConfigVersion node) := by
  unfold mapConfigVersion
  split
  · exact raises_ok _ _
  · refine raises_requireStr.bind fun version _ => ?_
    split
    · exact raises_pure _
    · exact raises_throw.mpr trivial

theorem raises_ifPresent {α : Type} {key : String} {read : Node → Except ConfigException α} :
    Raises ConfigException.IsConfigError (ifPresent node key read) ↔
      ∀ value, find? node key = some value →
        Raises ConfigException.IsConfigError (read value) := by
  unfold ifPresent
  cases find? node key with
  | none => exact iff_of_true (raises_ok _ none) (by simp)
  | some value =>
      refine raises_map_iff.trans ⟨fun h v hv => ?_, fun h => h value rfl⟩
      obtain rfl := Option.some.inj hv
      exact h

theorem raises_mapInfrastructure :
    Raises ConfigException.IsConfigError (mapInfrastructure node) := by
  unfold mapInfrastructure
  refine raises_mappingKey.bind fun postgresNode _ => ?_
  refine raises_mappingKey.bind fun redisNode _ => ?_
  refine raises_strKey.bind fun _ _ => raises_intKey.bind fun _ _ => raises_strKey.bind fun _ _ =>
    raises_strKey.bind fun _ _ => raises_strKey.bind fun _ _ => ?_
  exact (raises_ifPresent.mpr fun _ _ => raises_requireStr).bind fun _ _ => raises_strKey.bind fun _ _ => raises_intKey.bind fun _ _ =>
    raises_intKey.bind fun _ _ => raises_pure _

theorem raises_mapAgent {agentId : AgentId} :
    Raises ConfigException.IsConfigError (mapAgent node agentId) := by
  unfold mapAgent
  dsimp only
  split
  · exact raises_throw.mpr trivial
  · exact raises_requireMapping.bind fun _ _ => raises_requireKey.bind fun _ _ =>
      raises_parseProviderId.bind fun _ _ => raises_strKey.bind fun _ _ =>
      raises_strKey.bind fun _ _ => raises_pure _

/-- Of the agents, only an unknown key can go wrong. -/
theorem raises_mapAgents :
    Raises ConfigException.IsConfigError (mapAgents node) ↔
      KeysPrintable node (AgentId.all.map AgentId.value) := by
  refine raises_bind_iff.trans ?_
  rw [raises_rejectUnknownKeys]
  exact and_iff_left fun _ _ => raises_mapM_iff.mpr (Reached.of_forall fun _ _ => raises_mapAgent)

/-- The keys that `_reject_unknown_keys` lets pass are those of providers. -/
theorem providerOfKey_of_known {u : Unit}
    (h : rejectUnknownKeys node root (ProviderId.all.map ProviderId.value) = .ok u)
    {entry : NodeKey × Node} (hentry : entry ∈ node) : ∃ p, providerOfKey entry.1 = .ok p := by
  obtain ⟨s, hs, hkey⟩ := known_of_rejectUnknownKeys h hentry
  obtain ⟨p, -, rfl⟩ := List.mem_map.mp hs
  exact ⟨p, by rw [hkey, providerOfKey_value]⟩

theorem raises_mapProvider {entry : NodeKey × Node} (hkey : ∃ p, providerOfKey entry.1 = .ok p) :
    Raises ConfigException.IsConfigError (mapProvider world entry) := by
  obtain ⟨p, hp⟩ := hkey
  unfold mapProvider
  rw [hp]
  have hpricing : ∀ keyPath value,
      Raises ConfigException.IsConfigError (mapPricing world keyPath value) := fun _ _ =>
    raises_requireMapping.bind fun _ _ => raises_optionalDecimal.bind fun _ _ =>
      raises_optionalDecimal.bind fun _ _ => raises_pure _
  exact (raises_pure p).bind fun _ _ => raises_requireMapping.bind fun _ _ =>
    (raises_ifPresent.mpr fun _ _ => hpricing _ _).bind fun _ _ =>
    (raises_ifPresent.mpr fun _ _ => raises_requireInt).bind fun _ _ =>
    raises_strKey.bind fun _ _ => raises_pure _

/-- And of the providers. -/
theorem raises_mapProviders :
    Raises ConfigException.IsConfigError (mapProviders world node) ↔
      KeysPrintable node (ProviderId.all.map ProviderId.value) := by
  refine raises_bind_iff.trans ?_
  rw [raises_rejectUnknownKeys]
  refine and_iff_left fun _ hknown => raises_mapM_iff.mpr (Reached.of_forall fun entry he => ?_)
  exact raises_mapProvider (providerOfKey_of_known hknown he)

theorem raises_mapCollectionScoring :
    Raises ConfigException.IsConfigError (mapCollectionScoring node) ↔ ScoringFits node := by
  simp only [mapCollectionScoring, ScoringFits, Reached, raises_bind_iff, raises_mapWeight,
    raises_pure, forall_except_ok_iff, implies_true, and_true]

/-- A mapping is asked for and read. -/
theorem raises_requireMapping_bind {α : Type} {value : Node}
    {read : RawConfigTree → Except ConfigException α} :
    Raises ConfigException.IsConfigError (requireMapping value keyPath >>= read) ↔
      ∀ mapping, value = .mapping mapping → Raises ConfigException.IsConfigError (read mapping) := by
  refine raises_bind_iff.trans ((and_iff_right raises_requireMapping).trans ?_)
  cases value with
  | mapping entries => simp [requireMapping]
  | _ => simp [requireMapping]

theorem raises_mapCollection :
    Raises ConfigException.IsConfigError (mapCollection node) ↔ CollectionFits node := by
  unfold mapCollection CollectionFits
  rw [raises_bind_iff, raises_ifPresent]
  refine (and_iff_left fun _ _ => raises_intKey.bind fun _ _ => raises_pure _).trans ?_
  refine ⟨fun h scoring hs => ?_, fun h value hv => ?_⟩
  · exact raises_mapCollectionScoring.mp (raises_requireMapping_bind.mp (h _ hs) scoring rfl)
  · refine raises_requireMapping_bind.mpr fun scoring hs => ?_
    exact raises_mapCollectionScoring.mpr (h scoring (hs ▸ hv))

/-- A policy reads its numbers one after the other. -/
theorem raises_mapRetryPolicy :
    Raises ConfigException.IsConfigError (mapRetryPolicy node keyPath) ↔
      PolicyFits keyPath node := by
  simp only [mapRetryPolicy, PolicyFits, Reached, raises_bind_iff, raises_mappingKey,
    raises_intKey, raises_floatKey, raises_pure, forall_except_ok_iff, implies_true, and_true,
    true_and]

theorem raises_mapRetryEntry {taskType : TaskType} :
    Raises ConfigException.IsConfigError (mapRetryEntry node taskType) ↔
      ∀ policy, find? node taskType.value = some (.mapping policy) →
        PolicyFits ("retry." ++ taskType.value) policy := by
  unfold mapRetryEntry
  dsimp only
  cases find? node taskType.value with
  | none => exact iff_of_true (raises_throw.mpr trivial) (by simp)
  | some value =>
      refine raises_requireMapping_bind.trans ?_
      simp only [raises_bind_iff, raises_mapRetryPolicy, raises_pure, implies_true, and_true,
        Option.some.injEq]

/-- The policies are read in the order of the task types. -/
theorem raises_mapRetry :
    Raises ConfigException.IsConfigError (mapRetry node) ↔ RetryFits node := by
  simp only [mapRetry, RetryFits, raises_bind_iff, raises_rejectUnknownKeys, raises_mapM_iff,
    raises_mapRetryEntry, forall_except_ok_iff]

theorem raises_mapTimeout {entry : NodeKey × Node} (hkey : ∃ p, providerOfKey entry.1 = .ok p) :
    Raises ConfigException.IsConfigError (mapTimeout entry) ↔ TimeoutFits entry := by
  obtain ⟨p, hp⟩ := hkey
  unfold mapTimeout TimeoutFits
  rw [hp, except_ok_bind]
  refine raises_requireMapping_bind.trans ?_
  simp only [raises_bind_iff, raises_optionalFloat, raises_floatKey, raises_pure,
    forall_except_ok_iff, implies_true, and_true]
  exact ⟨fun h q mapping hq hm => Except.ok.inj hq ▸ h mapping hm, fun h mapping hm => h p mapping rfl hm⟩

theorem raises_requireTimeouts {agents : List (AgentId × AgentDraft)} :
    Raises ConfigException.IsConfigError (requireTimeouts node agents) := by
  unfold requireTimeouts
  split
  · exact raises_ok _ _
  · exact raises_error.mpr trivial

/-- The timeouts are read in the order of the tree. -/
theorem raises_mapTimeouts {agents : List (AgentId × AgentDraft)} :
    Raises ConfigException.IsConfigError (mapTimeouts node agents) ↔ TimeoutsFit node agents := by
  simp only [mapTimeouts, TimeoutsFit, raises_bind_iff, raises_rejectUnknownKeys,
    raises_requireTimeouts, true_and, forall_except_ok_iff]
  refine and_congr_right fun _ => imp_congr_right fun hok => imp_congr_right fun _ => ?_
  obtain ⟨u, hknown⟩ := except_isOk_iff.mp hok
  refine raises_mapM_iff.trans (reached_congr (fun _ _ => rfl) fun entry he => ?_)
  exact raises_mapTimeout (providerOfKey_of_known hknown he)

theorem raises_mapFailureInjection {value : Node} :
    Raises ConfigException.IsConfigError (mapFailureInjection value) := by
  have hinjection : ∀ entry, Raises ConfigException.IsConfigError (mapInjection entry) := by
    intro entry
    refine raises_requireStr.bind fun s _ => ?_
    split <;> exact raises_pure _
  have hlist : ∀ list, Raises ConfigException.IsConfigError (mapInjections list) := by
    intro list
    unfold mapInjections
    split
    · exact raises_mapM_iff.mpr (Reached.of_forall fun entry _ => hinjection entry)
    · exact raises_error.mpr trivial
  unfold mapFailureInjection
  split
  · exact raises_ok _ _
  · exact raises_requireMapping.bind fun _ _ =>
      (raises_ifPresent.mpr fun list _ => hlist list).bind fun _ _ => raises_pure _

end Mapper

/-! ### What the loader raises -/

/-- Every conversion that the mapper gets to is possible. -/
def MapConvertible (world : Surroundings) (tree : RawConfigTree) : Prop :=
  (mapConfigVersion tree).isOk →
  ∀ infrastructure, requireDomain tree "infrastructure" = .ok infrastructure →
  (mapInfrastructure infrastructure).isOk →
  ∀ agentsNode, requireDomain tree "agents" = .ok agentsNode →
    KeysPrintable agentsNode (AgentId.all.map AgentId.value) ∧
  ∀ agents, mapAgents agentsNode = .ok agents →
  ∀ providers, requireDomain tree "providers" = .ok providers →
    KeysPrintable providers (ProviderId.all.map ProviderId.value) ∧
  ((mapProviders world providers).isOk →
  ∀ collection, requireDomain tree "collection" = .ok collection →
    CollectionFits collection ∧
  ((mapCollection collection).isOk →
  ∀ workflow, requireDomain tree "workflow" = .ok workflow → (mapWorkflow workflow).isOk →
  ∀ workers, requireDomain tree "workers" = .ok workers → (mapWorkers workers).isOk →
  ∀ retry, requireDomain tree "retry" = .ok retry →
    RetryFits retry ∧
  ((mapRetry retry).isOk →
  ∀ timeouts, requireDomain tree "timeouts" = .ok timeouts →
    TimeoutsFit timeouts agents)))

/-- The first integer that the validator refuses, if any, can be printed. -/
def ValidatorPrintable (draft : ConfigDraft) : Prop :=
  (validateReferentialIntegrity draft).isOk →
    Reached NumericCheck.passes (fun c => c.passes ∨ c.Printable) draft.numericChecks

/-- Every conversion that the loader gets to is possible. -/
def Convertible (world : Surroundings) (tree : RawConfigTree) : Prop :=
  MapConvertible world tree ∧
  ∀ draft, SchemaMapper.map world tree = .ok draft → ValidatorPrintable draft

section Loader

variable {world : Surroundings} {tree : RawConfigTree}

theorem raises_mapWorkflow {node : RawConfigTree} :
    Raises ConfigException.IsConfigError (mapWorkflow node) :=
  raises_intKey.bind fun _ _ => raises_pure _

theorem raises_mapWorkers {node : RawConfigTree} :
    Raises ConfigException.IsConfigError (mapWorkers node) :=
  raises_intKey.bind fun _ _ => raises_intKey.bind fun _ _ => raises_intKey.bind fun _ _ =>
    raises_pure _

/-- The mapper goes through the domains in order and stops at the first error. -/
theorem raises_map_tree :
    Raises ConfigException.IsConfigError (SchemaMapper.map world tree) ↔
      MapConvertible world tree := by
  simp only [SchemaMapper.map, MapConvertible, raises_bind_iff, raises_mapConfigVersion,
    raises_requireDomain, raises_mapInfrastructure, raises_mapAgents, raises_mapProviders,
    raises_mapCollection, raises_mapWorkflow, raises_mapWorkers, raises_mapRetry,
    raises_mapTimeouts, raises_mapFailureInjection, raises_pure, forall_except_ok_iff,
    implies_true, and_true, true_and]

/-- A check passes or raises. -/
theorem isOk_check {c : NumericCheck} : (c.check world).isOk = c.passes := by
  unfold NumericCheck.check
  cases hpass : c.passes with
  | true => rfl
  | false =>
      cases c with
      | positiveFloat keyPath value => rfl
      | positiveInt keyPath value => cases hshown : shownInt value <;> simp [hshown] <;> rfl
      | atLeastOne keyPath value => cases hshown : shownInt value <;> simp [hshown] <;> rfl

/-- The message of a check shows the number. -/
theorem raises_check {c : NumericCheck} :
    Raises ConfigException.IsConfigError (c.check world) ↔ c.passes ∨ c.Printable := by
  unfold NumericCheck.check
  cases hpass : c.passes with
  | true => exact iff_of_true (raises_ok _ ()) (Or.inl rfl)
  | false =>
      cases c with
      | positiveFloat keyPath value =>
          exact iff_of_true (raises_throw.mpr trivial) (Or.inr trivial)
      | positiveInt keyPath value =>
          simp only [Bool.false_eq_true, if_false, false_or, raises_bind_iff, raises_shownInt,
            NumericCheck.Printable]
          exact and_iff_left fun _ _ => raises_throw.mpr trivial
      | atLeastOne keyPath value =>
          simp only [Bool.false_eq_true, if_false, false_or, raises_bind_iff, raises_shownInt,
            NumericCheck.Printable]
          exact and_iff_left fun _ _ => raises_throw.mpr trivial

/-- A variable that is not set is an error of the configuration. -/
theorem raises_requireEnv {name : String} :
    Raises ConfigException.IsConfigError (requireEnv world name) := by
  unfold requireEnv
  split
  · exact raises_error.mpr trivial
  · exact raises_ok _ ()

theorem raises_validateReferentialIntegrity {draft : ConfigDraft} :
    Raises ConfigException.IsConfigError (validateReferentialIntegrity draft) := by
  have hagent : ∀ entry, Raises ConfigException.IsConfigError (checkAgentReference draft entry) := by
    intro entry
    unfold checkAgentReference
    split
    · exact raises_ok _ ()
    · exact raises_error.mpr trivial
  have hinjection : ∀ entry, Raises ConfigException.IsConfigError (checkInjection entry) := by
    intro entry
    unfold checkInjection
    split
    · exact raises_ok _ ()
    · exact raises_error.mpr trivial
  exact (raises_forM_iff.mpr (Reached.of_forall fun entry _ => hagent entry)).bind fun _ _ =>
    raises_forM_iff.mpr (Reached.of_forall fun entry _ => hinjection entry)

theorem raises_checkPrompts {draft : ConfigDraft} :
    Raises ConfigException.IsConfigError (checkPrompts world draft) := by
  refine raises_forM_iff.mpr (Reached.of_forall fun entry _ => ?_)
  split
  · exact raises_ok _ ()
  · exact raises_error.mpr trivial

/-- The references of the agents resolve. -/
theorem reference_of_validated {draft : ConfigDraft} {u : Unit}
    (h : validateReferentialIntegrity draft = .ok u) {entry : AgentId × AgentDraft}
    (hentry : entry ∈ draft.agents) : ∃ provider,
      draft.providers.lookup entry.2.provider = some provider := by
  obtain ⟨_, hagents, -⟩ := except_bind_ok h
  have hcheck := forM_ok_iff.mp hagents entry hentry
  unfold checkAgentReference at hcheck
  split at hcheck
  · next hsome => exact Option.isSome_iff_exists.mp hsome
  · exact absurd hcheck (by simp)

/-- Credentials are looked up under providers that exist, once the references resolve. -/
theorem raises_checkProviderCredentials {draft : ConfigDraft} {u : Unit}
    (h : validateReferentialIntegrity draft = .ok u) :
    Raises ConfigException.IsConfigError (checkProviderCredentials world draft) := by
  refine raises_forM_iff.mpr (Reached.of_forall fun entry he => ?_)
  obtain ⟨provider, hprovider⟩ := reference_of_validated h he
  rw [hprovider]
  exact raises_requireEnv

theorem raises_checkInfraCredentials {infrastructure : InfrastructureDraft} :
    Raises ConfigException.IsConfigError (checkInfraCredentials world infrastructure) := by
  refine raises_requireEnv.bind fun _ _ => raises_requireEnv.bind fun _ _ => ?_
  split
  · exact raises_pure ()
  · exact raises_requireEnv

/-- The validator raises nothing else where the numbers can be shown. -/
theorem raises_validate {draft : ConfigDraft} :
    Raises ConfigException.IsConfigError (ConfigValidator.validate world draft) ↔
      ValidatorPrintable draft := by
  have hnumeric : Raises ConfigException.IsConfigError (validateNumericConstraints world draft) ↔
      Reached NumericCheck.passes (fun c => c.passes ∨ c.Printable) draft.numericChecks :=
    raises_forM_iff.trans
      (reached_congr (fun _ _ => isOk_check) fun _ _ => raises_check)
  unfold ConfigValidator.validate ValidatorPrintable
  rw [raises_bind_iff, and_iff_right raises_validateReferentialIntegrity, ← forall_except_ok_iff]
  refine forall_congr' fun u => imp_congr_right fun href => ?_
  rw [raises_bind_iff, hnumeric]
  exact and_iff_left fun _ _ => raises_checkPrompts.bind fun _ _ =>
    (raises_checkProviderCredentials href).bind fun _ _ =>
      raises_checkInfraCredentials.bind fun _ _ => raises_pure draft

/-- What leaves the loader is a `ConfigError`, exactly for a convertible tree. -/
theorem raises_loadConfig :
    Raises ConfigException.IsConfigError (loadConfig world tree) ↔ Convertible world tree := by
  simp only [loadConfig, Convertible, raises_bind_iff, raises_map_tree, raises_validate,
    raises_pure, implies_true, and_true]

end Loader

end CartoonDemo
