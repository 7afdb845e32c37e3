import Mathlib.Data.Finset.Dedup
import CartoonDemo.Cli.Validation
import CartoonDemo.Config.Schema

/-!
# CartoonDemo.Cli.Arguments

The **arguments of the command line** (`cli/parser.py`). Two scans walk over the same tokens:
`extract` looks for `--inject` and knows no other flag, `_parse_global_flags` gives every global
flag the token after it. A run of global flags in front of `--inject` makes the difference: each
second token of the run is a value, so behind an odd run `--inject` is a value too, for the second
scan alone (`passes_agree_iff`).
-/

namespace CartoonDemo

open InputValidator

/-! ### Types -/

/-- The subcommands. -/
inductive SubcommandId
  | initiate | status | history | output | timeline | approve
  deriving DecidableEq, Repr

/-- What the client needs to reach the API. -/
structure CliClientConfig where
  apiBaseUrl : String
  /-- The text of the path. -/
  configPath : Option String
  requestTimeoutSeconds : PyFloat
  deriving DecidableEq, Repr

/-- What `--inject` asks for. -/
structure CliFailureInjectionOverride where
  enabled : Bool
  activeInjections : Finset String
  deriving DecidableEq

/-- What the command line changes of the configuration. -/
structure CliConfigOverride where
  failureInjection : Option CliFailureInjectionOverride
  deriving DecidableEq

/-- The names of the registered subcommands. -/
abbrev SubcommandRegistry := List (SubcommandId × String)

/-- A command line that was parsed. -/
structure ParsedCliInvocation where
  subcommandId : SubcommandId
  clientConfig : CliClientConfig
  configOverride : Option CliConfigOverride
  workflowId : Option String := none
  initiateRequest : Option InitiateWorkflowApiRequest := none
  approvalAction : Option String := none
  approvalActor : Option String := none
  rawArgs : List String
  deriving DecidableEq

/-- What the parser reads besides its arguments: `os.environ`, and `float` of a text, where `none`
is a `ValueError`. -/
structure CliEnvironment where
  environ : String → Option String
  float : String → Option PyFloat

/-! ### Flags -/

def flagInject : String := "--inject"

/-- `_GLOBAL_FLAGS_WITH_VALUE`. -/
def globalFlagsWithValue : List String := ["--api-url", "--config-path", "--timeout", "--output"]

def flagWorkflowId : String := "--workflow-id"
def flagCorrelationId : String := "--correlation-id"
def flagActor : String := "--actor"
def flagAction : String := "--action"

/-- `token in _GLOBAL_FLAGS_WITH_VALUE`. -/
def isGlobalFlag (token : String) : Bool := token ∈ globalFlagsWithValue

/-- `token.lstrip("-").replace("-", "_")`. -/
def flagKey (token : String) : String :=
  String.ofList ((token.toList.dropWhile (· = '-')).map fun c => if c = '-' then '_' else c)

/-- `_require_value`, where no token is left. -/
def missingValue {α : Type} (flag : String) : Except CliUsageError α :=
  usageError (flag ++ " requires a value")

/-- `InjectionId(value)` does not raise. -/
def isInjectionId (value : String) : Bool := InjectionId.all.any fun id => id.value = value

/-! ### The two scans

The command line is read twice: for `--inject` alone, and for the other global flags.
-/

namespace FailureInjectionFlagParser

/-- The loop of `extract`. -/
def injectionIds : List String → Except CliUsageError (List String)
  | [] => .ok []
  | [token] => if token = flagInject then missingValue flagInject else .ok []
  | token :: value :: rest =>
      if token = flagInject then
        if isInjectionId value then (injectionIds rest).map (value :: ·)
        else usageError ("Unknown failure injection id: " ++ value)
      else injectionIds (value :: rest)

/-- `extract`. -/
def extract (argv : List String) : Except CliUsageError (Option CliFailureInjectionOverride) := do
  let ids ← injectionIds argv
  if ids.isEmpty then return none
  else return some { enabled := true, activeInjections := ids.toFinset }

end FailureInjectionFlagParser

namespace ArgumentParser

/-- `_parse_global_flags`: the assignments to the dictionary in their order, and the other tokens. -/
def parseGlobalFlags : List String → Except CliUsageError (List (String × String) × List String)
  | [] => .ok ([], [])
  | [token] =>
      if token = flagInject then .ok ([], [])
      else if isGlobalFlag token then missingValue token
      else .ok ([], [token])
  | token :: value :: rest =>
      if token = flagInject then parseGlobalFlags rest
      else if isGlobalFlag token then
        (parseGlobalFlags rest).map fun (values, remaining) =>
          ((flagKey token, value) :: values, remaining)
      else
        (parseGlobalFlags (value :: rest)).map fun (values, remaining) =>
          (values, token :: remaining)

/-- `values.get(key)`: the last assignment counts. -/
def globalValue (values : List (String × String)) (key : String) : Option String :=
  values.reverse.lookup key

/-- `a or b`. -/
def orElse (a b : Option String) : Option String :=
  match a with
  | some s => if s = "" then b else a
  | none => b

/-! ### The arguments of the subcommands -/

/-- The options of `initiate`. -/
structure InitiateArgs where
  workflowId : Option String := none
  correlationId : Option String := none
  actor : Option String := none
  deriving DecidableEq, Repr

/-- `_parse_initiate_args`. -/
def parseInitiateArgs (values : InitiateArgs) : List String → Except CliUsageError InitiateArgs
  | [] => .ok values
  | token :: rest =>
      if token = flagWorkflowId then
        match rest with
        | [] => missingValue token
        | value :: rest => parseInitiateArgs { values with workflowId := some value } rest
      else if token = flagCorrelationId then
        match rest with
        | [] => missingValue token
        | value :: rest => parseInitiateArgs { values with correlationId := some value } rest
      else if token = flagActor then
        match rest with
        | [] => missingValue token
        | value :: rest => parseInitiateArgs { values with actor := some value } rest
      else usageError ("Unknown initiate flag: " ++ token)

/-- `token.startswith("-")`. -/
def startsWithDash (token : String) : Bool := token.toList.head? = some '-'

/-- The loop of `_parse_workflow_id_args`. -/
def workflowIdArgs (subcommand : String) (workflowId : Option String) :
    List String → Except CliUsageError (Option String)
  | [] => .ok workflowId
  | token :: rest =>
      let taken := usageError (subcommand ++ " accepts only one workflow_id argument")
      if token = flagWorkflowId then
        if workflowId.isSome then taken
        else
          match rest with
          | [] => missingValue token
          | value :: rest => workflowIdArgs subcommand (some value) rest
      else if startsWithDash token then
        usageError ("Unknown " ++ subcommand ++ " flag: " ++ token)
      else if workflowId.isSome then taken
      else workflowIdArgs subcommand (some token) rest

/-- `_parse_workflow_id_args`. -/
def parseWorkflowIdArgs (args : List String) (subcommand : String) :
    Except CliUsageError String := do
  match ← workflowIdArgs subcommand none args with
  | none => usageError (subcommand ++ " requires a workflow_id argument")
  | some workflowId => return workflowId

/-- The options of `approve`. -/
structure ApproveArgs where
  workflowId : Option String := none
  action : Option String := none
  actor : Option String := none
  deriving DecidableEq, Repr

/-- The loop of `_parse_approve_args`. -/
def approveArgs (values : ApproveArgs) : List String → Except CliUsageError ApproveArgs
  | [] => .ok values
  | token :: rest =>
      let taken := usageError "approve accepts only one workflow_id argument"
      if token = flagWorkflowId then
        if values.workflowId.isSome then taken
        else
          match rest with
          | [] => missingValue token
          | value :: rest => approveArgs { values with workflowId := some value } rest
      else if token = flagAction then
        match rest with
        | [] => missingValue token
        | value :: rest => approveArgs { values with action := some value } rest
      else if token = flagActor then
        match rest with
        | [] => missingValue token
        | value :: rest => approveArgs { values with actor := some value } rest
      else if startsWithDash token then usageError ("Unknown approve flag: " ++ token)
      else if values.workflowId.isSome then taken
      else approveArgs { values with workflowId := some token } rest

/-- `_parse_approve_args`. -/
def parseApproveArgs (args : List String) : Except CliUsageError ApproveArgs := do
  let values ← approveArgs {} args
  if values.workflowId.isNone then usageError "approve requires a workflow_id argument"
  else return values

/-! ### The parser -/

/-- `_subcommand_id_from_registry`. -/
def subcommandIdFromRegistry (registry : SubcommandRegistry) (token : String) :
    Except CliUsageError SubcommandId :=
  match registry.find? fun spec => spec.2 = token with
  | some spec => .ok spec.1
  | none => usageError ("Unknown subcommand: " ++ token)

def defaultApiBaseUrl : String := "http://127.0.0.1:8000"
def defaultRequestTimeoutSeconds : PyFloat := .finite 30

/-- The client configuration of `parse`. -/
def clientConfig (env : CliEnvironment) (values : List (String × String)) :
    Except CliUsageError CliClientConfig := do
  let apiBaseUrl := (orElse (globalValue values "api_url")
    (orElse (env.environ "CARTOON_API_URL") (some defaultApiBaseUrl))).getD ""
  let configPathRaw := orElse (globalValue values "config_path") (env.environ "CARTOON_CONFIG_PATH")
  let configPath := orElse configPathRaw none
  let timeoutSeconds ←
    match orElse (globalValue values "timeout") (env.environ "CARTOON_CLI_TIMEOUT") with
    | none => .ok defaultRequestTimeoutSeconds
    | some raw =>
        match env.float raw with
        | some x => .ok x
        | none => usageError "timeout must be a number"
  return { apiBaseUrl, configPath, requestTimeoutSeconds := timeoutSeconds }

/-- The part of `parse` that depends on the subcommand, which fills the given invocation. -/
def parseSubcommand (invocation : ParsedCliInvocation) (token : String) (args : List String) :
    Except CliUsageError ParsedCliInvocation :=
  match invocation.subcommandId with
  | .initiate => do
      let values ← parseInitiateArgs {} args
      let request ← validateInitiateFields values.workflowId values.correlationId values.actor
      return { invocation with initiateRequest := some request }
  | .approve => do
      let values ← parseApproveArgs args
      let (workflowId, action, actor) ←
        validateApproveFields values.workflowId values.action values.actor
      return { invocation with
        workflowId := some workflowId
        approvalAction := some action
        approvalActor := actor }
  | _ => do
      let raw ← parseWorkflowIdArgs args token
      let workflowId ← validateWorkflowId true (some raw)
      return { invocation with workflowId := some workflowId }

/-- `parse`. -/
def parse (env : CliEnvironment) (registry : SubcommandRegistry) (argv : List String) :
    Except CliUsageError ParsedCliInvocation := do
  let injectionOverride ← FailureInjectionFlagParser.extract argv
  let (values, remaining) ← parseGlobalFlags argv
  if globalValue values "output" = some "json" then usageError "unsupported output format"
  else
    match remaining with
    | [] => usageError "subcommand is required"
    | token :: args => do
        let subcommandId ← subcommandIdFromRegistry registry token
        let config ← clientConfig env values
        parseSubcommand
          { subcommandId, clientConfig := config, rawArgs := argv,
            configOverride := injectionOverride.map fun o => { failureInjection := some o } }
          token args

/-! ### Roles

What each scan takes a token for. The scans are the tokens in their roles (`injectionIds_eq`,
`parseGlobalFlags_eq`).
-/

/-- What a token is consumed as. -/
inductive Role
  | globalFlag | globalValue | injectFlag | injectValue | subcommand | argument
  deriving DecidableEq, Repr

/-- The roles that `extract` gives: none to a token that it passes over. -/
def extractRoles : List String → List (Option Role)
  | [] => []
  | [token] => [if token = flagInject then some .injectFlag else none]
  | token :: value :: rest =>
      if token = flagInject then some .injectFlag :: some .injectValue :: extractRoles rest
      else none :: extractRoles (value :: rest)

/-- The role of a token that is left over by the global flags. -/
def remainingRole (seen : Bool) : Role := if seen then .argument else .subcommand

/-- The roles that `_parse_global_flags` gives, and `parse` to what is left over. -/
def globalRoles (seen : Bool) : List String → List Role
  | [] => []
  | [token] =>
      [if token = flagInject then .injectFlag
       else if isGlobalFlag token then .globalFlag else remainingRole seen]
  | token :: value :: rest =>
      if token = flagInject then .injectFlag :: .injectValue :: globalRoles seen rest
      else if isGlobalFlag token then .globalFlag :: .globalValue :: globalRoles seen rest
      else remainingRole seen :: globalRoles true (value :: rest)

/-- The tokens in one of the roles. -/
def tokensIn {ρ : Type} (p : ρ → Bool) (argv : List String) (roles : List ρ) : List String :=
  ((argv.zip roles).filter fun tokenRole => p tokenRole.2).map Prod.fst

@[simp] theorem tokensIn_nil {ρ : Type} (p : ρ → Bool) (roles : List ρ) :
    tokensIn p [] roles = [] := rfl

@[simp] theorem tokensIn_cons {ρ : Type} (p : ρ → Bool) (token : String) (argv : List String)
    (role : ρ) (roles : List ρ) :
    tokensIn p (token :: argv) (role :: roles) =
      if p role then token :: tokensIn p argv roles else tokensIn p argv roles := by
  rw [tokensIn, List.zip_cons_cons, List.filter_cons]
  by_cases h : p role
  · rw [if_pos h, if_pos h]
    rfl
  · rw [if_neg h, if_neg h]
    rfl

/-- The injections that `extract` activates are the tokens in that role. -/
theorem injectionIds_eq {argv ids : List String}
    (h : FailureInjectionFlagParser.injectionIds argv = .ok ids) :
    ids = tokensIn (· = some Role.injectValue) argv (extractRoles argv) := by
  fun_induction FailureInjectionFlagParser.injectionIds argv generalizing ids with
  | case1 => exact (Except.ok.inj h).symm
  | case2 => cases h
  | case3 token htoken =>
      obtain rfl := Except.ok.inj h
      simp [extractRoles, htoken]
  | case4 value rest hid ih =>
      obtain ⟨ids, hids, rfl⟩ := except_map_ok h
      rw [extractRoles, if_pos rfl, ih hids]
      simp
  | case5 => cases h
  | case6 token value rest htoken ih =>
      rw [extractRoles, if_neg htoken, ih h]
      simp

/-- The tokens that `_parse_global_flags` leaves over are those in the other roles. -/
theorem parseGlobalFlags_eq {argv remaining : List String} {values : List (String × String)}
    (seen : Bool) (h : parseGlobalFlags argv = .ok (values, remaining)) :
    remaining = tokensIn (fun role => role = .subcommand ∨ role = .argument) argv
        (globalRoles seen argv) ∧
      values.map Prod.snd = tokensIn (· = Role.globalValue) argv (globalRoles seen argv) := by
  fun_induction parseGlobalFlags argv generalizing remaining values seen with
  | case1 =>
      obtain ⟨rfl, rfl⟩ := Prod.mk.inj (Except.ok.inj h)
      exact ⟨rfl, rfl⟩
  | case2 =>
      obtain ⟨rfl, rfl⟩ := Prod.mk.inj (Except.ok.inj h)
      simp [globalRoles]
  | case3 => cases h
  | case4 token htoken hflag =>
      obtain ⟨rfl, rfl⟩ := Prod.mk.inj (Except.ok.inj h)
      cases seen <;> simp [globalRoles, htoken, hflag, remainingRole]
  | case5 value rest ih =>
      obtain ⟨hremaining, hvalues⟩ := ih seen h
      rw [globalRoles, if_pos rfl, hremaining, hvalues]
      simp
  | case6 token value rest htoken hflag ih =>
      obtain ⟨⟨values, left⟩, hrest, heq⟩ := except_map_ok h
      obtain ⟨rfl, rfl⟩ := Prod.mk.inj heq
      obtain ⟨hremaining, hvalues⟩ := ih seen hrest
      rw [globalRoles, if_neg htoken, if_pos hflag, List.map_cons, hremaining, hvalues]
      simp
  | case7 token value rest htoken hflag ih =>
      obtain ⟨⟨values, left⟩, hrest, heq⟩ := except_map_ok h
      obtain ⟨rfl, rfl⟩ := Prod.mk.inj heq
      obtain ⟨hremaining, hvalues⟩ := ih true hrest
      rw [globalRoles, if_neg htoken, if_neg hflag, hremaining, hvalues]
      cases seen <;> simp [remainingRole]

/-! ### Agreement

In a run of `--inject` every second one is a value to the first scan, and none is to the second.
-/

/-- The role of an injection, which `extract` gives as well. -/
def injectRole (role : Role) : Option Role :=
  if role = .injectFlag ∨ role = .injectValue then some role else none

/-- The global flags that a list of tokens ends with. -/
def flagRun (tokens : List String) : Nat := (tokens.rtakeWhile isGlobalFlag).length

theorem flagRun_append_flag {tokens : List String} {token : String} (h : isGlobalFlag token) :
    flagRun (tokens ++ [token]) = flagRun tokens + 1 := by
  rw [flagRun, List.rtakeWhile_concat, if_pos h, List.length_append, List.length_singleton]
  rfl

theorem flagRun_append_other {tokens : List String} {token : String} (h : ¬ isGlobalFlag token) :
    flagRun (tokens ++ [token]) = 0 := by
  rw [flagRun, List.rtakeWhile_concat, if_neg h, List.length_nil]

/-- Each `--inject` stands behind an even number of global flags, when `before` precedes the
tokens. -/
def EvenRuns (before argv : List String) : Prop :=
  ∀ head tail, argv = head ++ flagInject :: tail → Even (flagRun (before ++ head))

theorem evenRuns_nil (before : List String) : EvenRuns before [] := by
  intro head tail h
  exact absurd h (by simp)

theorem evenRuns_cons {before argv : List String} {token : String} :
    EvenRuns before (token :: argv) ↔
      (token = flagInject → Even (flagRun before)) ∧ EvenRuns (before ++ [token]) argv := by
  constructor
  · intro h
    refine ⟨fun htoken => ?_, fun head tail heq => ?_⟩
    · have hhead := h [] argv (by rw [htoken]; rfl)
      rwa [List.append_nil] at hhead
    · have htail := h (token :: head) tail (by rw [heq]; rfl)
      rwa [List.append_assoc, List.singleton_append]
  · rintro ⟨htoken, hrest⟩ head tail heq
    cases head with
    | nil =>
        obtain ⟨rfl, -⟩ := List.cons.inj heq
        rw [List.append_nil]
        exact htoken rfl
    | cons first head =>
        obtain ⟨rfl, htail⟩ := List.cons.inj heq
        have hrun := hrest head tail htail
        rwa [List.append_assoc, List.singleton_append] at hrun

theorem evenRuns_cons_of_ne {before argv : List String} {token : String} (h : token ≠ flagInject) :
    EvenRuns before (token :: argv) ↔ EvenRuns (before ++ [token]) argv := by
  rw [evenRuns_cons]
  exact and_iff_right fun heq => absurd heq h

/-- An injection identifier is no flag. -/
theorem flag_of_isInjectionId {value : String} (h : isInjectionId value) :
    value ≠ flagInject ∧ ¬ isGlobalFlag value := by
  obtain ⟨id, -, hid⟩ := List.any_eq_true.mp h
  obtain rfl := of_decide_eq_true hid
  cases id <;> exact ⟨by decide, by decide⟩

/-- What `extract` makes of the tokens behind one that is not `--inject`. -/
theorem injectionIds_cons_of_ne {token : String} (h : token ≠ flagInject) (rest : List String) :
    FailureInjectionFlagParser.injectionIds (token :: rest) =
      FailureInjectionFlagParser.injectionIds rest := by
  cases rest with
  | nil => simp [FailureInjectionFlagParser.injectionIds, h]
  | cons value rest => rw [FailureInjectionFlagParser.injectionIds, if_neg h]

theorem extractRoles_cons_of_ne {token : String} (h : token ≠ flagInject) (rest : List String) :
    extractRoles (token :: rest) = none :: extractRoles rest := by
  cases rest with
  | nil => simp [extractRoles, h]
  | cons value rest => rw [extractRoles, if_neg h]

theorem extractRoles_flagInject (rest : List String) :
    ∃ roles, extractRoles (flagInject :: rest) = some .injectFlag :: roles := by
  cases rest with
  | nil => exact ⟨[], rfl⟩
  | cons value rest => exact ⟨some .injectValue :: extractRoles rest, by rw [extractRoles, if_pos rfl]⟩

/-- **Two tokens at a time.** Let `R` relate no role of `extract` to every role but those of an
injection, and these to themselves, but not an `--inject` to the value of a flag. Where the global
flags begin to be read behind an even run, it relates the roles of the scans exactly if `--inject`
always stands behind an even run. -/
theorem roles_related_iff {R : Option Role → Role → Prop}
    (hpass : ∀ role, role ≠ .injectFlag → role ≠ .injectValue → R none role)
    (hflag : R (some .injectFlag) .injectFlag) (hvalue : R (some .injectValue) .injectValue)
    (hclash : ¬ R (some .injectFlag) .globalValue) {argv ids : List String} (seen : Bool)
    {before : List String} (h : FailureInjectionFlagParser.injectionIds argv = .ok ids)
    (heven : Even (flagRun before)) :
    List.Forall₂ R (extractRoles argv) (globalRoles seen argv) ↔ EvenRuns before argv := by
  have hremaining : ∀ seen, R none (remainingRole seen) := by
    rintro (_ | _) <;> exact hpass _ (by decide) (by decide)
  have hglobal : R none .globalFlag := hpass _ (by decide) (by decide)
  fun_induction globalRoles seen argv generalizing before ids with
  | case1 => exact iff_of_true List.Forall₂.nil (evenRuns_nil before)
  | case2 seen token =>
      by_cases htoken : token = flagInject
      · rw [FailureInjectionFlagParser.injectionIds, if_pos htoken] at h
        cases h
      · refine iff_of_true ?_ ((evenRuns_cons_of_ne htoken).mpr (evenRuns_nil _))
        rw [extractRoles, if_neg htoken, if_neg htoken]
        split
        · exact List.Forall₂.cons hglobal List.Forall₂.nil
        · exact List.Forall₂.cons (hremaining seen) List.Forall₂.nil
  | case3 seen value rest ih =>
      -- the injection is valid, so it is no flag
      rw [FailureInjectionFlagParser.injectionIds, if_pos rfl] at h
      split at h
      · next hid =>
        obtain ⟨ids, hids, -⟩ := except_map_ok h
        obtain ⟨hne, hother⟩ := flag_of_isInjectionId hid
        have hrun : Even (flagRun (before ++ [flagInject] ++ [value])) := by
          rw [flagRun_append_other hother]
          exact Even.zero
        have hrest : _ ↔ _ := ih hids hrun
        rw [evenRuns_cons, evenRuns_cons_of_ne hne, ← hrest, extractRoles, if_pos rfl]
        simp [hflag, hvalue, heven]
      · cases h
  | case4 seen token value rest htoken htaken ih =>
      rw [injectionIds_cons_of_ne htoken] at h
      rw [evenRuns_cons_of_ne htoken, extractRoles_cons_of_ne htoken]
      have hodd : ¬ Even (flagRun (before ++ [token])) := by
        rw [flagRun_append_flag htaken]
        exact fun heven' => (Nat.even_add_one.mp heven') heven
      by_cases hinject : value = flagInject
      · -- the value of the flag is `--inject`
        obtain rfl := hinject
        obtain ⟨roles, hroles⟩ := extractRoles_flagInject rest
        refine iff_of_false ?_ fun hruns => hodd ((evenRuns_cons.mp hruns).1 rfl)
        rw [hroles]
        simp [hclash]
      · rw [injectionIds_cons_of_ne hinject] at h
        have hrun : Even (flagRun (before ++ [token] ++ [value])) := by
          by_cases hagain : isGlobalFlag value
          · rw [flagRun_append_flag hagain, Nat.even_add_one]
            exact hodd
          · rw [flagRun_append_other hagain]
            exact Even.zero
        have hrest : _ ↔ _ := ih h hrun
        rw [evenRuns_cons_of_ne hinject, extractRoles_cons_of_ne hinject, ← hrest]
        simp [hglobal, hpass .globalValue (by decide) (by decide)]
  | case5 seen token value rest htoken hother ih =>
      rw [injectionIds_cons_of_ne htoken] at h
      have hrun : Even (flagRun (before ++ [token])) := by
        rw [flagRun_append_other hother]
        exact Even.zero
      have hrest : _ ↔ _ := ih h hrun
      rw [evenRuns_cons_of_ne htoken, extractRoles_cons_of_ne htoken, ← hrest]
      simp [hremaining seen]

/-! ### Every token in one role

Where every run has an even length, the two scans agree about every token.
-/

/-- The roles that the scans give to a token. -/
def rolesAt (argv : List String) (i : Nat) : List Role :=
  (extractRoles argv)[i]?.join.toList ++ (globalRoles false argv)[i]?.toList

/-- The scans take the same tokens for `--inject` flags, and each token has one role. -/
structure PassesAgree (argv : List String) : Prop where
  sameFlags : ∀ i : Nat, (extractRoles argv)[i]? = some (some .injectFlag) ↔
    (globalRoles false argv)[i]? = some .injectFlag
  oneRole : ∀ i < argv.length, ∃! role, role ∈ rolesAt argv i

theorem length_extractRoles (argv : List String) : (extractRoles argv).length = argv.length := by
  fun_induction extractRoles argv with
  | case1 => rfl
  | case2 => rfl
  | case3 value rest ih => simp [ih]
  | case4 token value rest htoken ih => simp [ih]

theorem length_globalRoles (seen : Bool) (argv : List String) :
    (globalRoles seen argv).length = argv.length := by
  fun_induction globalRoles seen argv with
  | case1 => rfl
  | case2 => rfl
  | case3 seen value rest ih => simp [ih]
  | case4 seen token value rest htoken hflag ih => simp [ih]
  | case5 seen token value rest htoken hflag ih => simp [ih]

/-- The roles that are given to one token. -/
theorem rolesAt_eq {argv : List String} {i : Nat} (hi : i < argv.length) :
    ∃ taken role, (extractRoles argv)[i]? = some taken ∧ (globalRoles false argv)[i]? = some role ∧
      rolesAt argv i = taken.toList ++ [role] := by
  have hextract := List.getElem?_eq_getElem (hi.trans_eq (length_extractRoles argv).symm)
  have hglobal := List.getElem?_eq_getElem (hi.trans_eq (length_globalRoles false argv).symm)
  refine ⟨_, _, hextract, hglobal, ?_⟩
  rw [rolesAt, hextract, hglobal]
  rfl

/-- **The passes agree** exactly on the arguments in which `--inject` always stands behind an even
number of global flags. -/
theorem passesAgree_iff {argv ids : List String}
    (h : FailureInjectionFlagParser.injectionIds argv = .ok ids) :
    PassesAgree argv ↔ EvenRuns [] argv := by
  have hlength : (extractRoles argv).length = (globalRoles false argv).length := by
    rw [length_extractRoles, length_globalRoles]
  constructor
  · rintro ⟨-, hone⟩
    have hrelated : List.Forall₂ (fun taken role => ∀ r ∈ taken, r = role) (extractRoles argv)
        (globalRoles false argv) := by
      refine List.forall₂_iff_get.mpr ⟨hlength, fun i hi hi' r hr => ?_⟩
      have hi'' := hi.trans_eq (length_extractRoles argv)
      obtain ⟨taken, role, hextract, hglobal, hroles⟩ := rolesAt_eq hi''
      obtain ⟨only, -, honly⟩ := hone i hi''
      rw [List.getElem?_eq_getElem hi, Option.some.injEq] at hextract
      rw [List.getElem?_eq_getElem hi', Option.some.injEq] at hglobal
      have hr' : r ∈ rolesAt argv i := by
        rw [hroles, ← hextract]
        exact List.mem_append_left _ (Option.mem_toList.mpr hr)
      have hrole : role ∈ rolesAt argv i := by
        rw [hroles]
        exact List.mem_append_right _ (List.mem_singleton.mpr rfl)
      rw [honly r hr', ← honly role hrole]
      exact hglobal.symm
    exact (roles_related_iff (by simp) (by simp) (by simp) (by simp) false h Even.zero).mp hrelated
  · intro hruns
    have hrelated : List.Forall₂ (fun taken role => taken = injectRole role) (extractRoles argv)
        (globalRoles false argv) :=
      (roles_related_iff (fun role hne hne' => by simp [injectRole, hne, hne']) rfl rfl (by decide)
        false h Even.zero).mpr hruns
    obtain ⟨-, hget⟩ := List.forall₂_iff_get.mp hrelated
    have hsame : ∀ (i : Nat) taken role, (extractRoles argv)[i]? = some taken →
        (globalRoles false argv)[i]? = some role → taken = injectRole role := by
      intro i taken role hextract hglobal
      obtain ⟨hi, rfl⟩ := List.getElem?_eq_some_iff.mp hextract
      obtain ⟨hi', rfl⟩ := List.getElem?_eq_some_iff.mp hglobal
      exact hget i hi hi'
    refine ⟨fun i => ?_, fun i hi => ?_⟩
    · by_cases hi : i < argv.length
      · obtain ⟨taken, role, hextract, hglobal, -⟩ := rolesAt_eq hi
        rw [hextract, hglobal, hsame i taken role hextract hglobal]
        cases role <;> decide
      · rw [List.getElem?_eq_none (by rw [length_extractRoles]; omega),
          List.getElem?_eq_none (by rw [length_globalRoles]; omega)]
        simp
    · obtain ⟨taken, role, hextract, hglobal, hroles⟩ := rolesAt_eq hi
      rw [hroles, hsame i taken role hextract hglobal]
      refine ⟨role, List.mem_append_right _ (List.mem_singleton.mpr rfl), fun r hr => ?_⟩
      rcases List.mem_append.mp hr with hr | hr
      · rw [Option.mem_toList, injectRole] at hr
        split at hr
        · exact (Option.some.inj hr).symm
        · cases hr
      · exact List.mem_singleton.mp hr

/-- **The two passes over the command line** agree on arguments that are parsed, and each token has
one role, exactly if every `--inject` stands directly behind an even number of global flags. -/
theorem passes_agree_of_parse (env : CliEnvironment) (registry : SubcommandRegistry)
    (argv : List String) {invocation : ParsedCliInvocation}
    (h : parse env registry argv = .ok invocation) :
    PassesAgree argv ↔
      ∀ head tail, argv = head ++ flagInject :: tail → Even (flagRun head) := by
  obtain ⟨injectionOverride, hextract, -⟩ := except_bind_ok h
  obtain ⟨ids, hids, -⟩ := except_bind_ok hextract
  exact passesAgree_iff hids

/-! ### A run of one flag -/

/-- The registry of `build_default_subcommand_registry`. -/
def defaultRegistry : SubcommandRegistry :=
  [(.initiate, "initiate"), (.status, "status"), (.history, "history"), (.output, "output"),
   (.timeline, "timeline"), (.approve, "approve")]

/-- No environment variables. -/
def emptyEnvironment : CliEnvironment where
  environ _ := none
  float _ := none

/-- `--inject` is the value of `--api-url`, and the injection is active all the same. -/
theorem inject_as_value :
    (∃ invocation, parse emptyEnvironment defaultRegistry
        ["status", "--api-url", "--inject", "FINJ-WKR-PRE"] = .ok invocation ∧
      invocation.clientConfig.apiBaseUrl = "--inject" ∧
      invocation.workflowId = some "FINJ-WKR-PRE" ∧
      invocation.configOverride = some { failureInjection := some {
        enabled := true, activeInjections := {"FINJ-WKR-PRE"} } }) ∧
    ¬ PassesAgree ["status", "--api-url", "--inject", "FINJ-WKR-PRE"] := by
  refine ⟨⟨_, rfl, rfl, rfl, rfl⟩, fun h => ?_⟩
  obtain ⟨only, -, honly⟩ := h.oneRole 2 (by decide)
  have hflag := honly .injectFlag (by decide)
  have hvalue := honly .globalValue (by decide)
  exact absurd (hflag.trans hvalue.symm) (by decide)

/-- Behind two global flags it is an injection for both passes. -/
theorem passes_agree_of_parse_two :
    PassesAgree ["--api-url", "--timeout", "--inject", "FINJ-WKR-PRE", "status", "wf"] ↔
      ∀ head tail, ["--api-url", "--timeout", "--inject", "FINJ-WKR-PRE", "status", "wf"] =
        head ++ flagInject :: tail → Even (flagRun head) :=
  passes_agree_of_parse emptyEnvironment defaultRegistry _ rfl

end ArgumentParser

end CartoonDemo
