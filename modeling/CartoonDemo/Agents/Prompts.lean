import CartoonDemo.Agents.Messages
import CartoonDemo.Agents.Types
import CartoonDemo.Library.Regex

/-!
# CartoonDemo.Agents.Prompts

The **prompt builder** (`agents/prompts/builder.py`): the placeholders of a template are replaced
by the values of variables, and the result may hold no placeholder any more.

The check runs on the text with the values in it, so a value that looks like a placeholder makes
it fail. Whether a template can be filled in is independent of the values only where the values do
not get into the text at all (`substitution_independent_iff`).

`dumps` stands for `json.dumps` with the separators `,` and `:`.
-/

namespace CartoonDemo

namespace Agents

open Regex

/-- A character of a variable's name. -/
def isNameChar (c : Char) : Bool := c.isLower || c = '_'

/-- `_MUSTACHE_PATTERN`. -/
def mustachePattern : Regex :=
  seqs [literal exact "\x7b\x7b", spaces, group (chars isNameChar 1 none), spaces,
    literal exact "\x7d\x7d"]

/-- `_REMAINING_MUSTACHE`. -/
def remainingMustache : Regex :=
  seqs [literal exact "\x7b\x7b", chars (fun c => c ≠ '}') 1 none, literal exact "\x7d\x7d"]

/-- What a match of the pattern becomes: the value of the variable, or itself. -/
def replaceMustache (vars : List (String × String)) (c m : Cursor) : List Char :=
  match vars.lookup (String.ofList m.captured) with
  | none => c.upTo m
  | some value => value.toList

/-- `_substitute_mustache`. -/
def substituteMustache (template : String) (vars : List (String × String)) (agentId : AgentId) :
    Except AgentError String :=
  let substituted := sub mustachePattern (replaceMustache vars) template.toList
  if (search remainingMustache substituted).isSome then
    .error ⟨.promptLoad, promptLoadMessage agentId "unresolved template variables", some agentId⟩
  else .ok (String.ofList substituted)

/-! ### Messages -/

/-- Who speaks in a message. -/
inductive ProviderMessageRole
  | system | user
  deriving DecidableEq, Repr

/-- A message of a prompt. -/
structure ProviderMessage where
  role : ProviderMessageRole
  content : String
  deriving DecidableEq, Repr

section Messages

variable (dumps : Json → String)

/-- The system message is the filled in template, the user message is JSON. -/
def buildMessages (promptText : String) (vars : List (String × String)) (payload : String)
    (agentId : AgentId) : Except AgentError (List ProviderMessage) := do
  let systemContent ← substituteMustache promptText vars agentId
  return [⟨.system, systemContent⟩, ⟨.user, payload⟩]

/-- The fields of a candidate that are not `None`. -/
def candidateToDict (candidate : CandidateStory) : Json :=
  .obj (("source_id", .str candidate.sourceId) ::
    (([("title", candidate.title), ("url", candidate.url)].filter fun field =>
        match field.2 with
        | .null => false
        | _ => true) ++
      (candidate.score.map fun n => ("score", Json.int n)).toList ++
      (candidate.commentCount.map fun n => ("comment_count", Json.int n)).toList ++
      (candidate.rankScore.map fun x => ("rank_score", Json.float x)).toList))

/-- `_scenario_to_dict`. -/
def scenarioToDict (scenario : ScenarioOutput) : Json :=
  .obj
    [("topic", .str scenario.topic),
     ("premise", .str scenario.premise),
     ("characters", .arr (scenario.characters.map .str)),
     ("panels", .arr (scenario.panels.map fun panel =>
       .obj [("scene", .str panel.scene), ("dialogue", .str panel.dialogue)])),
     ("punchline", .str scenario.punchline)]

/-- `build_topic_messages`. -/
def buildTopicMessages (promptText : String) (candidates : List CandidateStory) (agentId : AgentId) :
    Except AgentError (List ProviderMessage) :=
  let candidatesJson := dumps (.arr (candidates.map candidateToDict))
  buildMessages promptText [("candidates_json", candidatesJson)] candidatesJson agentId

/-- `value` of a field that may be `None`, as JSON. -/
def optionalText (value : Option String) : Json := (value.map Json.str).getD .null

/-- `build_scenario_messages`. -/
def buildScenarioMessages (promptText : String) (topic : TopicSelectionOutput) (agentId : AgentId) :
    Except AgentError (List ProviderMessage) :=
  buildMessages promptText
    [("selected_topic", topic.selectedTopic.getD ""),
     ("why_interesting", topic.whyInteresting.getD ""),
     ("cartoon_angle", topic.cartoonAngle.getD "")]
    (dumps (.obj
      [("selected_topic", optionalText topic.selectedTopic),
       ("why_interesting", optionalText topic.whyInteresting),
       ("cartoon_angle", optionalText topic.cartoonAngle)]))
    agentId

/-- `build_critic_messages`. -/
def buildCriticMessages (promptText : String) (scenario : ScenarioOutput) (revisionNumber : Int)
    (agentId : AgentId) : Except AgentError (List ProviderMessage) :=
  buildMessages promptText
    [("scenario_json", dumps (scenarioToDict scenario)), ("revision_number", toString revisionNumber)]
    (dumps (.obj [("scenario", scenarioToDict scenario), ("revision_number", .int revisionNumber)]))
    agentId

end Messages

/-! ### When a template can be filled in

The substituted text is searched for braces again, so a value that brings a pair of them counts as
an unresolved variable.
-/

/-- `{{name}}` placeholders, in order. -/
def placeholders (template : String) : List String :=
  (pieces mustachePattern template.toList).filterMap fun piece =>
    match piece with
    | .kept _ => none
    | .found _ m => some (String.ofList m.captured)

/-- The template is filled in. -/
def Fills (template : String) (vars : List (String × String)) (agentId : AgentId) : Prop :=
  ∃ text, substituteMustache template vars agentId = .ok text

theorem fills_iff {template : String} {vars : List (String × String)} {agentId : AgentId} :
    Fills template vars agentId ↔
      ¬ (search remainingMustache (sub mustachePattern (replaceMustache vars)
        template.toList)).isSome := by
  rw [Fills, substituteMustache]
  split
  · next h => exact iff_of_false (by simp) (fun hn => hn h)
  · next h => exact iff_of_true ⟨_, rfl⟩ h

/-- Messages are built exactly when the template is filled in. -/
theorem buildMessages_isOk_iff {promptText payload : String} {vars : List (String × String)}
    {agentId : AgentId} :
    (∃ messages, buildMessages promptText vars payload agentId = .ok messages) ↔
      Fills promptText vars agentId := by
  rw [buildMessages, Fills]
  cases substituteMustache promptText vars agentId with
  | error e => exact iff_of_false (by rintro ⟨messages, h⟩; cases h) (by simp)
  | ok text => exact iff_of_true ⟨_, rfl⟩ ⟨text, rfl⟩

/-- A text in double braces is what the check looks for. -/
theorem search_remaining_of_infix {w s : List Char} (hne : w ≠ []) (hw : ∀ x ∈ w, x ≠ '}')
    (h : ['{', '{'] ++ w ++ ['}', '}'] <:+: s) : (search remainingMustache s).isSome := by
  obtain ⟨u, v, rfl⟩ := h
  refine search_isSome_iff.mpr ⟨u, ['{', '{'] ++ w ++ ['}', '}'] ++ v, by simp, ?_⟩
  have hopen : ("\x7b\x7b" : String).toList = ['{', '{'] := by decide
  have hclose : ("\x7d\x7d" : String).toList = ['}', '}'] := by decide
  refine List.ne_nil_of_mem (a := ⟨['}', '}'] ++ (w.reverse ++ (['{', '{'] ++ u.reverse)), v, []⟩) ?_
  refine mem_run_seqs_cons.mpr ⟨⟨['{', '{'] ++ u.reverse, w ++ ['}', '}'] ++ v, []⟩, ?_, ?_⟩
  · refine mem_run_literal_exact.mpr ⟨w ++ ['}', '}'] ++ v, ?_, ?_⟩
    · rw [hopen]
      simp
    · rw [hopen]
      rfl
  refine mem_run_seqs_cons.mpr ⟨⟨w.reverse ++ (['{', '{'] ++ u.reverse), ['}', '}'] ++ v, []⟩, ?_, ?_⟩
  · refine mem_run_chars.mpr ⟨w, ['}', '}'] ++ v, by simp, ?_, List.length_pos_iff.mpr hne, by simp, rfl⟩
    exact fun x hx => decide_eq_true (hw x hx)
  · refine mem_run_seqs_cons.mpr ⟨_, mem_run_literal_exact.mpr ⟨v, ?_, rfl⟩, ?_⟩
    · rw [hclose]
    · rw [mem_run_seqs_nil, hclose]
      rfl

/-- A placeholder is a name in double braces, with white space around it. -/
theorem mustache_shape {c m : Cursor} (h : m ∈ Regex.run mustachePattern c) :
    ∃ w, w ≠ [] ∧ (∀ x ∈ w, x ≠ '}') ∧ c.upTo m = ['{', '{'] ++ w ++ ['}', '}'] := by
  have hopen : ("\x7b\x7b" : String).toList = ['{', '{'] := by decide
  have hclose : ("\x7d\x7d" : String).toList = ['}', '}'] := by decide
  obtain ⟨c₁, h₁, h⟩ := mem_run_seqs_cons.mp h
  obtain ⟨c₂, h₂, h⟩ := mem_run_seqs_cons.mp h
  obtain ⟨c₃, h₃, h⟩ := mem_run_seqs_cons.mp h
  obtain ⟨c₄, h₄, h⟩ := mem_run_seqs_cons.mp h
  obtain ⟨c₅, h₅, h⟩ := mem_run_seqs_cons.mp h
  obtain rfl := mem_run_seqs_nil.mp h
  obtain ⟨s₁, hs₁, rfl⟩ := mem_run_literal_exact.mp h₁
  obtain ⟨w₁, s₂, hs₂, hw₁, -, -, rfl⟩ := mem_run_chars.mp h₂
  obtain ⟨c₃', hname, rfl⟩ := mem_run_group.mp h₃
  obtain ⟨w₂, s₃, hs₃, hw₂, hne, -, rfl⟩ := mem_run_chars.mp hname
  obtain ⟨w₃, s₄, hs₄, hw₃, -, -, rfl⟩ := mem_run_chars.mp h₄
  obtain ⟨s₅, hs₅, rfl⟩ := mem_run_literal_exact.mp h₅
  dsimp only at hs₂ hs₃ hs₄ hs₅
  refine ⟨w₁ ++ w₂ ++ w₃, ?_, ?_, ?_⟩
  · have : w₂ ≠ [] := List.length_pos_iff.mp hne
    simp [this]
  · have hspace : ∀ x, PyStr.isSpace x → x ≠ '}' := by
      rintro x hx rfl
      exact absurd hx (by decide)
    have hname : ∀ x, isNameChar x → x ≠ '}' := by
      rintro x hx rfl
      exact absurd hx (by decide)
    intro x hx
    rcases List.mem_append.mp hx with hx | hx
    · rcases List.mem_append.mp hx with hx | hx
      · exact hspace x (hw₁ x hx)
      · exact hname x (hw₂ x hx)
    · exact hspace x (hw₃ x hx)
  · refine upTo_eq ?_
    rw [hs₁, hopen, hs₂, hs₃, hs₄, hs₅, hclose]
    simp

/-- An assignment of values to names. -/
def assign (names : List String) (values : String → String) : List (String × String) :=
  names.map fun n => (n, values n)

theorem lookup_assign {names : List String} {values : String → String} {name : String} :
    (assign names values).lookup name = if name ∈ names then some (values name) else none := by
  induction names with
  | nil => rfl
  | cons n names ih =>
      rw [assign, List.map_cons, List.lookup_cons]
      by_cases h : name = n
      · simp [h]
      · rw [beq_eq_false_iff_ne.mpr h]
        simp only [List.mem_cons, h, false_or]
        exact ih

theorem mem_placeholders {template name : String} :
    name ∈ placeholders template ↔
      ∃ c m, .found c m ∈ pieces mustachePattern template.toList ∧ String.ofList m.captured = name := by
  rw [placeholders, List.mem_filterMap]
  constructor
  · rintro ⟨piece, hpiece, hname⟩
    cases piece with
    | kept x => cases hname
    | found c m => exact ⟨c, m, hpiece, Option.some.inj hname⟩
  · rintro ⟨c, m, hpiece, rfl⟩
    exact ⟨_, hpiece, rfl⟩

/-- A placeholder that is no variable stays, and the check finds it. -/
theorem not_fills_of_unknown {template name : String} {names : List String} {values : String → String}
    {agentId : AgentId} (hname : name ∈ placeholders template) (h : name ∉ names) :
    ¬ Fills template (assign names values) agentId := by
  obtain ⟨c, m, hpiece, rfl⟩ := mem_placeholders.mp hname
  obtain ⟨w, hne, hw, hshape⟩ := mustache_shape (mem_of_hit (hit_of_found hpiece))
  have hinfix : replaceMustache (assign names values) c m <:+: sub mustachePattern
      (replaceMustache (assign names values)) template.toList := infix_sub hpiece
  rw [replaceMustache, lookup_assign, if_neg h] at hinfix
  rw [fills_iff, not_not]
  exact search_remaining_of_infix hne hw (hshape ▸ hinfix)

/-- So is a value that looks like a placeholder. -/
theorem not_fills_of_value {template name : String} {names : List String} {values : String → String}
    {agentId : AgentId} (hname : name ∈ placeholders template) (h : name ∈ names)
    (hvalue : (values name).toList = ['{', '{', 'x', '}', '}']) :
    ¬ Fills template (assign names values) agentId := by
  obtain ⟨c, m, hpiece, rfl⟩ := mem_placeholders.mp hname
  have hinfix : replaceMustache (assign names values) c m <:+: sub mustachePattern
      (replaceMustache (assign names values)) template.toList := infix_sub hpiece
  rw [replaceMustache, lookup_assign, if_pos h] at hinfix
  rw [fills_iff, not_not]
  have hbraces : (values (String.ofList m.captured)).toList <:+: sub mustachePattern
      (replaceMustache (assign names values)) template.toList := hinfix
  rw [hvalue] at hbraces
  exact search_remaining_of_infix (w := ['x']) (by simp) (by simp) hbraces

/-- A template without placeholders is left alone. -/
theorem fills_iff_of_no_placeholder {template : String} {vars : List (String × String)}
    {agentId : AgentId} (h : placeholders template = []) :
    Fills template vars agentId ↔ ¬ (search remainingMustache template.toList).isSome := by
  rw [fills_iff, sub_eq_self]
  intro c m hpiece
  have hmem : String.ofList m.captured ∈ placeholders template := mem_placeholders.mpr ⟨c, m, hpiece, rfl⟩
  rw [h] at hmem
  cases hmem

/-- Filling in a template does not depend on the values, and works exactly when every placeholder
is a variable. -/
def SubstitutionIndependent (template : String) (names : List String) (agentId : AgentId) : Prop :=
  ∀ values values' : String → String,
    (Fills template (assign names values) agentId ↔ Fills template (assign names values') agentId) ∧
      (Fills template (assign names values) agentId ↔ ∀ name ∈ placeholders template, name ∈ names)

/-- **Prompt building does not depend on the data** where a placeholder is missing anyway, or where
the template has none at all. -/
theorem substitution_independent_iff (template : String) (names : List String) (agentId : AgentId) :
    SubstitutionIndependent template names agentId ↔
      (∃ name ∈ placeholders template, name ∉ names) ∨
        (placeholders template = [] ∧ ¬ (search remainingMustache template.toList).isSome) := by
  constructor
  · intro h
    by_cases hunknown : ∃ name ∈ placeholders template, name ∉ names
    · exact Or.inl hunknown
    have hall : ∀ name ∈ placeholders template, name ∈ names := by
      intro name hname
      by_contra hnot
      exact hunknown ⟨name, hname, hnot⟩
    let values : String → String := fun _ => String.ofList ['{', '{', 'x', '}', '}']
    have hfills := (h values values).2.mpr hall
    cases hplaceholders : placeholders template with
    | nil => exact Or.inr ⟨rfl, (fills_iff_of_no_placeholder hplaceholders).mp hfills⟩
    | cons name rest =>
        have hname : name ∈ placeholders template := hplaceholders ▸ List.mem_cons_self ..
        exact absurd hfills (not_fills_of_value hname (hall name hname) (by simp [values]))
  · rintro (⟨name, hname, hunknown⟩ | ⟨hnone, hsearch⟩) values values'
    · refine ⟨iff_of_false (not_fills_of_unknown hname hunknown) (not_fills_of_unknown hname hunknown),
        iff_of_false (not_fills_of_unknown hname hunknown) ?_⟩
      exact fun hall => hunknown (hall name hname)
    · have hfills : ∀ vars, Fills template vars agentId := fun vars =>
        (fills_iff_of_no_placeholder hnone).mpr hsearch
      refine ⟨iff_of_true (hfills _) (hfills _), iff_of_true (hfills _) ?_⟩
      rw [hnone]
      simp

/-- A title in double braces makes a template with its placeholder fail. -/
theorem braces_in_value_fail :
    ¬ SubstitutionIndependent "\x7b\x7bcandidates_json\x7d\x7d" ["candidates_json"] .topicSelector := by
  intro h
  have hplaceholders : placeholders "\x7b\x7bcandidates_json\x7d\x7d" = ["candidates_json"] := by
    decide +kernel
  have hfills := (h (fun _ => "[\"\x7b\x7bx\x7d\x7d\"]") fun _ => "").2.mpr (by simp [hplaceholders])
  rw [fills_iff] at hfills
  exact absurd hfills (by decide +kernel)

end Agents

end CartoonDemo
