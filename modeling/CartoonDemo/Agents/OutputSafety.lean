import CartoonDemo.Agents.OutputValidation

/-!
# CartoonDemo.Agents.OutputSafety

What **gets past the output validation**. Every check has the form `value < minimum` or
`value > maximum`, in the schema and once more in the code, and `nan` is neither. So a topic whose
scores hold a `NaN` is accepted; and what `json.loads` raises besides a `JSONDecodeError` is not
turned into an `AgentOutputValidationError`. Apart from these two, only well formed outputs are
returned (`only_well_formed_iff`).
-/

namespace CartoonDemo

namespace Agents

/-! ### Exceptions that are foreseen

A step either has its result or raises an error of the agent. What a schema accepts is enough for
the steps after it.
-/

/-- The result has a property, or an `AgentOutputValidationError` was raised. -/
def Validated {α : Type} (P : α → Prop) : Except OutputException α → Prop
  | .ok a => P a
  | .error (.agent e) => e.kind = .outputValidation
  | .error (.py _) => False

theorem item_of_lookup {fields : List (String × Json)} {key : String} {v : Json}
    (h : fields.lookup key = some v) : item fields key = .ok v := by
  rw [item, h]

section Reading

variable (bestMessage : Schema → Json → String) (render : Json → String)

theorem itemText_of_string {fields : List (String × Json)} {key s : String}
    (h : fields.lookup key = some (.str s)) : itemText render fields key = .ok s := by
  rw [itemText, item_of_lookup h]
  rfl

/-- A required text of an accepted object is read. -/
theorem itemText_of_accepts {fields : List (String × Json)} {parts : List Schema}
    (h : Schema.accepts (.all parts) (.obj fields)) {names : List String}
    {props : List (String × Schema)} (hrequired : .required names ∈ parts)
    (hprops : .properties props ∈ parts) {key : String} (hkey : key ∈ names)
    (hprop : (key, .type [.string]) ∈ props) :
    ∃ s, fields.lookup key = some (.str s) ∧ itemText render fields key = .ok s := by
  obtain ⟨v, hv, haccepts⟩ := Schema.field_of_accepts h hrequired hprops hkey hprop
  obtain ⟨s, rfl⟩ := Schema.string_of_accepts haccepts
  exact ⟨s, hv, itemText_of_string render hv⟩

/-- A text that an object without further properties requires. -/
theorem itemText_of_object {fields : List (String × Json)} {names : List String}
    {props : List (String × Schema)} (h : Schema.accepts (.all (objectKeywords names props)) (.obj fields))
    {key : String} (hkey : key ∈ names) (hprop : (key, stringSchema) ∈ props) :
    ∃ s, fields.lookup key = some (.str s) ∧ itemText render fields key = .ok s :=
  itemText_of_accepts render h (by simp [objectKeywords]) (by simp [objectKeywords]) hkey hprop

/-! ### Scores

A score that the schema accepts is in the unit interval, or nan: no comparison with nan holds.
-/

/-- A real number from 0 to 1. -/
def InUnit (x : PyFloat) : Prop := PyFloat.zero.le x ∧ x.le (.finite 1)

theorem not_inUnit_nan : ¬ InUnit .nan := fun h => absurd h.1 (by decide)

/-- What neither bound rejects. -/
theorem inUnit_or_nan {x : PyFloat} (hlow : x.lt PyFloat.zero = false)
    (hhigh : PyFloat.lt (.finite 1) x = false) : x = .nan ∨ InUnit x := by
  cases x with
  | nan => exact Or.inl rfl
  | inf negative =>
      cases negative with
      | true => exact absurd hlow (by decide)
      | false => exact absurd hhigh (by decide)
  | finite q =>
      simp only [PyFloat.lt, PyFloat.le, PyFloat.zero, Bool.and_eq_false_iff, decide_eq_false_iff_not,
        Bool.not_eq_false', decide_eq_true_eq, not_le] at hlow hhigh
      refine Or.inr ⟨?_, ?_⟩
      · simp only [PyFloat.zero, PyFloat.le, decide_eq_true_eq]
        rcases hlow with h | h
        · exact le_of_lt h
        · exact h
      · simp only [PyFloat.le, decide_eq_true_eq]
        rcases hhigh with h | h
        · exact le_of_lt h
        · exact h

/-- A score that the schema accepts is read, and `nan` is the only one out of range. -/
theorem readScore_of_accepts {scores : List (String × Json)} {name : String} {v : Json}
    (hv : scores.lookup name = some v) (haccepts : scoreSchema.accepts v) :
    ∃ x, readScore scores name = .ok x ∧ ((v = .float .nan ∧ x = .nan) ∨ (v ≠ .float .nan ∧ InUnit x)) := by
  have hparts := Schema.accepts_all_iff.mp haccepts
  have hmin := Schema.accepts_minimum_iff.mp (hparts (.minimum 0) (by simp))
  have hmax := Schema.accepts_maximum_iff.mp (hparts (.maximum 1) (by simp))
  have hread : readScore scores name = validateScoreRange v name .topicSelector := by
    rw [readScore, item_of_lookup hv]
    rfl
  rw [hread]
  rcases Schema.number_of_accepts (hparts (.type [.number]) (by simp)) with ⟨n, rfl⟩ | ⟨x, rfl⟩
  · have hn : n = 0 ∨ n = 1 := by
      simp only [Schema.lessThan, Schema.greaterThan, decide_eq_false_iff_not, not_lt] at hmin hmax
      have hlow : (0 : ℤ) ≤ n := by exact_mod_cast hmin
      have hhigh : n ≤ 1 := by exact_mod_cast hmax
      omega
    refine ⟨.finite n, ?_, Or.inr ⟨by simp, ?_⟩⟩
    · rw [validateScoreRange, PyFloat.ofInt_of_lt (by omega)]
      rcases hn with rfl | rfl
      · rfl
      · rfl
    · rcases hn with rfl | rfl
      · exact ⟨by decide, by decide⟩
      · exact ⟨by decide, by decide⟩
  · have hok : validateScoreRange (.float x) name .topicSelector = .ok x := by
      have hlow : x.lt PyFloat.zero = false := hmin
      have hhigh : PyFloat.lt (.finite 1) x = false := hmax
      rw [validateScoreRange]
      simp only [hlow, hhigh, Bool.or_self, Bool.false_eq_true, if_false]
    refine ⟨x, hok, ?_⟩
    rcases inUnit_or_nan hmin hmax with rfl | hx
    · exact Or.inl ⟨rfl, rfl⟩
    · refine Or.inr ⟨?_, hx⟩
      rintro heq
      rw [Json.float.inj heq] at hx
      exact not_inUnit_nan hx

/-- The scores are read, each under its name. -/
theorem readScores_eq {scores : List (String × Json)} {value : String → PyFloat}
    (h : ∀ name ∈ scoreNames, readScore scores name = .ok (value name)) :
    ∃ s, readScores scores = .ok s ∧ s.all = scoreNames.map value := by
  have hread : ∀ name ∈ scoreNames, readScore scores name = .ok (value name) := h
  rw [readScores, hread _ (by simp [scoreNames]), hread _ (by simp [scoreNames]),
    hread _ (by simp [scoreNames]), hread _ (by simp [scoreNames]), hread _ (by simp [scoreNames]),
    hread _ (by simp [scoreNames]), hread _ (by simp [scoreNames])]
  exact ⟨_, rfl, rfl⟩

/-- A `NaN` among the scores. -/
def HasNan (scores : List (String × Json)) : Prop :=
  ∃ name ∈ scoreNames, scores.lookup name = some (.float .nan)

/-- Accepted scores are read, and they are in range exactly when there is no `NaN`. -/
theorem readScores_of_accepts {scores : List (String × Json)} (h : scoresSchema.accepts (.obj scores)) :
    ∃ s, readScores scores = .ok s ∧ ((∀ x ∈ s.all, InUnit x) ↔ ¬ HasNan scores) := by
  have hscore : ∀ name, ∃ x, name ∈ scoreNames → readScore scores name = .ok x ∧
      (InUnit x ↔ scores.lookup name ≠ some (.float .nan)) := by
    intro name
    by_cases hname : name ∈ scoreNames
    · obtain ⟨v, hv, haccepts⟩ := Schema.field_of_accepts h (by simp) (by simp) hname
        (show (name, scoreSchema) ∈ scoreNames.map fun name => (name, scoreSchema) from
          List.mem_map_of_mem hname)
      obtain ⟨x, hread, hx⟩ := readScore_of_accepts hv haccepts
      refine ⟨x, fun _ => ⟨hread, ?_⟩⟩
      rw [hv]
      rcases hx with ⟨rfl, rfl⟩ | ⟨hne, hunit⟩
      · exact iff_of_false not_inUnit_nan (not_not_intro rfl)
      · exact iff_of_true hunit fun heq => hne (Option.some.inj heq)
    · exact ⟨.nan, fun hmem => absurd hmem hname⟩
  choose value hvalue using hscore
  obtain ⟨s, hs, hall⟩ := readScores_eq fun name hname => (hvalue name hname).1
  refine ⟨s, hs, ?_⟩
  rw [hall, List.forall_mem_map]
  constructor
  · rintro hunit ⟨name, hname, hnan⟩
    exact ((hvalue name hname).2.mp (hunit name hname)) hnan
  · intro hnone name hname
    exact (hvalue name hname).2.mpr fun hnan => hnone ⟨name, hname, hnan⟩

/-! ### Topics -/

theorem readAlternatives_of_accepts {values : List Json}
    (h : ∀ v ∈ values, alternativeSchema.accepts v) :
    ∃ alternatives, readAlternatives render values = .ok alternatives := by
  induction values with
  | nil => exact ⟨[], rfl⟩
  | cons v values ih =>
      obtain ⟨alternatives, hrest⟩ := ih fun w hw => h w (List.mem_cons_of_mem _ hw)
      have hv : alternativeSchema.accepts v := h v (List.mem_cons_self ..)
      obtain ⟨fields, rfl⟩ := Schema.object_of_accepts (Schema.accepts_all_iff.mp hv _
        (List.mem_cons_self ..))
      obtain ⟨topic, -, htopic⟩ := itemText_of_object render hv (List.mem_cons_self ..)
        (List.mem_cons_self ..)
      obtain ⟨rationale, -, hrationale⟩ := itemText_of_object render hv
        (show "rationale" ∈ _ from List.mem_cons_of_mem _ (List.mem_cons_self ..))
        (List.mem_cons_of_mem _ (List.mem_cons_self ..))
      refine ⟨⟨topic, rationale⟩ :: alternatives, ?_⟩
      rw [readAlternatives, htopic, hrationale, hrest]
      rfl

theorem outcome_of_accepts {data : List (String × Json)}
    (h : topicSelectionSchema.accepts (.obj data)) :
    ∃ outcome ∈ ["topic_selected", "no_suitable_topic"], data.lookup "outcome" = some (.str outcome) := by
  obtain ⟨v, hv, haccepts⟩ := Schema.field_of_accepts h
    (show Schema.required ["outcome"] ∈ _ by simp [objectKeywords])
    (show Schema.properties topicFields ∈ _ by simp [objectKeywords])
    (List.mem_singleton_self _) (List.mem_cons_self ..)
  obtain ⟨outcome, hmem, rfl⟩ := Schema.enum_of_accepts
    (Schema.accepts_all_iff.mp haccepts (.enum ["topic_selected", "no_suitable_topic"]) (by simp))
  exact ⟨outcome, hmem, hv⟩

/-- A field of an accepted topic is accepted. -/
theorem topicField_of_accepts {data : List (String × Json)}
    (h : topicSelectionSchema.accepts (.obj data)) {name : String} {s : Schema}
    (hprop : (name, s) ∈ topicFields) {v : Json} (hv : data.lookup name = some v) : s.accepts v :=
  Schema.accepts_field h (by simp [objectKeywords]) hprop hv

section Selected

variable {data : List (String × Json)} (h : topicSelectionSchema.accepts (.obj data))
  (houtcome : data.lookup "outcome" = some (.str "topic_selected"))

include h houtcome

/-- What the schema asks of a topic that was selected. -/
theorem selected_of_accepts :
    Schema.accepts (.all [.required selectedNames, .properties selectedFields]) (.obj data) := by
  have hcases := Schema.accepts_all_iff.mp h topicCases (List.mem_cons_self ..)
  refine Schema.accepts_of_ifThen (Schema.accepts_all_iff.mp hcases _ (List.mem_cons_self ..)) ?_
  refine Schema.accepts_all_iff.mpr ?_
  intro s hs
  simp only [List.mem_cons, List.not_mem_nil, or_false] at hs
  rcases hs with rfl | rfl
  · simp [Schema.accepts_properties, Schema.ofObject, Schema.acceptsFields_cons,
      Schema.acceptsFields_nil, houtcome, Schema.isOneOf, Schema.accepts_const]
  · simp [Schema.accepts_required, Schema.ofObject, houtcome]

theorem selected_text {key : String} (hkey : key ∈ ["selected_topic", "why_interesting", "cartoon_angle"]) :
    ∃ s, itemText render data key = .ok s := by
  have hnames : key ∈ selectedNames ∧ (key, Schema.type [.string]) ∈ selectedFields := by
    simp only [List.mem_cons, List.not_mem_nil, or_false] at hkey
    rcases hkey with rfl | rfl | rfl
    · simp [selectedNames, selectedFields]
    · simp [selectedNames, selectedFields]
    · simp [selectedNames, selectedFields]
  obtain ⟨s, -, hs⟩ := itemText_of_accepts render (selected_of_accepts h houtcome)
    (List.mem_cons_self ..) (show Schema.properties selectedFields ∈ _ by simp) hnames.1 hnames.2
  exact ⟨s, hs⟩

theorem selected_scores :
    ∃ scores, data.lookup "scores" = some (.obj scores) ∧ scoresSchema.accepts (.obj scores) := by
  obtain ⟨v, hv, hobject⟩ := Schema.field_of_accepts (selected_of_accepts h houtcome)
    (List.mem_cons_self ..) (show Schema.properties selectedFields ∈ _ by simp)
    (show "scores" ∈ selectedNames by simp [selectedNames])
    (show ("scores", Schema.type [.object]) ∈ selectedFields by simp [selectedFields])
  obtain ⟨scores, rfl⟩ := Schema.object_of_accepts hobject
  exact ⟨scores, hv, topicField_of_accepts h (by simp [topicFields]) hv⟩

theorem selected_alternatives :
    ∃ values, data.lookup "alternatives" = some (.arr values) ∧
      ∀ v ∈ values, alternativeSchema.accepts v := by
  have hthere := Schema.isSome_of_accepts (selected_of_accepts h houtcome) (List.mem_cons_self ..)
    (show "alternatives" ∈ selectedNames by simp [selectedNames])
  obtain ⟨v, hv⟩ := Option.isSome_iff_exists.mp hthere
  have haccepts := Schema.accepts_all_iff.mp (topicField_of_accepts h
    (s := .all [.type [.array], .items alternativeSchema]) (by simp [topicFields]) hv)
  obtain ⟨values, rfl⟩ := Schema.array_of_accepts (haccepts _ (List.mem_cons_self ..))
  exact ⟨values, hv, Schema.items_of_accepts (haccepts (.items alternativeSchema) (by simp))⟩

end Selected

/-- A `NaN` among the scores of a topic that was selected. -/
def NanScored (data : List (String × Json)) : Prop :=
  data.lookup "outcome" = some (.str "topic_selected") ∧
    ∃ scores, data.lookup "scores" = some (.obj scores) ∧ HasNan scores

theorem validateTopicOutput_of_selected {payload : ParsedProviderPayload} (promptVersion : String)
    (h : topicSelectionSchema.accepts (.obj payload.data))
    (houtcome : payload.data.lookup "outcome" = some (.str "topic_selected")) :
    ∃ o scores raw, validateTopicOutput bestMessage render payload promptVersion = .ok o ∧
      o.scores = some scores ∧ payload.data.lookup "scores" = some (.obj raw) ∧
        ((∀ x ∈ scores.all, InUnit x) ↔ ¬ HasNan raw) := by
  have hschema : validateSchema bestMessage topicSelectionSchema (.obj payload.data) .topicSelector =
      .ok () := if_pos h
  have htext : ∀ key ∈ ["selected_topic", "why_interesting", "cartoon_angle"],
      ∃ s, itemText render payload.data key = .ok s := fun key hkey => selected_text render h houtcome hkey
  obtain ⟨selectedTopic, hselectedTopic⟩ := htext "selected_topic" (by simp)
  obtain ⟨whyInteresting, hwhyInteresting⟩ := htext "why_interesting" (by simp)
  obtain ⟨cartoonAngle, hcartoonAngle⟩ := htext "cartoon_angle" (by simp)
  obtain ⟨raw, hraw, haccepts⟩ := selected_scores h houtcome
  obtain ⟨scores, hscores, hunit⟩ := readScores_of_accepts haccepts
  obtain ⟨values, hvalues, hall⟩ := selected_alternatives h houtcome
  obtain ⟨alternatives, halternatives⟩ := readAlternatives_of_accepts render hall
  let o : TopicSelectionOutput :=
    { outcome := .topicSelected
      promptVersion := promptVersion
      selectedTopic := some selectedTopic
      whyInteresting := some whyInteresting
      cartoonAngle := some cartoonAngle
      scores := some scores
      alternatives := alternatives }
  refine ⟨o, scores, raw, ?_, rfl, hraw, hunit⟩
  have hget : Json.get payload.data "scores" = .obj raw := by
    rw [Json.get, hraw]
    rfl
  rw [validateTopicOutput, hschema, itemText_of_string render houtcome, hget]
  show (readScores raw >>= fun scores =>
    iterate ((payload.data.lookup "alternatives").getD (.arr [])) >>= fun values =>
    readAlternatives render values >>= fun alternatives =>
    itemText render payload.data "selected_topic" >>= fun selectedTopic =>
    itemText render payload.data "why_interesting" >>= fun whyInteresting =>
    itemText render payload.data "cartoon_angle" >>= fun cartoonAngle => _) = _
  rw [hscores, hvalues, hselectedTopic, hwhyInteresting, hcartoonAngle]
  show (readAlternatives render values >>= fun alternatives => _) = _
  rw [halternatives]
  rfl

/-- An accepted topic is returned, with all scores in range unless there is a `NaN`. -/
theorem validateTopicOutput_of_accepts {payload : ParsedProviderPayload} {promptVersion : String}
    (h : topicSelectionSchema.accepts (.obj payload.data)) :
    ∃ o, validateTopicOutput bestMessage render payload promptVersion = .ok o ∧
      ((∀ s ∈ o.scores, ∀ x ∈ s.all, InUnit x) ↔ ¬ NanScored payload.data) := by
  have hschema : validateSchema bestMessage topicSelectionSchema (.obj payload.data) .topicSelector =
      .ok () := if_pos h
  obtain ⟨outcome, hmem, houtcome⟩ := outcome_of_accepts h
  simp only [List.mem_cons, List.not_mem_nil, or_false] at hmem
  rcases hmem with rfl | rfl
  · obtain ⟨o, scores, raw, hok, hscores, hraw, hunit⟩ :=
      validateTopicOutput_of_selected bestMessage render promptVersion h houtcome
    refine ⟨o, hok, ?_⟩
    have hnan : NanScored payload.data ↔ HasNan raw := by
      constructor
      · rintro ⟨-, raw', hraw', hnan⟩
        rw [hraw] at hraw'
        rwa [Json.obj.inj (Option.some.inj hraw')]
      · exact fun hnan => ⟨houtcome, raw, hraw, hnan⟩
    rw [hnan, ← hunit, hscores]
    simp
  · refine ⟨{ outcome := .noSuitableTopic, promptVersion := promptVersion }, ?_,
      iff_of_true (by simp) ?_⟩
    · rw [validateTopicOutput, hschema, itemText_of_string render houtcome]
      rfl
    · rintro ⟨hselected, -⟩
      rw [houtcome] at hselected
      exact absurd (Json.str.inj (Option.some.inj hselected)) (by decide)

/-! ### Scenarios -/

theorem readPanels_of_accepts {values : List Json} (h : ∀ v ∈ values, panelSchema.accepts v) :
    ∃ panels, readPanels render values = .ok panels ∧ panels.length = values.length := by
  induction values with
  | nil => exact ⟨[], rfl, rfl⟩
  | cons v values ih =>
      obtain ⟨panels, hrest, hlen⟩ := ih fun w hw => h w (List.mem_cons_of_mem _ hw)
      have hv : panelSchema.accepts v := h v (List.mem_cons_self ..)
      obtain ⟨fields, rfl⟩ := Schema.object_of_accepts (Schema.accepts_all_iff.mp hv _
        (List.mem_cons_self ..))
      obtain ⟨scene, -, hscene⟩ := itemText_of_object render hv (List.mem_cons_self ..)
        (List.mem_cons_self ..)
      obtain ⟨dialogue, -, hdialogue⟩ := itemText_of_object render hv
        (show "dialogue" ∈ _ from List.mem_cons_of_mem _ (List.mem_cons_self ..))
        (List.mem_cons_of_mem _ (List.mem_cons_self ..))
      refine ⟨⟨scene, dialogue⟩ :: panels, ?_, congrArg (· + 1) hlen⟩
      rw [readPanels, hscene, hdialogue, hrest]
      rfl

/-- The panels of an accepted scenario. -/
theorem panels_of_accepts {data : List (String × Json)} (h : scenarioSchema.accepts (.obj data)) :
    ∃ values, data.lookup "panels" = some (.arr values) ∧ 3 ≤ values.length ∧ values.length ≤ 4 ∧
      ∀ v ∈ values, panelSchema.accepts v := by
  obtain ⟨v, hv, haccepts⟩ := Schema.field_of_accepts h
    (show Schema.required ["topic", "premise", "characters", "panels", "punchline"] ∈ _ by
      simp [objectKeywords])
    (show Schema.properties scenarioFields ∈ _ by simp [objectKeywords])
    (show "panels" ∈ _ by simp)
    (show ("panels", Schema.all [.type [.array], .minItems 3, .maxItems 4, .items panelSchema]) ∈ _ by
      simp [scenarioFields])
  have hparts := Schema.accepts_all_iff.mp haccepts
  obtain ⟨values, rfl⟩ := Schema.array_of_accepts (hparts _ (List.mem_cons_self ..))
  refine ⟨values, hv, ?_, ?_, Schema.items_of_accepts (hparts (.items panelSchema) (by simp))⟩
  · exact Schema.accepts_minItems_iff.mp (hparts (.minItems 3) (by simp))
  · exact Schema.accepts_maxItems_iff.mp (hparts (.maxItems 4) (by simp))

/-- The characters of an accepted scenario. -/
theorem characters_of_accepts {data : List (String × Json)} (h : scenarioSchema.accepts (.obj data)) :
    ∃ values, data.lookup "characters" = some (.arr values) ∧ 1 ≤ values.length := by
  obtain ⟨v, hv, haccepts⟩ := Schema.field_of_accepts h
    (show Schema.required ["topic", "premise", "characters", "panels", "punchline"] ∈ _ by
      simp [objectKeywords])
    (show Schema.properties scenarioFields ∈ _ by simp [objectKeywords])
    (show "characters" ∈ _ by simp)
    (show ("characters", Schema.all [.type [.array], .items stringSchema, .minItems 1]) ∈ _ by
      simp [scenarioFields])
  have hparts := Schema.accepts_all_iff.mp haccepts
  obtain ⟨values, rfl⟩ := Schema.array_of_accepts (hparts _ (List.mem_cons_self ..))
  exact ⟨values, hv, Schema.accepts_minItems_iff.mp (hparts (.minItems 1) (by simp))⟩

/-- An accepted scenario is returned, with its three or four panels and a character. -/
theorem validateScenarioOutput_of_accepts {payload : ParsedProviderPayload} {promptVersion : String}
    (h : scenarioSchema.accepts (.obj payload.data)) :
    ∃ o, validateScenarioOutput bestMessage render payload promptVersion = .ok o ∧
      (o.panels.length = 3 ∨ o.panels.length = 4) ∧ o.characters ≠ [] := by
  have hschema : validateSchema bestMessage scenarioSchema (.obj payload.data) .scenarioGenerator =
      .ok () := if_pos h
  obtain ⟨values, hvalues, hlow, hhigh, hall⟩ := panels_of_accepts h
  obtain ⟨panels, hpanels, hlen⟩ := readPanels_of_accepts render hall
  obtain ⟨names, hnames, hone⟩ := characters_of_accepts h
  have htext : ∀ key ∈ ["topic", "premise", "punchline"],
      ∃ s, itemText render payload.data key = .ok s := by
    intro key hkey
    have hfield : key ∈ ["topic", "premise", "characters", "panels", "punchline"] ∧
        (key, stringSchema) ∈ scenarioFields := by
      simp only [List.mem_cons, List.not_mem_nil, or_false] at hkey
      rcases hkey with rfl | rfl | rfl
      · simp [scenarioFields]
      · simp [scenarioFields]
      · simp [scenarioFields]
    obtain ⟨s, -, hs⟩ := itemText_of_object render h hfield.1 hfield.2
    exact ⟨s, hs⟩
  obtain ⟨topic, htopic⟩ := htext "topic" (by simp)
  obtain ⟨premise, hpremise⟩ := htext "premise" (by simp)
  obtain ⟨punchline, hpunchline⟩ := htext "punchline" (by simp)
  let o : ScenarioOutput :=
    { topic := topic
      premise := premise
      characters := names.map (Json.toStr render)
      panels := panels
      punchline := punchline
      promptVersion := promptVersion }
  refine ⟨o, ?_, by show panels.length = 3 ∨ panels.length = 4; omega, ?_⟩
  · rw [validateScenarioOutput, hschema, hvalues]
    have hcount : ¬ (values.length < 3 ∨ values.length > 4) := by omega
    simp only [hcount, if_false, Option.getD_some]
    show (readPanels render values >>= fun panels =>
      iterate ((payload.data.lookup "characters").getD (.arr [])) >>= fun characters =>
      itemText render payload.data "topic" >>= fun topic =>
      itemText render payload.data "premise" >>= fun premise =>
      itemText render payload.data "punchline" >>= fun punchline => _) = _
    rw [hpanels, hnames, htopic, hpremise, hpunchline]
    rfl
  · show names.map (Json.toStr render) ≠ []
    rw [Ne, List.map_eq_nil_iff, ← List.length_eq_zero_iff]
    omega

/-! ### Critic -/

theorem readIssues_of_accepts {values : List Json} (h : ∀ v ∈ values, issueSchema.accepts v) :
    ∃ issues, readIssues render values = .ok issues ∧
      ∀ issue ∈ issues, issue.description.length ≤ criticIssueDescriptionMax := by
  induction values with
  | nil => exact ⟨[], rfl, by simp⟩
  | cons v values ih =>
      obtain ⟨issues, hrest, hshort⟩ := ih fun w hw => h w (List.mem_cons_of_mem _ hw)
      have hv : issueSchema.accepts v := h v (List.mem_cons_self ..)
      obtain ⟨fields, rfl⟩ := Schema.object_of_accepts (Schema.accepts_all_iff.mp hv _
        (List.mem_cons_self ..))
      have hfield : ∀ name s, name ∈ ["dimension", "description"] → (name, s) ∈ issueFields →
          ∃ v, fields.lookup name = some v ∧ s.accepts v := fun name s hname hprop =>
        Schema.field_of_accepts hv (by simp [objectKeywords]) (by simp [objectKeywords]) hname hprop
      obtain ⟨_, hdimension, haccepts⟩ := hfield "dimension" _ (by simp) (List.mem_cons_self ..)
      obtain ⟨value, hvalue, rfl⟩ := Schema.enum_of_accepts (Schema.accepts_all_iff.mp haccepts _
        (List.mem_cons_of_mem _ (List.mem_cons_self ..)))
      obtain ⟨dimension, hof⟩ : ∃ dimension, dimensionOfValue value = .ok dimension := by
        simp only [List.mem_cons, List.not_mem_nil, or_false] at hvalue
        rcases hvalue with rfl | rfl | rfl
        · exact ⟨_, rfl⟩
        · exact ⟨_, rfl⟩
        · exact ⟨_, rfl⟩
      obtain ⟨_, hdescription, haccepts⟩ := hfield "description" _ (by simp)
        (List.mem_cons_of_mem _ (List.mem_cons_self ..))
      have hparts := Schema.accepts_all_iff.mp haccepts
      obtain ⟨description, rfl⟩ := Schema.string_of_accepts (hparts _ (List.mem_cons_self ..))
      have hlength : description.length ≤ criticIssueDescriptionMax :=
        Schema.accepts_maxLength_iff.mp (hparts (.maxLength 2000) (by simp))
      have hread : Json.strOf render fields "description" "" = description := by
        rw [Json.strOf, hdescription]
        rfl
      refine ⟨⟨dimension, description⟩ :: issues, ?_, ?_⟩
      · rw [readIssues, hread, if_neg (by omega), itemText_of_string render hdimension, hrest]
        show (dimensionOfValue value >>= fun dimension => _) = _
        rw [hof]
        rfl
      · intro issue hissue
        rcases List.mem_cons.mp hissue with rfl | hissue
        · exact hlength
        · exact hshort issue hissue

/-- An accepted verdict is returned, with short descriptions. -/
theorem validateCriticOutput_of_accepts {payload : ParsedProviderPayload} {promptVersion : String}
    (h : criticSchema.accepts (.obj payload.data)) :
    ∃ o, validateCriticOutput bestMessage render payload promptVersion = .ok o ∧
      ∀ issue ∈ o.issues, issue.description.length ≤ criticIssueDescriptionMax := by
  have hschema : validateSchema bestMessage criticSchema (.obj payload.data) .critic = .ok () := if_pos h
  have hfield : ∀ name s, name ∈ ["status", "issues", "suggested_changes"] → (name, s) ∈ criticFields →
      ∃ v, payload.data.lookup name = some v ∧ s.accepts v := fun name s hname hprop =>
    Schema.field_of_accepts h (by simp [objectKeywords]) (by simp [objectKeywords]) hname hprop
  obtain ⟨_, hstatus, haccepts⟩ := hfield "status" _ (by simp) (List.mem_cons_self ..)
  obtain ⟨value, hvalue, rfl⟩ := Schema.enum_of_accepts (Schema.accepts_all_iff.mp haccepts _
    (List.mem_cons_of_mem _ (List.mem_cons_self ..)))
  obtain ⟨status, hof⟩ : ∃ status, statusOfValue value = .ok status := by
    simp only [List.mem_cons, List.not_mem_nil, or_false] at hvalue
    rcases hvalue with rfl | rfl
    · exact ⟨_, rfl⟩
    · exact ⟨_, rfl⟩
  obtain ⟨_, hissues, haccepts⟩ := hfield "issues" _ (by simp)
    (List.mem_cons_of_mem _ (List.mem_cons_self ..))
  have hparts := Schema.accepts_all_iff.mp haccepts
  obtain ⟨values, rfl⟩ := Schema.array_of_accepts (hparts _ (List.mem_cons_self ..))
  obtain ⟨issues, hread, hshort⟩ := readIssues_of_accepts render
    (Schema.items_of_accepts (hparts (.items issueSchema) (by simp)))
  let suggestedChanges :=
    ((payload.data.lookup "suggested_changes").getD (.arr [])).items.map (Json.toStr render)
  refine ⟨⟨status, issues, suggestedChanges, promptVersion⟩, ?_, hshort⟩
  rw [validateCriticOutput, hschema, itemText_of_string render hstatus, hissues]
  show (statusOfValue value >>= fun status => readIssues render values >>= fun issues => _) = _
  rw [hof, hread]
  rfl

end Reading

/-! ### What gets through

The three stages together: `only_well_formed_iff` for every text that a provider may answer with.
-/

/-- What a stage returns. -/
inductive StageOutput
  | topic (o : TopicSelectionOutput)
  | scenario (o : ScenarioOutput)
  | critic (o : CriticOutput)

/-- Scores from 0 to 1; three or four panels and a character; short descriptions. -/
def StageOutput.WellFormed : StageOutput → Prop
  | topic o => ∀ s ∈ o.scores, ∀ x ∈ s.all, InUnit x
  | scenario o => (o.panels.length = 3 ∨ o.panels.length = 4) ∧ o.characters ≠ []
  | critic o => ∀ issue ∈ o.issues, issue.description.length ≤ criticIssueDescriptionMax

/-- The schema that an agent's answer has to satisfy. -/
def schemaOf : AgentId → Schema
  | .topicSelector => topicSelectionSchema
  | .scenarioGenerator => scenarioSchema
  | .critic => criticSchema

section Through

variable (loads : String → LoadsResult) (bestMessage : Schema → Json → String)
  (render : Json → String)

/-- The validation of a stage. -/
def validateStage (stage : AgentId) (payload : ParsedProviderPayload) (promptVersion : String) :
    Except OutputException StageOutput :=
  match stage with
  | .topicSelector => (validateTopicOutput bestMessage render payload promptVersion).map .topic
  | .scenarioGenerator => (validateScenarioOutput bestMessage render payload promptVersion).map .scenario
  | .critic => (validateCriticOutput bestMessage render payload promptVersion).map .critic

/-- The text of a provider, parsed and validated. -/
def parseAndValidate (stage : AgentId) (content promptVersion : String) :
    Except OutputException (ParsedProviderPayload × StageOutput) := do
  let payload ← parseProviderContent loads content stage
  let output ← validateStage bestMessage render stage payload promptVersion
  return (payload, output)

/-- The output is well formed and not nested too deeply, or there is a validation error. -/
def OnlyWellFormed (stage : AgentId) (content promptVersion : String) : Prop :=
  Validated (fun result => result.2.WellFormed ∧ (Json.obj result.1.data).nesting ≤ maxJsonDepth)
    (parseAndValidate loads bestMessage render stage content promptVersion)

theorem validateStage_of_rejects {stage : AgentId} (payload : ParsedProviderPayload)
    (promptVersion : String) (h : ¬ (schemaOf stage).accepts (.obj payload.data)) :
    ∃ e, validateStage bestMessage render stage payload promptVersion = .error (.agent e) ∧
      e.kind = .outputValidation := by
  have hschema : ∀ agentId, validateSchema bestMessage (schemaOf stage) (.obj payload.data) agentId =
      .error (.agent ⟨.outputValidation,
        outputValidationMessage agentId (bestMessage (schemaOf stage) (.obj payload.data)),
        some agentId⟩) := fun agentId => if_neg h
  refine ⟨⟨.outputValidation, outputValidationMessage stage (bestMessage (schemaOf stage)
    (.obj payload.data)), some stage⟩, ?_, rfl⟩
  cases stage with
  | topicSelector =>
      rw [schemaOf] at hschema
      rw [validateStage, validateTopicOutput, hschema]
      rfl
  | scenarioGenerator =>
      rw [schemaOf] at hschema
      rw [validateStage, validateScenarioOutput, hschema]
      rfl
  | critic =>
      rw [schemaOf] at hschema
      rw [validateStage, validateCriticOutput, hschema]
      rfl

theorem validateStage_of_accepts {stage : AgentId} (payload : ParsedProviderPayload)
    (promptVersion : String) (h : (schemaOf stage).accepts (.obj payload.data)) :
    ∃ o, validateStage bestMessage render stage payload promptVersion = .ok o ∧
      (o.WellFormed ↔ ¬ (stage = .topicSelector ∧ NanScored payload.data)) := by
  cases stage with
  | topicSelector =>
      obtain ⟨o, hok, hscores⟩ := validateTopicOutput_of_accepts bestMessage render h
      refine ⟨.topic o, ?_, ?_⟩
      · rw [validateStage, hok]
        rfl
      · rw [StageOutput.WellFormed, hscores]
        simp
  | scenarioGenerator =>
      obtain ⟨o, hok, hshape⟩ := validateScenarioOutput_of_accepts bestMessage render h
      refine ⟨.scenario o, ?_, iff_of_true hshape (by simp)⟩
      rw [validateStage, hok]
      rfl
  | critic =>
      obtain ⟨o, hok, hshort⟩ := validateCriticOutput_of_accepts bestMessage render h
      refine ⟨.critic o, ?_, iff_of_true hshort (by simp)⟩
      rw [validateStage, hok]
      rfl

/-- The text is neither too long nor blank. -/
def Considered (content : String) : Prop :=
  content.length ≤ responseContentMax ∧ PyStr.strip content ≠ ""

/-- `json.loads` raises something that is not foreseen. -/
def LoadsFails (content : String) : Prop := ∃ name, loads (extractJsonPayload content) = .otherError name

/-- The text is that of an object which is nested so deeply at most. -/
def ParsesTo (content : String) (data : List (String × Json)) : Prop :=
  loads (extractJsonPayload content) = .value (.obj data) ∧ (Json.obj data).nesting ≤ maxJsonDepth

/-- What `parse_provider_content` does with a text. -/
theorem parseProviderContent_cases (content : String) (agentId : AgentId) :
    (Considered content ∧ LoadsFails loads content ∧
        ∃ name, parseProviderContent loads content agentId = .error (.py name)) ∨
      (Considered content ∧ ∃ data, ParsesTo loads content data ∧
        parseProviderContent loads content agentId = .ok ⟨data, content.length⟩) ∨
      (¬ (Considered content ∧ (LoadsFails loads content ∨ ∃ data, ParsesTo loads content data)) ∧
        ∃ e, parseProviderContent loads content agentId = .error (.agent e) ∧
          e.kind = .outputValidation) := by
  rw [parseProviderContent]
  by_cases hlong : content.length > responseContentMax
  · rw [if_pos hlong]
    exact Or.inr (Or.inr ⟨fun h => absurd h.1.1 (by omega), _, rfl, rfl⟩)
  rw [if_neg hlong]
  by_cases hblank : PyStr.strip content = ""
  · rw [if_pos hblank]
    exact Or.inr (Or.inr ⟨fun h => h.1.2 hblank, _, rfl, rfl⟩)
  rw [if_neg hblank]
  have hconsidered : Considered content := ⟨by omega, hblank⟩
  -- a text that is neither a failure nor an object that is flat enough
  have hrest : ∀ {r : LoadsResult}, loads (extractJsonPayload content) = r →
      (∀ name, r ≠ .otherError name) → (∀ data, r = .value (.obj data) →
        ¬ (Json.obj data).nesting ≤ maxJsonDepth) →
      ¬ (Considered content ∧ (LoadsFails loads content ∨ ∃ data, ParsesTo loads content data)) := by
    rintro r hr hother hdeep ⟨-, ⟨name, hfails⟩ | ⟨data, hdata, hflat⟩⟩
    · exact hother name (hr ▸ hfails)
    · exact hdeep data (hr ▸ hdata) hflat
  cases hloads : loads (extractJsonPayload content) with
  | decodeError msg =>
      exact Or.inr (Or.inr ⟨hrest hloads (by simp) (by simp), _, rfl, rfl⟩)
  | otherError name => exact Or.inl ⟨hconsidered, ⟨name, hloads⟩, name, rfl⟩
  | value v =>
      cases v with
      | obj data =>
          by_cases hflat : (Json.obj data).nesting ≤ maxJsonDepth
          · refine Or.inr (Or.inl ⟨hconsidered, data, ⟨hloads, hflat⟩, ?_⟩)
            show (checkMaxJsonDepth (.obj data) >>= fun _ => _) = _
            rw [checkMaxJsonDepth, if_pos hflat]
            rfl
          · refine Or.inr (Or.inr ⟨hrest hloads (by simp) ?_, ⟨.outputValidation,
              "JSON depth exceeds 32", none⟩, ?_, rfl⟩)
            · rintro data' heq
              rw [← Json.obj.inj (LoadsResult.value.inj heq)]
              exact hflat
            · show (checkMaxJsonDepth (.obj data) >>= fun _ => _) = _
              rw [checkMaxJsonDepth, if_neg hflat]
              rfl
      | _ => exact Or.inr (Or.inr ⟨hrest hloads (by simp) (by simp), _, rfl, rfl⟩)

/-- A topic with a `NaN` among its scores that passes the schema. -/
def NanAccepted (stage : AgentId) (content : String) : Prop :=
  stage = .topicSelector ∧ ∃ data, ParsesTo loads content data ∧
    topicSelectionSchema.accepts (.obj data) ∧ NanScored data

/-- **Only well formed outputs get through**, except for a topic with a `NaN` among its scores, and
as long as `json.loads` raises nothing but a `JSONDecodeError`. -/
theorem only_well_formed_iff (stage : AgentId) (content promptVersion : String) :
    OnlyWellFormed loads bestMessage render stage content promptVersion ↔
      ¬ (Considered content ∧ (LoadsFails loads content ∨ NanAccepted loads stage content)) := by
  rw [OnlyWellFormed, parseAndValidate]
  rcases parseProviderContent_cases loads content stage with ⟨hconsidered, hfails, name, hparse⟩ |
    ⟨hconsidered, data, hdata, hparse⟩ | ⟨hnot, e, hparse, hkind⟩
  · rw [hparse]
    exact iff_of_false id fun h => h ⟨hconsidered, Or.inl hfails⟩
  · have hunique : ∀ {data'}, ParsesTo loads content data' → data' = data := by
      intro data' hdata'
      have heq := hdata'.1.symm.trans hdata.1
      exact Json.obj.inj (LoadsResult.value.inj heq)
    have hnofail : ¬ LoadsFails loads content := by
      rintro ⟨name, hfails⟩
      rw [hdata.1] at hfails
      cases hfails
    rw [hparse]
    show Validated _ (validateStage bestMessage render stage ⟨data, content.length⟩ promptVersion >>=
      fun output => _) ↔ _
    by_cases haccepts : (schemaOf stage).accepts (.obj data)
    · obtain ⟨o, hok, hwell⟩ := validateStage_of_accepts bestMessage render
        ⟨data, content.length⟩ promptVersion haccepts
      rw [hok]
      show (o.WellFormed ∧ (Json.obj data).nesting ≤ maxJsonDepth) ↔ _
      rw [and_iff_left hdata.2, hwell]
      refine not_congr ⟨?_, ?_⟩
      · rintro ⟨rfl, hnan⟩
        exact ⟨hconsidered, Or.inr ⟨rfl, data, hdata, haccepts, hnan⟩⟩
      · rintro ⟨-, hfails | ⟨rfl, data', hdata', -, hnan⟩⟩
        · exact absurd hfails hnofail
        · exact ⟨rfl, hunique hdata' ▸ hnan⟩
    · obtain ⟨e, herror, hkind⟩ := validateStage_of_rejects bestMessage render
        ⟨data, content.length⟩ promptVersion haccepts
      rw [herror]
      refine iff_of_true hkind ?_
      rintro ⟨-, hfails | ⟨rfl, data', hdata', haccepts', -⟩⟩
      · exact hnofail hfails
      · rw [hunique hdata'] at haccepts'
        exact haccepts haccepts'
  · rw [hparse]
    refine iff_of_true hkind ?_
    rintro ⟨hconsidered, hfails | ⟨-, data, hdata, -⟩⟩
    · exact hnot ⟨hconsidered, Or.inl hfails⟩
    · exact hnot ⟨hconsidered, Or.inr ⟨data, hdata⟩⟩

end Through

/-- A topic whose first score is `NaN`, as a text. -/
def nanTopicText : String := "\x7b" ++
  ("\"outcome\": \"topic_selected\", " ++ "\"selected_topic\": \"t\", " ++
    "\"why_interesting\": \"w\", " ++ "\"cartoon_angle\": \"a\", " ++ "\"scores\": \x7b" ++
    "\"technical_relevance\": NaN, " ++ "\"developer_relevance\": 1, " ++
    "\"discussion_interest\": 1, " ++ "\"humour_potential\": 1, " ++
    "\"irony_contradiction\": 1, " ++ "\"visual_scenario_potential\": 1, " ++
    "\"background_knowledge_required\": 1" ++ "\x7d, \"alternatives\": []") ++ "\x7d"

/-- The object of that text. -/
def nanTopic : List (String × Json) :=
  [("outcome", .str "topic_selected"), ("selected_topic", .str "t"), ("why_interesting", .str "w"),
   ("cartoon_angle", .str "a"),
   ("scores", .obj
     [("technical_relevance", .float .nan), ("developer_relevance", .int 1),
      ("discussion_interest", .int 1), ("humour_potential", .int 1), ("irony_contradiction", .int 1),
      ("visual_scenario_potential", .int 1), ("background_knowledge_required", .int 1)]),
   ("alternatives", .arr [])]

/-- `json.loads` on that text. -/
def nanTopicLoads (s : String) : LoadsResult :=
  if s = nanTopicText then .value (.obj nanTopic) else .decodeError "Expecting value"

/-- A `NaN` passes as a score. -/
theorem nan_score_accepted :
    ¬ OnlyWellFormed nanTopicLoads (fun _ _ => "") (fun _ => "") .topicSelector nanTopicText "v1" := by
  have hpayload : extractJsonPayload nanTopicText = nanTopicText := extractJsonPayload_braces _
  have hlength : ¬ nanTopicText.length > responseContentMax := by
    simp only [nanTopicText, String.length_append]
    decide +kernel
  have hblank : PyStr.strip nanTopicText ≠ "" := by
    rw [nanTopicText, strip_braces]
    simp
  have hparse : parseProviderContent nanTopicLoads nanTopicText .topicSelector =
      .ok ⟨nanTopic, nanTopicText.length⟩ := by
    rw [parseProviderContent, if_neg hlength, if_neg hblank, hpayload,
      nanTopicLoads, if_pos rfl]
    rfl
  have haccepts : topicSelectionSchema.accepts (.obj nanTopic) := by decide +kernel
  obtain ⟨o, hok, hwell⟩ := validateStage_of_accepts (fun _ _ => "") (fun _ => "")
    ⟨nanTopic, nanTopicText.length⟩ "v1" (show (schemaOf .topicSelector).accepts _ from haccepts)
  rw [OnlyWellFormed, parseAndValidate, hparse]
  show ¬ Validated _ (validateStage _ _ .topicSelector ⟨nanTopic, nanTopicText.length⟩ "v1" >>=
    fun output => _)
  rw [hok]
  intro h
  exact hwell.mp h.1 ⟨rfl, rfl, _, rfl, "technical_relevance", by decide, rfl⟩

end Agents

end CartoonDemo
