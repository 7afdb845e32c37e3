import CartoonDemo.Api.Output
import CartoonDemo.Cli.Client
import CartoonDemo.Worker.HandOffs

/-!
# CartoonDemo.Cli.ApprovalReview

What a human **sees before an approval**: the client takes the output package apart
(`cli/approval_review.py`) and prints the topic, the scenario and the verdict. The texts come from
the agents through the handlers, the database, the read model, the API and the client, and are shown
as they were, without their outer white space (`approval_review_shown`).

The issues of the critic are not among them. The handler stores them and the client looks for them
in the critic's section, but the read model leaves them in the section's `content`.
-/

namespace CartoonDemo

open Agents ApiTypes ReadModelAssembler

/-- The fields of an object; of anything else there are none. -/
def Json.fields : Json → List (String × Json)
  | .obj fields => fields
  | _ => []

namespace Client

/-- `_parse_output_response`. -/
def parseOutputResponse (render : Json → String) (data : Json) :
    Option (WorkflowOutputResponse (List (String × Json)) Json) := do
  let package ← data.getOr "package" (.obj [])
  let workflowId ← data.subscript "workflow_id"
  let state ← parseState render (← data.subscript "state")
  let isComplete ← data.getOr "is_complete" (.bool false)
  let failureReason ← data.getOr "failure_reason" .null
  return { workflowId := workflowId.toStr render, state, package := package.fields,
           isComplete := isComplete.truthy, failureReason }

end Client

/-- A panel as it is shown to the reviewer. -/
structure PanelReview where
  index : Nat
  scene : Option String
  dialogue : Option String
  deriving DecidableEq, Repr

/-- What the reviewer is shown. -/
structure ApprovalReview where
  workflowId : String
  topicSelected : Option String
  topicRationale : Option String
  scenarioArtifactId : Option String
  scenarioLogicalVersion : Option Int
  premise : Option String
  characters : List String
  panels : List PanelReview
  punchline : Option String
  criticVerdict : Option String
  criticIssues : List (String × String)
  deriving DecidableEq, Repr

/-- A text as it is shown; a blank one is not. -/
@[irreducible] def shownText (s : String) : Option String :=
  let stripped := PyStr.strip s
  if stripped = "" then none else some stripped

namespace ApprovalReview

section Build

variable (render : Json → String)

/-- `_section`, for the three keys of a review. -/
def sectionOf (package : List (String × Json)) (key : String) : List (String × Json) :=
  (Json.get package key).fields

/-- `_optional_str`. -/
def optionalStr : Json → Option String
  | .null => none
  | .str s => shownText s
  | value => some (render value)

/-- `_optional_int`. -/
def optionalInt : Json → Option Int
  | .int n => some n
  | _ => none

/-- `_first_str`. -/
def firstStr (fields : List (String × Json)) (keys : List String) : Option String :=
  keys.findSome? fun key => optionalStr render (Json.get fields key)

/-- `_characters`. -/
def characterNames (value : Json) : List String :=
  value.items.filterMap fun item =>
    match item with
    | .str s => shownText s
    | .obj fields => optionalStr render (Json.get fields "name")
    | _ => none

/-- `_panels`; an item that is not an object is left out but counted. -/
def panelReviews (value : Json) : List PanelReview :=
  (value.items.zipIdx 1).filterMap fun (item, index) =>
    match item with
    | .obj fields => some
        { index, scene := firstStr render fields ["scene", "caption"]
          dialogue := optionalStr render (Json.get fields "dialogue") }
    | _ => none

/-- `_issue_entries`. -/
def issueEntries (value : Json) : List (String × String) :=
  value.items.filterMap fun item =>
    match item with
    | .obj fields =>
        match optionalStr render (Json.get fields "dimension"),
          optionalStr render (Json.get fields "description") with
        | some dimension, some description => some (dimension, description)
        | _, _ => none
    | _ => none

/-- `_score_dimensions`. -/
def scoreDimensions : Json → List (String × String)
  | .obj fields => (insertBy Prod.fst fields).filterMap fun (key, value) =>
      (optionalStr render value).map fun rendered => (key, rendered)
  | _ => []

/-- `_critic_issues`. -/
def criticIssuesOf (dimensions issues : Json) : List (String × String) :=
  let rendered := issueEntries render issues
  if rendered.isEmpty then scoreDimensions render dimensions else rendered

/-- `build_approval_review`. -/
def build (response : WorkflowOutputResponse (List (String × Json)) Json) : ApprovalReview :=
  let topic := sectionOf response.package "topic"
  let scenario := sectionOf response.package "scenario"
  let critic := sectionOf response.package "critic"
  { workflowId := response.workflowId
    topicSelected := optionalStr render (Json.get topic "selected_topic")
    topicRationale := firstStr render topic ["rationale", "why_interesting"]
    scenarioArtifactId := optionalStr render (Json.get scenario "artifact_id")
    scenarioLogicalVersion := optionalInt (Json.get scenario "logical_version")
    premise := optionalStr render (Json.get scenario "premise")
    characters := characterNames render (Json.get scenario "characters")
    panels := panelReviews render (Json.get scenario "panels")
    punchline := optionalStr render (Json.get scenario "punchline")
    criticVerdict := firstStr render critic ["verdict", "status"]
    criticIssues := criticIssuesOf render (Json.get critic "dimensions") (Json.get critic "issues") }

end Build

/-! ### The text

What is printed, line by line.
-/

/-- `_field_line`. -/
def fieldLine (label : String) (value : Option String) (indent : Nat := 2) : String :=
  let pad := String.ofList (List.replicate indent ' ')
  match value with
  | none => pad ++ label ++ ": (not available yet)"
  | some text => pad ++ label ++ ": " ++ text

/-- The lines of a panel. -/
def panelLines (panel : PanelReview) : List String :=
  ["  panel " ++ toString panel.index ++ ":", fieldLine "scene" panel.scene 4,
    fieldLine "dialogue" panel.dialogue 4]

/-- The lines below the verdict. -/
def issueLines (review : ApprovalReview) : List String :=
  if review.criticIssues ≠ [] then
    "  issues:" :: review.criticIssues.map fun (dimension, description) =>
      "    " ++ dimension ++ ": " ++ description
  else if review.criticVerdict = some "REVISE" then ["  issues: (not reported)"]
  else []

/-- The lines of `format_approval_review`. -/
def lines (review : ApprovalReview) : List String :=
  ["workflow_id: " ++ review.workflowId] ++
    (review.scenarioArtifactId.toList.map ("scenario_artifact_id: " ++ ·)) ++
    (review.scenarioLogicalVersion.toList.map fun n => "scenario_logical_version: " ++ toString n) ++
    ["", "topic:", fieldLine "selected_topic" review.topicSelected,
      fieldLine "rationale" review.topicRationale, "", "scenario:",
      fieldLine "premise" review.premise,
      if review.characters = [] then "  characters: (not available yet)"
      else "  characters: " ++ ", ".intercalate review.characters] ++
    review.panels.flatMap panelLines ++
    (if review.panels = [] then ["  panels: (not available yet)"] else []) ++
    [fieldLine "punchline" review.punchline, "", "critic:",
      fieldLine "verdict" review.criticVerdict] ++
    issueLines review

/-- `format_approval_review`. -/
def format (review : ApprovalReview) : String := "\n".intercalate (lines review) ++ "\n"

end ApprovalReview

/-- `_serialize_critic_output`. -/
def serializeCriticOutput (output : CriticOutput) : List (String × Json) :=
  [("status", .str output.status.value), ("dimensions", .obj []),
   ("issues", .arr (output.issues.map fun issue =>
     .obj [("dimension", .str issue.dimension.value), ("description", .str issue.description)])),
   ("prompt_version", .str output.promptVersion)]

/-! ### What the stages have stored

The artifacts as the handlers write them, and the review that should be shown of them.
-/

/-- The active artifacts of a workflow and the outputs in them. -/
structure StoredStages where
  topic : Option (ArtifactRecord × TopicSelectionOutput) := none
  scenario : Option (ArtifactRecord × ScenarioOutput) := none
  topicContent : List (String × Json) := []
  critic : Option (ArtifactRecord × CriticOutput) := none

/-- The active artifact of a type and its content. -/
def ReadModelAssembler.OutputReads.Stored (reads : OutputReads) (t : ArtifactType)
    (o : Option (ArtifactRecord × List (String × Json))) : Prop :=
  reads.active t = o.map Prod.fst ∧
    ∀ p, o = some p → reads.content p.1.artifactId = .ok (.obj (enriched p.2))

/-- The repositories hold what the handlers have stored, and some content for the stories. -/
structure StoredStages.HeldBy (stages : StoredStages) (reads : OutputReads) : Prop where
  source : ∀ r, reads.active .collectedStories = some r →
    ∃ content, reads.content r.artifactId = .ok content
  topic : reads.Stored .topicSelection (stages.topic.map fun p => (p.1, serializeTopicOutput p.2))
  scenario : reads.Stored .scenario (stages.scenario.map fun p =>
    (p.1, serializeScenarioOutput p.2 p.1.logicalVersion stages.topicContent))
  critic : reads.Stored .criticReview (stages.critic.map fun p => (p.1, serializeCriticOutput p.2))

/-- The panels of a scenario as they are shown, counted from one. -/
def shownPanels (panels : List ScenarioPanel) : List PanelReview :=
  (panels.zipIdx 1).map fun p =>
    { index := p.2, scene := shownText p.1.scene, dialogue := shownText p.1.dialogue }

/-- The review that the outputs call for. -/
def StoredStages.review (stages : StoredStages) (w : WorkflowRecord) : ApprovalReview where
  workflowId := w.workflowId
  topicSelected := stages.topic.bind fun p => p.2.selectedTopic.bind shownText
  topicRationale := stages.topic.bind fun p => p.2.whyInteresting.bind shownText
  scenarioArtifactId := stages.scenario.bind fun p => shownText p.1.artifactId
  scenarioLogicalVersion := stages.scenario.map fun p => p.1.logicalVersion
  premise := stages.scenario.bind fun p => shownText p.2.premise
  characters := (stages.scenario.toList.flatMap fun p => p.2.characters).filterMap shownText
  panels := shownPanels (stages.scenario.toList.flatMap fun p => p.2.panels)
  punchline := stages.scenario.bind fun p => shownText p.2.punchline
  criticVerdict := stages.critic.map fun p => p.2.status.value
  criticIssues := []

/-! ### The package -/

/-- The entry of a section that may be missing. -/
def optionalEntry {α : Type} (key : String) (o : Option α) : List (String × α) :=
  o.toList.map fun value => (key, value)

section Package

variable {α : Type} (key : String) (o : Option α) (rest : List (String × α))

/-- An entry is found under its own key. -/
theorem lookup_optionalEntry_self :
    (optionalEntry key o ++ rest).lookup key = o.or (rest.lookup key) := by
  cases o with
  | none => rfl
  | some value => simp [optionalEntry]

/-- It is passed over under another one. -/
theorem lookup_optionalEntry_ne {key' : String} (h : key' ≠ key) :
    (optionalEntry key o ++ rest).lookup key' = rest.lookup key' := by
  cases o with
  | none => rfl
  | some value =>
    show List.lookup key' ((key, value) :: rest) = _
    rw [List.lookup_cons, beq_false_of_ne h]

theorem toJsonFields_optionalEntry (o : Option PyObject) :
    PyObject.toJsonFields (optionalEntry key o) = optionalEntry key (o.map PyObject.toJsonValue) := by
  cases o with
  | none => rfl
  | some value => rfl

end Package

/-- A stored artifact becomes the entry of its section. -/
theorem entry_of_stored {reads : OutputReads} {t : ArtifactType}
    {o : Option (ArtifactRecord × List (String × Json))} (h : reads.Stored t o) (key : String)
    (build : ArtifactRecord → Json → Option PyObject) :
    reads.entry key t build =
      .ok (optionalEntry key (o.bind fun p => build p.1 (.obj (enriched p.2)))) := by
  obtain ⟨hactive, hcontent⟩ := h
  rw [OutputReads.entry, hactive]
  cases o with
  | none => rfl
  | some p =>
    show (reads.content p.1.artifactId >>= fun content => _) = _
    rw [hcontent p rfl]
    rfl

/-- The stories have a section whatever they hold. -/
theorem entry_source (iso : Time → String) {reads : OutputReads}
    (h : ∀ r, reads.active .collectedStories = some r →
      ∃ content, reads.content r.artifactId = .ok content) :
    ∃ o, reads.entry "source" .collectedStories (sourceSection iso) =
      .ok (optionalEntry "source" o) := by
  rw [OutputReads.entry]
  cases hr : reads.active .collectedStories with
  | none => exact ⟨none, rfl⟩
  | some r =>
    obtain ⟨content, hcontent⟩ := h r hr
    show ∃ o, (reads.content r.artifactId >>= fun content => _) = _
    rw [hcontent]
    exact ⟨_, rfl⟩

/-! ### The sections, as the client finds them

Each section through the encoder, over the wire and through the reader of the client.
-/

/-- The fields of a section in the response. -/
def jsonFields (o : Option PyObject) : List (String × Json) :=
  ((o.map PyObject.toJsonValue).getD .null).fields

section Sections

open ApprovalReview

variable {render : Json → String}

@[simp] theorem optionalStr_text (s : String) : optionalStr render (.str s) = shownText s := rfl

@[simp] theorem optionalStr_ofOption (o : Option String) :
    optionalStr render (.ofOption .str o) = o.bind shownText := by
  cases o with
  | none => rfl
  | some s => rfl

theorem characterNames_serialized (names : List String) :
    characterNames render (.arr (names.map serializeCharacter)) = names.filterMap shownText := by
  show (names.map serializeCharacter).filterMap _ = _
  rw [List.filterMap_map]
  rfl

/-- The second key counts if the first one is not there. -/
theorem firstStr_second {fields : List (String × Json)} {key key' : String}
    (h : fields.lookup key = none) :
    firstStr render fields [key, key'] = optionalStr render (Json.get fields key') := by
  have hnone : optionalStr render (Json.get fields key) = none := by rw [Json.get, h]; rfl
  rw [firstStr, List.findSome?_cons, hnone, List.findSome?_singleton]

/-- The first key counts if the second one is not there. -/
theorem firstStr_first {fields : List (String × Json)} {key key' : String}
    (h : fields.lookup key' = none) :
    firstStr render fields [key, key'] = optionalStr render (Json.get fields key) := by
  have hnone : optionalStr render (Json.get fields key') = none := by rw [Json.get, h]; rfl
  rw [firstStr, List.findSome?_cons, List.findSome?_singleton, hnone]
  cases optionalStr render (Json.get fields key) with
  | none => rfl
  | some text => rfl

theorem panelReviews_serialized (panels : List ScenarioPanel) :
    panelReviews render (.arr (panels.map serializePanel)) = shownPanels panels := by
  show ((panels.map serializePanel).zipIdx 1).filterMap _ = _
  rw [List.zipIdx_map, List.filterMap_map, shownPanels, ← List.filterMap_eq_map]
  refine List.filterMap_congr fun p _ => ?_
  let fields := [("caption", Json.str p.1.scene), ("dialogue", Json.str p.1.dialogue)]
  have hscene : firstStr render fields ["scene", "caption"] = shownText p.1.scene :=
    firstStr_second rfl
  show some (PanelReview.mk p.2 (firstStr render fields ["scene", "caption"]) _) = _
  rw [hscene]
  rfl

variable (r : ArtifactRecord)

theorem topicSection_shown (output : TopicSelectionOutput) :
    let fields := jsonFields (topicSection r (.obj (enriched (serializeTopicOutput output))))
    optionalStr render (Json.get fields "selected_topic") = output.selectedTopic.bind shownText ∧
      firstStr render fields ["rationale", "why_interesting"] =
        output.whyInteresting.bind shownText := by
  intro fields
  have hselected : Json.get fields "selected_topic" = .ofOption .str output.selectedTopic :=
    PyObject.toJsonValue_ofJson _
  have hrationale : Json.get fields "rationale" = .ofOption .str output.whyInteresting :=
    PyObject.toJsonValue_ofJson _
  refine ⟨by rw [hselected, optionalStr_ofOption], ?_⟩
  rw [firstStr_first rfl, hrationale, optionalStr_ofOption]

theorem scenarioSection_shown (render : Json → String) (output : ScenarioOutput) (n : ℤ)
    (topicContent : List (String × Json)) :
    let fields := jsonFields
      (scenarioSection r (.obj (enriched (serializeScenarioOutput output n topicContent))))
    optionalStr render (Json.get fields "artifact_id") = shownText r.artifactId ∧
      optionalInt (Json.get fields "logical_version") = some r.logicalVersion ∧
      optionalStr render (Json.get fields "premise") = shownText output.premise ∧
      characterNames render (Json.get fields "characters") = output.characters.filterMap shownText ∧
      panelReviews render (Json.get fields "panels") = shownPanels output.panels ∧
      optionalStr render (Json.get fields "punchline") = shownText output.punchline := by
  intro fields
  have hpremise : Json.get fields "premise" = .str output.premise := PyObject.toJsonValue_ofJson _
  have hcharacters : Json.get fields "characters" = .arr (output.characters.map serializeCharacter) :=
    PyObject.toJsonValue_ofJson _
  have hpanels : Json.get fields "panels" = .arr (output.panels.map serializePanel) :=
    PyObject.toJsonValue_ofJson _
  have hpunchline : Json.get fields "punchline" = .str output.punchline :=
    (PyObject.toJsonValue_ofJson _).trans (Json.orElse_empty _)
  refine ⟨rfl, rfl, ?_, ?_, ?_, ?_⟩
  · rw [hpremise, optionalStr_text]
  · rw [hcharacters, characterNames_serialized]
  · rw [hpanels, panelReviews_serialized]
  · rw [hpunchline, optionalStr_text]

theorem criticSection_shown (output : CriticOutput) :
    let fields := jsonFields (criticSection r (.obj (enriched (serializeCriticOutput output))))
    firstStr render fields ["verdict", "status"] = some output.status.value ∧
      criticIssuesOf render (Json.get fields "dimensions") (Json.get fields "issues") = [] := by
  intro fields
  have hverdict : Json.get fields "verdict" = .str output.status.value := by
    show (PyObject.ofJson (Json.orElse .null (.str output.status.value))).toJsonValue = _
    rw [PyObject.toJsonValue_ofJson]
    rfl
  refine ⟨?_, rfl⟩
  rw [firstStr_first rfl, hverdict, optionalStr_text, shownText]
  cases output.status <;> decide

end Sections

/-- A section of the package, in the response. -/
theorem sectionOf_package (source topic scenario critic : Option PyObject) (execution : PyObject) :
    let package := PyObject.toJsonFields (optionalEntry "source" source ++
      optionalEntry "topic" topic ++ optionalEntry "scenario" scenario ++
      optionalEntry "critic" critic ++ [("execution", execution)])
    ApprovalReview.sectionOf package "topic" = jsonFields topic ∧
      ApprovalReview.sectionOf package "scenario" = jsonFields scenario ∧
      ApprovalReview.sectionOf package "critic" = jsonFields critic := by
  intro package
  have hpackage : package = optionalEntry "source" (source.map PyObject.toJsonValue) ++
      (optionalEntry "topic" (topic.map PyObject.toJsonValue) ++
        (optionalEntry "scenario" (scenario.map PyObject.toJsonValue) ++
          (optionalEntry "critic" (critic.map PyObject.toJsonValue) ++
            (optionalEntry "execution" (some execution.toJsonValue) ++ [])))) := by
    simp only [package, PyObject.toJsonFields_append, toJsonFields_optionalEntry,
      List.append_assoc]
    rfl
  refine ⟨?_, ?_, ?_⟩
  · rw [hpackage, ApprovalReview.sectionOf, Json.get, lookup_optionalEntry_ne _ _ _ (by decide),
      lookup_optionalEntry_self, lookup_optionalEntry_ne _ _ _ (by decide),
      lookup_optionalEntry_ne _ _ _ (by decide), lookup_optionalEntry_ne _ _ _ (by decide),
      List.lookup_nil, Option.or_none, jsonFields]
  · rw [hpackage, ApprovalReview.sectionOf, Json.get, lookup_optionalEntry_ne _ _ _ (by decide),
      lookup_optionalEntry_ne _ _ _ (by decide), lookup_optionalEntry_self,
      lookup_optionalEntry_ne _ _ _ (by decide), lookup_optionalEntry_ne _ _ _ (by decide),
      List.lookup_nil, Option.or_none, jsonFields]
  · rw [hpackage, ApprovalReview.sectionOf, Json.get, lookup_optionalEntry_ne _ _ _ (by decide),
      lookup_optionalEntry_ne _ _ _ (by decide), lookup_optionalEntry_ne _ _ _ (by decide),
      lookup_optionalEntry_self, lookup_optionalEntry_ne _ _ _ (by decide), List.lookup_nil,
      Option.or_none, jsonFields]

/-- The response reaches the client with the package as it was. -/
theorem parseOutputResponse_toObject (render : Json → String)
    (r : WorkflowOutputResponse (List (String × PyObject)) (Option String)) :
    ∃ response, Client.parseOutputResponse render (dataclassToJsonDict r.toObject) = some response ∧
      response.workflowId = r.workflowId ∧
      response.package = PyObject.toJsonFields r.package := by
  have hstate : Client.parseState render (.str r.state.value) = some r.state :=
    Client.parseState_value render r.state
  show ∃ response, (Client.parseState render (.str r.state.value)).bind _ = some response ∧ _
  rw [hstate]
  exact ⟨_, rfl, rfl, rfl⟩

section Shown

variable (stages : StoredStages)

/-- The topic's section of the package. -/
def StoredStages.topicEntry : Option PyObject :=
  stages.topic.bind fun p => topicSection p.1 (.obj (enriched (serializeTopicOutput p.2)))

/-- The scenario's section. -/
def StoredStages.scenarioEntry : Option PyObject :=
  stages.scenario.bind fun p => scenarioSection p.1 (.obj (enriched
    (serializeScenarioOutput p.2 p.1.logicalVersion stages.topicContent)))

/-- The critic's section. -/
def StoredStages.criticEntry : Option PyObject :=
  stages.critic.bind fun p => criticSection p.1 (.obj (enriched (serializeCriticOutput p.2)))

variable {stages}

/-- The package has the sections of what is stored. -/
theorem assembleOutput_stored (iso : Time → String) {reads : OutputReads} (w : WorkflowRecord)
    (h : stages.HeldBy reads) :
    ∃ output source execution, assembleOutput iso reads w = .ok output ∧
      output.workflowId = w.workflowId ∧
      output.package = optionalEntry "source" source ++ optionalEntry "topic" stages.topicEntry ++
        optionalEntry "scenario" stages.scenarioEntry ++ optionalEntry "critic" stages.criticEntry ++
        [("execution", execution)] := by
  obtain ⟨source, hsource⟩ := entry_source iso h.source
  have htopic := entry_of_stored h.topic "topic" topicSection
  have hscenario := entry_of_stored h.scenario "scenario" scenarioSection
  have hcritic := entry_of_stored h.critic "critic" criticSection
  rw [Option.bind_map] at htopic hscenario hcritic
  rw [assembleOutput, hsource, htopic, hscenario, hcritic]
  exact ⟨_, source, executionSection iso reads w, rfl, rfl, rfl⟩

/-- The review is made of the stored outputs. -/
theorem build_stored (render : Json → String) {w : WorkflowRecord}
    {response : WorkflowOutputResponse (List (String × Json)) Json}
    (hid : response.workflowId = w.workflowId)
    (htopic : ApprovalReview.sectionOf response.package "topic" = jsonFields stages.topicEntry)
    (hscenario :
      ApprovalReview.sectionOf response.package "scenario" = jsonFields stages.scenarioEntry)
    (hcritic : ApprovalReview.sectionOf response.package "critic" = jsonFields stages.criticEntry) :
    ApprovalReview.build render response = stages.review w := by
  rw [ApprovalReview.build, hid, htopic, hscenario, hcritic]
  obtain ⟨topic, scenario, topicContent, critic⟩ := stages
  congr 1
  · cases topic with
    | none => rfl
    | some p => exact (topicSection_shown p.1 p.2).1
  · cases topic with
    | none => rfl
    | some p => exact (topicSection_shown p.1 p.2).2
  · cases scenario with
    | none => rfl
    | some p => exact (scenarioSection_shown p.1 render p.2 _ _).1
  · cases scenario with
    | none => rfl
    | some p => exact (scenarioSection_shown p.1 render p.2 _ _).2.1
  · cases scenario with
    | none => rfl
    | some p => exact (scenarioSection_shown p.1 render p.2 _ _).2.2.1
  · cases scenario with
    | none => rfl
    | some p =>
      refine (scenarioSection_shown p.1 render p.2 _ _).2.2.2.1.trans ?_
      exact congrArg (List.filterMap shownText) (List.append_nil _).symm
  · cases scenario with
    | none => rfl
    | some p =>
      refine (scenarioSection_shown p.1 render p.2 _ _).2.2.2.2.1.trans ?_
      exact congrArg shownPanels (List.append_nil _).symm
  · cases scenario with
    | none => rfl
    | some p => exact (scenarioSection_shown p.1 render p.2 _ _).2.2.2.2.2
  · cases critic with
    | none => rfl
    | some p => exact (criticSection_shown p.1 p.2).1
  · cases critic with
    | none => rfl
    | some p => exact (criticSection_shown p.1 p.2).2

end Shown

/-- **What is shown before an approval**: the stored texts without their outer white space, the
version of the scenario on the table and the verdict. The issues of the critic never are. -/
theorem approval_review_shown (iso : Time → String) (render : Json → String)
    (reads : OutputReads) (w : WorkflowRecord) (stages : StoredStages) (h : stages.HeldBy reads) :
    ∃ output response,
      assembleOutput iso reads w = .ok output ∧
      Client.parseOutputResponse render (dataclassToJsonDict (mapWorkflowOutput output).toObject) =
        some response ∧
      ApprovalReview.build render response = stages.review w ∧
      ApprovalReview.issueLines (ApprovalReview.build render response) =
        if stages.critic.any (fun p => p.2.status = .revise) then ["  issues: (not reported)"]
        else [] := by
  obtain ⟨output, source, execution, hout, hid, hpackage⟩ := assembleOutput_stored iso w h
  obtain ⟨response, hresponse, hrid, hrpackage⟩ :=
    parseOutputResponse_toObject render (mapWorkflowOutput output)
  obtain ⟨htopic, hscenario, hcritic⟩ :=
    sectionOf_package source stages.topicEntry stages.scenarioEntry stages.criticEntry execution
  rw [← hpackage] at htopic hscenario hcritic
  have hbuild : ApprovalReview.build render response = stages.review w :=
    build_stored render (hrid.trans hid) (by rw [hrpackage]; exact htopic)
      (by rw [hrpackage]; exact hscenario) (by rw [hrpackage]; exact hcritic)
  refine ⟨output, response, hout, hresponse, hbuild, ?_⟩
  rw [hbuild]
  show (if stages.critic.map _ = some "REVISE" then _ else []) = _
  cases hcritic : stages.critic with
  | none => rfl
  | some p =>
    show (if some p.2.status.value = some "REVISE" then _ else []) =
      if decide (p.2.status = .revise) = true then _ else []
    cases p.2.status <;> rfl

/-! ### A draft that is sent back

The issues of the critic are stored, and not shown.
-/

/-- An artifact with nothing in its columns but what the package reads. -/
def draftArtifact (id : String) (t : ArtifactType) : ArtifactRecord where
  artifactId := id
  workflowId := "wf"
  artifactType := t
  name := t.value
  version := 1
  logicalVersion := 1
  isActive := true
  createdAt := 0

/-- A review that asks for a revision. -/
def sentBackReview : CriticOutput where
  status := .revise
  issues := [⟨.scenarioQuality, "no joke"⟩]
  suggestedChanges := []
  promptVersion := "v1"

/-- A scenario that the critic has sent back. -/
def sentBackDraft : StoredStages where
  scenario := some (draftArtifact "s" .scenario, silentScenario)
  critic := some (draftArtifact "c" .criticReview, sentBackReview)

/-- Its two artifacts are what the read model finds. -/
def sentBackReads : OutputReads where
  active t :=
    if t = .scenario then some (draftArtifact "s" .scenario)
    else if t = .criticReview then some (draftArtifact "c" .criticReview)
    else none
  content id :=
    if id = "s" then .ok (.obj (enriched (serializeScenarioOutput silentScenario 1 [])))
    else .ok (.obj (enriched (serializeCriticOutput sentBackReview)))
  transitions := []
  invocations := []

theorem sentBackDraft_heldBy : sentBackDraft.HeldBy sentBackReads where
  source := by
    intro r h
    cases h
  topic := ⟨rfl, by intro p h; cases h⟩
  scenario := ⟨rfl, by intro p h; cases h; rfl⟩
  critic := ⟨rfl, by intro p h; cases h; rfl⟩

/-- A workflow that has used up its revisions. -/
def sentBackWorkflow : WorkflowRecord where
  workflowId := "wf"
  state := .failed
  stateVersion := 8
  createdAt := 0
  updatedAt := 0

/-- The reader is told to revise, and not why. -/
theorem sentBack_shown :
    sentBackReview.issues ≠ [] ∧
      ∃ output response,
        assembleOutput (fun _ => "") sentBackReads sentBackWorkflow = .ok output ∧
        Client.parseOutputResponse (fun _ => "")
          (dataclassToJsonDict (mapWorkflowOutput output).toObject) = some response ∧
        ApprovalReview.build (fun _ => "") response = sentBackDraft.review sentBackWorkflow ∧
        ApprovalReview.issueLines (ApprovalReview.build (fun _ => "") response) =
          ["  issues: (not reported)"] :=
  ⟨by decide, approval_review_shown (fun _ => "") (fun _ => "") sentBackReads sentBackWorkflow
    sentBackDraft sentBackDraft_heldBy⟩

end CartoonDemo
