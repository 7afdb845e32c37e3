import CartoonDemo.Agents.InputValidation
import CartoonDemo.Agents.OutputSafety
import CartoonDemo.Collector.Robustness
import CartoonDemo.Config.SafeToRun
import CartoonDemo.Worker.StoredScenario
import CartoonDemo.Worker.StoredStories

/-!
# CartoonDemo.Worker.HandOffs

**What a stage hands to the next one.** The output of a stage was validated, is stored as an artifact
and reloaded, and is validated again as the input of the next agent. The two validations have bounds
of their own: the collector hands over as many candidates as the configuration asks for and the selector
takes a hundred (`validateTopicSelection_collected`), a selected topic always passes
(`validateScenarioGeneration_reloaded`), and a scenario passes unless its punchline is blank
(`validateCritic_reloaded`).

JSONB gives texts, integers, lists and objects back as they were; nothing else of an artifact is read
here.
-/

namespace CartoonDemo

open Agents Collector

/-! ### The stored form of a topic

What the next stage reads back of a topic.
-/

/-- What `create_artifact` stores; no content has the key before. -/
def enriched (content : List (String × Json)) : List (String × Json) :=
  content ++ [("schema_version", .int 1)]

def serializeAlternative (alternative : TopicAlternative) : Json :=
  .obj [("topic", .str alternative.topic), ("reason", .str alternative.rationale)]

def serializeScores (scores : EvaluationScores) : Json :=
  .obj (scoreNames.zip (scores.all.map .float))

/-- `_serialize_topic_output`. -/
def serializeTopicOutput (output : TopicSelectionOutput) : List (String × Json) :=
  [("outcome", .str output.outcome.value),
   ("selected_topic", .ofOption .str output.selectedTopic),
   ("why_interesting", .ofOption .str output.whyInteresting),
   ("cartoon_angle", .ofOption .str output.cartoonAngle),
   ("scores", .ofOption serializeScores output.scores),
   ("alternatives", .arr (output.alternatives.map serializeAlternative)),
   ("prompt_version", .str output.promptVersion)]

/-- `value if value else None` of a text or `null`. -/
def textFromContent : Json → Option String
  | .str s => if s = "" then none else some s
  | _ => none

/-- `value == text`. -/
def isText (text : String) : Json → Bool
  | .str s => s = text
  | _ => false

section Reload

variable (render : Json → String)

/-- `_topic_output_from_content`. -/
def topicOutputFromContent (content : List (String × Json)) :
    Except OutputException TopicSelectionOutput := do
  let outcome ← outcomeOfValue (Json.strOf render content "outcome" "no_suitable_topic")
  return {
    outcome
    promptVersion := Json.strOf render content "prompt_version" "unknown"
    selectedTopic := textFromContent (Json.get content "selected_topic")
    whyInteresting := textFromContent (Json.get content "why_interesting")
    cartoonAngle := textFromContent (Json.get content "cartoon_angle") }

/-- The topic that `GenerateScenarioTaskHandler` reads; `none` is an exception. -/
def reloadTopic (content : List (String × Json)) : Option TopicSelectionOutput :=
  if isText "topic_selected" (Json.get content "outcome") then
    (topicOutputFromContent render content).toOption
  else none

/-- A selected topic comes back as one. -/
theorem reloadTopic_serialize {output : TopicSelectionOutput} (h : output.outcome = .topicSelected) :
    ∃ topic, reloadTopic render (enriched (serializeTopicOutput output)) = some topic ∧
      topic.outcome = .topicSelected := by
  let content := enriched (serializeTopicOutput output)
  have hget : Json.get content "outcome" = .str "topic_selected" := by
    show Json.str output.outcome.value = _
    rw [h]
    rfl
  have htext : Json.strOf render content "outcome" "no_suitable_topic" = "topic_selected" := by
    show Json.toStr render (.str output.outcome.value) = _
    rw [h]
    rfl
  obtain ⟨topic, htopic, houtcome⟩ : ∃ topic, topicOutputFromContent render content = .ok topic ∧
      topic.outcome = .topicSelected := by
    rw [topicOutputFromContent, htext]
    exact ⟨_, rfl, rfl⟩
  refine ⟨topic, ?_, houtcome⟩
  rw [reloadTopic, hget, htopic]
  rfl

/-- The panels and the punchline of a scenario come back, whatever the topic. -/
theorem scenario_reload (output : ScenarioOutput) (logicalVersion : Int)
    (topicContent : List (String × Json)) :
    (scenarioOutputFromContent render
        (enriched (serializeScenarioOutput output logicalVersion topicContent))).panels = output.panels ∧
      (scenarioOutputFromContent render
        (enriched (serializeScenarioOutput output logicalVersion topicContent))).punchline =
        output.punchline := by
  let content := enriched (serializeScenarioOutput output logicalVersion topicContent)
  have hpunchline : content.lookup "punchline" = some (.str output.punchline) := by
    show some ((Json.str output.punchline).orElse (.str "")) = _
    rw [Json.orElse_empty]
  refine ⟨?_, Json.strIfTruthy_str render hpunchline⟩
  show (output.panels.map serializePanel).filterMap (panelFromContent render) = output.panels
  rw [List.filterMap_map]
  exact (List.filterMap_congr fun panel _ => panelFromContent_serialize render panel).trans
    List.filterMap_some

end Reload

/-! ### The hand-offs

An output that its own validator lets through is an input that the next one lets through, within
the two bounds.
-/

/-- `config.collection` for the collector. -/
def CollectionDraft.config (draft : CollectionDraft) : CollectionConfig PyFloat where
  candidateCount := draft.candidateCount
  scoring := draft.scoring.map fun scoring =>
    { weightScore := scoring.weightScore
      weightComments := scoring.weightComments
      weightRecency := scoring.weightRecency }

section HandOffs

variable {loads : Bytes → Except LoadsError Json} {lib : Urllib} {render : Json → String}
  {parseFloat : String → Option PyFloat} {sorted : PySorted} {bestMessage : Schema → Json → String}

/-- The candidates of a run are the first of its stories. -/
theorem candidates_of_collected {host : Host} {client : HackerNewsClient} {clock : Clock}
    {config : CollectionConfig PyFloat} {result : CollectionResult PyFloat}
    (h : collectStories loads lib render (floatArithmetic sorted) host client clock config = .ok result) :
    result.candidates = upTo config.candidateCount result.stories := by
  obtain ⟨feed, -, h⟩ := except_bind_ok h
  obtain ⟨results, -, h⟩ := except_bind_ok h
  obtain ⟨received, -, h⟩ := except_bind_ok h
  obtain ⟨context, -, h⟩ := except_bind_ok h
  obtain ⟨scored, -, -, hcandidates, -⟩ := finishRun_ok h
  exact hcandidates

theorem candidateCount_pos {world : Surroundings} {draft draft' : ConfigDraft}
    (h : ConfigValidator.validate world draft = .ok draft') : 0 < draft'.collection.candidateCount := by
  obtain ⟨rfl, -, hpasses⟩ := validate_ok h
  exact pos_of_passes (hpasses _ (List.mem_append_left _ (.head _)))

/-- The selector takes what the collector hands over, up to a hundred candidates. -/
theorem validateTopicSelection_collected {host : Host} {client : HackerNewsClient} {clock : Clock}
    {config : CollectionConfig PyFloat} (hcount : 0 < config.candidateCount)
    {result : CollectionResult PyFloat}
    (h : collectStories loads lib render (floatArithmetic sorted) host client clock config = .ok result)
    (hstories : result.stories ≠ []) :
    ∃ candidates, mapStoryRecordsToCandidates render parseFloat
        (enriched (serializeCollectionResult result)) = some candidates ∧
      (InputValidator.validateTopicSelection ⟨candidates⟩ = .ok () ↔
        min config.candidateCount result.stories.length ≤ maxTopicCandidates) := by
  refine ⟨_, storedCandidates_reload render parseFloat result, ?_⟩
  have hpos : 0 < result.stories.length := List.length_pos_iff.mpr hstories
  rw [InputValidator.validateTopicSelection_ok_iff, List.length_map, candidates_of_collected h, upTo,
    if_pos hcount.le, List.length_take]
  omega

/-- A selected topic passes. -/
theorem validateScenarioGeneration_reloaded {output : TopicSelectionOutput}
    (h : output.outcome = .topicSelected) :
    ∃ topic, reloadTopic render (enriched (serializeTopicOutput output)) = some topic ∧
      InputValidator.validateScenarioGeneration ⟨topic⟩ = .ok () := by
  obtain ⟨topic, hreload, houtcome⟩ := reloadTopic_serialize render h
  exact ⟨topic, hreload, InputValidator.validateScenarioGeneration_ok_iff.mpr houtcome⟩

/-- A validated scenario has panels. -/
theorem panels_of_validated {payload : ParsedProviderPayload} {promptVersion : String}
    {output : ScenarioOutput}
    (h : validateScenarioOutput bestMessage render payload promptVersion = .ok output) :
    output.panels ≠ [] := by
  have haccepts : scenarioSchema.accepts (.obj payload.data) := by
    obtain ⟨_, hschema, -⟩ := except_bind_ok h
    by_contra hrefused
    rw [validateSchema, if_neg hrefused] at hschema
    cases hschema
  obtain ⟨output', hok, hpanels, -⟩ : ∃ output',
      validateScenarioOutput bestMessage render payload promptVersion = .ok output' ∧
        (output'.panels.length = 3 ∨ output'.panels.length = 4) ∧ output'.characters ≠ [] :=
    validateScenarioOutput_of_accepts bestMessage render haccepts
  obtain rfl := Except.ok.inj (h.symm.trans hok)
  rintro hempty
  rw [hempty] at hpanels
  simp at hpanels

/-- A scenario passes unless its punchline is blank. -/
theorem validateCritic_reloaded {payload : ParsedProviderPayload} {promptVersion : String}
    {output : ScenarioOutput}
    (h : validateScenarioOutput bestMessage render payload promptVersion = .ok output)
    (logicalVersion : Int) (topicContent : List (String × Json)) (revisionNumber : Int) :
    InputValidator.validateCritic
        ⟨scenarioOutputFromContent render
          (enriched (serializeScenarioOutput output logicalVersion topicContent)), revisionNumber⟩ =
          .ok () ↔
      PyStr.strip output.punchline ≠ "" := by
  obtain ⟨hpanels, hpunchline⟩ := scenario_reload render output logicalVersion topicContent
  rw [InputValidator.validateCritic_ok_iff, hpanels, hpunchline]
  exact and_iff_right (panels_of_validated h)

end HandOffs

/-- **What is handed over is accepted**, up to a hundred candidates and but for a blank punchline. -/
theorem handOffs_accepted (world : Surroundings) (loads : Bytes → Except LoadsError Json)
    (lib : Urllib) (render : Json → String) (parseFloat : String → Option PyFloat) (sorted : PySorted)
    (bestMessage : Schema → Json → String) :
    (∀ draft draft' host client clock result, ConfigValidator.validate world draft = .ok draft' →
      collectStories loads lib render (floatArithmetic sorted) host client clock
        draft'.collection.config = .ok result →
      result.stories ≠ [] →
      ∃ candidates, mapStoryRecordsToCandidates render parseFloat
          (enriched (serializeCollectionResult result)) = some candidates ∧
        (InputValidator.validateTopicSelection ⟨candidates⟩ = .ok () ↔
          min draft'.collection.candidateCount result.stories.length ≤ maxTopicCandidates)) ∧
    (∀ payload promptVersion output,
      validateTopicOutput bestMessage render payload promptVersion = .ok output →
      output.outcome = .topicSelected →
      ∃ topic, reloadTopic render (enriched (serializeTopicOutput output)) = some topic ∧
        InputValidator.validateScenarioGeneration ⟨topic⟩ = .ok ()) ∧
    (∀ payload promptVersion output logicalVersion topicContent revisionNumber,
      validateScenarioOutput bestMessage render payload promptVersion = .ok output →
      (InputValidator.validateCritic
          ⟨scenarioOutputFromContent render
            (enriched (serializeScenarioOutput output logicalVersion topicContent)), revisionNumber⟩ =
            .ok () ↔
        PyStr.strip output.punchline ≠ "")) := by
  refine ⟨fun draft draft' host client clock result hvalid h hstories => ?_,
    fun payload promptVersion output _ houtcome => validateScenarioGeneration_reloaded houtcome,
    fun payload promptVersion output logicalVersion topicContent revisionNumber h =>
      validateCritic_reloaded h logicalVersion topicContent revisionNumber⟩
  exact validateTopicSelection_collected (candidateCount_pos hvalid) h hstories

/-! ### A hundred and one stories, and a blank punchline -/

/-- The demo configuration with another number of candidates. -/
def demoDraft (candidateCount : Int) : ConfigDraft where
  configVersion := some "1"
  infrastructure :=
    { postgres := ⟨"localhost", 5432, "cartoon", "POSTGRES_USER", "POSTGRES_PASSWORD"⟩
      redis := ⟨"localhost", 6379, 0, none⟩ }
  agents := [.topicSelector, .scenarioGenerator, .critic].map fun agentId : AgentId =>
    (agentId, ⟨.fake, "fake-model", "prompts/" ++ agentId.value ++ "/v1.txt"⟩)
  providers := [(.fake, ⟨"FAKE_API_KEY", none, none⟩)]
  collection := ⟨candidateCount, none⟩
  workflow := ⟨2⟩
  workers := ⟨1, 1, 1⟩
  retry := TaskType.all.map fun taskType =>
    (taskType, ⟨3, ⟨.finite 1, .finite 2, .finite 30⟩⟩)
  timeouts := [(.fake, ⟨none, .finite 30, none⟩)]
  failureInjection := ⟨false, []⟩

/-- `{"type":"story","title":"t","id":`, in ASCII. -/
def storyPrefix : Bytes :=
  [123, 34, 116, 121, 112, 101, 34, 58, 34, 115, 116, 111, 114, 121, 34, 44, 34, 116, 105, 116,
   108, 101, 34, 58, 34, 116, 34, 44, 34, 105, 100, 34, 58]

/-- A story of the feed. -/
def storyBytes (id : ℕ) : Bytes :=
  storyPrefix ++ (Nat.toDigits 10 id).map (fun digit => UInt8.ofNat digit.toNat) ++ [125]

/-- `json.loads` of such a story: what stands between the prefix and the brace is the identifier. -/
def storyLoads (body : Bytes) : Except LoadsError Json :=
  let digits := (body.drop storyPrefix.length).dropLast
  let id : ℕ := digits.foldl (fun n digit => 10 * n + (digit.toNat - 48)) 0
  .ok (.obj [("type", .str "story"), ("title", .str "t"), ("id", .int id)])

/-- The responses of a feed with this many stories. -/
def storyResults (count : ℕ) : List ItemFetchResult :=
  (List.range' 1000 count).map fun id =>
    { sourceId := toString id, statusCode := some 200, errorKind := .none, body := some (storyBytes id) }

def storyClient (count : ℕ) : HackerNewsClient where
  fetchTopStoryIds := .ok ((List.range' 1000 count).map fun id => .int id)
  fetchItems _ := .ok (storyResults count)

/-- A run on that feed that may select all of its stories. -/
def storyRun (count : ℕ) : Except CollectException (CollectionResult PyFloat) :=
  collectStories storyLoads noUrllib renderInt (floatArithmetic .insertion) sampleHost (storyClient count) noClock
    (demoDraft count).collection.config

/-- A scenario with this punchline. -/
def scenarioPayload (punchline : String) : ParsedProviderPayload where
  data :=
    [("topic", .str "t"), ("premise", .str "p"), ("characters", .arr [.str "bot"]),
     ("panels", .arr (List.replicate 3 (.obj [("scene", .str "s"), ("dialogue", .str "d")]))),
     ("punchline", .str punchline)]
  rawLength := 0

def topicPayload : ParsedProviderPayload where
  data := nanTopic.map fun field =>
    if field.1 = "scores" then ("scores", .obj (scoreNames.map fun name => (name, .int 1))) else field
  rawLength := 0

/-- The context after the two loops. -/
def storyContext (count : ℕ) : Except CollectException (CollectionRunContext PyFloat) :=
  receiveItems storyLoads noClock (storyResults count) >>= considerItems noUrllib renderInt sampleHost noClock

/-- The hundred and one drafts have identifiers in order, and no numbers. -/
theorem crowded_drafts :
    ((storyContext 101).toOption.map fun context =>
      (context.acceptedDrafts.length, context.rejectedRecords.length,
        decide ((context.acceptedDrafts.map StoryRecord.sourceId).IsChain (· < ·)),
        context.acceptedDrafts.all fun draft => draft.score.isNone && draft.commentCount.isNone)) =
      some (101, 0, true, true) := by
  decide +kernel

theorem storyRun_eq (count : ℕ) :
    storyRun count = storyContext count >>=
      finishRun (floatArithmetic .insertion) sampleHost noClock (demoDraft count).collection.config := by
  rw [storyContext]
  cases hreceive : receiveItems (K := PyFloat) storyLoads noClock (storyResults count) with
  | error e =>
      show (receiveItems storyLoads noClock (storyResults count) >>= _) = _
      rw [hreceive]
      rfl
  | ok received =>
      show (receiveItems storyLoads noClock (storyResults count) >>= _) = _
      rw [hreceive]
      rfl

/-- All of them are kept and ranked. -/
theorem crowded_run : ∃ result, storyRun 101 = .ok result ∧ result.stories.length = 101 := by
  have hdrafts := crowded_drafts
  rw [storyRun_eq]
  cases hcontext : storyContext 101 with
  | error e => simp [hcontext, Except.toOption] at hdrafts
  | ok context =>
      simp only [hcontext, Except.toOption, Option.map_some, Option.some.injEq, Prod.mk.injEq,
        decide_eq_true_eq, List.all_eq_true, Bool.and_eq_true, Option.isNone_iff_eq_none] at hdrafts
      obtain ⟨hlength, hrejected, hchain, hnone⟩ := hdrafts
      have hnodup : (context.acceptedDrafts.map StoryRecord.sourceId).Nodup :=
        hchain.pairwise.imp fun hlt => ne_of_lt hlt
      have hkept : dedupe [] context.acceptedDrafts = (context.acceptedDrafts, []) :=
        dedupe_of_nodup hnodup fun draft _ => List.not_mem_nil
      have hok : (finishRun (floatArithmetic .insertion) sampleHost noClock (demoDraft 101).collection.config
          context).isOk := by
        rw [finishRun_isOk_iff, hkept, List.length_eq_zero_iff.mp hrejected]
        refine ⟨fun draft hdraft => ?_, fun _ sourceId h => absurd h List.not_mem_nil,
          fun _ _ => rfl, fun _ _ => rfl⟩
        obtain ⟨hscore, hcomments⟩ := hnone draft hdraft
        rw [hscore, hcomments]
        exact ⟨fitsSignal_none, fitsSignal_none⟩
      obtain ⟨result, hresult⟩ := except_isOk_iff.mp hok
      obtain ⟨scored, hscored, hstories, -⟩ := finishRun_ok hresult
      refine ⟨result, hresult, ?_⟩
      rw [hstories, List.length_map, ((PySorted.insertion).perm scored).length_eq,
        ← (scoreStories_spec hscored).length_eq, hkept, hlength]

/-- A hundred and one candidates are refused, and so is a blank punchline. -/
theorem handOffs_refused :
    (∃ draft result candidates, ConfigValidator.validate present (demoDraft 101) = .ok draft ∧
      collectStories storyLoads noUrllib renderInt (floatArithmetic .insertion) sampleHost (storyClient 101) noClock
        draft.collection.config = .ok result ∧
      result.stories ≠ [] ∧
      mapStoryRecordsToCandidates renderInt (fun _ => none)
        (enriched (serializeCollectionResult result)) = some candidates ∧
      InputValidator.validateTopicSelection ⟨candidates⟩ ≠ .ok ()) ∧
    (∃ output, validateScenarioOutput (fun _ _ => "") renderInt (scenarioPayload " ") "v1" = .ok output ∧
      InputValidator.validateCritic
        ⟨scenarioOutputFromContent renderInt (enriched (serializeScenarioOutput output 1 [])), 0⟩ ≠
          .ok ()) := by
  constructor
  · obtain ⟨result, hrun, hlength⟩ := crowded_run
    have hstories : result.stories ≠ [] := fun hempty => by simp [hempty] at hlength
    obtain ⟨candidates, hcandidates, hpasses⟩ :=
      validateTopicSelection_collected (by decide) hrun hstories
    refine ⟨demoDraft 101, result, candidates, rfl, hrun, hstories, hcandidates, fun h => ?_⟩
    have hle := hpasses.mp h
    rw [hlength] at hle
    revert hle
    decide
  · have hpunchline : ((validateScenarioOutput (fun _ _ => "") renderInt (scenarioPayload " ")
        "v1").toOption.map ScenarioOutput.punchline) = some " " := by decide +kernel
    cases hvalid : validateScenarioOutput (fun _ _ => "") renderInt (scenarioPayload " ") "v1" with
    | error e => simp [hvalid, Except.toOption] at hpunchline
    | ok output =>
        simp only [hvalid, Except.toOption, Option.map_some, Option.some.injEq] at hpunchline
        refine ⟨output, rfl, fun h => (validateCritic_reloaded hvalid 1 [] 0).mp h ?_⟩
        rw [hpunchline]
        decide +kernel

/-- One story, a selected topic and a scenario with a punchline. -/
theorem handOffs_accepted_demo :
    (∃ draft result candidates, ConfigValidator.validate present (demoDraft 1) = .ok draft ∧
      collectStories storyLoads noUrllib renderInt (floatArithmetic .insertion) sampleHost (storyClient 1) noClock
        draft.collection.config = .ok result ∧
      mapStoryRecordsToCandidates renderInt (fun _ => none)
        (enriched (serializeCollectionResult result)) = some candidates ∧
      InputValidator.validateTopicSelection ⟨candidates⟩ = .ok ()) ∧
    (∃ output topic, validateTopicOutput (fun _ _ => "") renderInt topicPayload "v1" = .ok output ∧
      reloadTopic renderInt (enriched (serializeTopicOutput output)) = some topic ∧
      InputValidator.validateScenarioGeneration ⟨topic⟩ = .ok ()) ∧
    ∃ output, validateScenarioOutput (fun _ _ => "") renderInt (scenarioPayload "done") "v1" =
        .ok output ∧
      InputValidator.validateCritic
        ⟨scenarioOutputFromContent renderInt (enriched (serializeScenarioOutput output 1 [])), 0⟩ =
          .ok () := by
  obtain ⟨hcollect, htopic, hscenario⟩ := handOffs_accepted present storyLoads noUrllib renderInt
    (fun _ => none) .insertion (fun _ _ => "")
  refine ⟨?_, ?_, ?_⟩
  · have hlength : ((storyRun 1).toOption.map fun result => result.stories.length) = some 1 := by
      decide +kernel
    cases hrun : storyRun 1 with
    | error e => simp [hrun, Except.toOption] at hlength
    | ok result =>
        simp only [hrun, Except.toOption, Option.map_some, Option.some.injEq] at hlength
        have hstories : result.stories ≠ [] := fun hempty => by simp [hempty] at hlength
        obtain ⟨candidates, hcandidates, hpasses⟩ :=
          hcollect (demoDraft 1) (demoDraft 1) sampleHost (storyClient 1) noClock result rfl hrun hstories
        refine ⟨demoDraft 1, result, candidates, rfl, hrun, hcandidates, hpasses.mpr ?_⟩
        rw [hlength]
        decide
  · have houtcome : ((validateTopicOutput (fun _ _ => "") renderInt topicPayload
        "v1").toOption.map TopicSelectionOutput.outcome) = some .topicSelected := by decide +kernel
    cases hvalid : validateTopicOutput (fun _ _ => "") renderInt topicPayload "v1" with
    | error e => simp [hvalid, Except.toOption] at houtcome
    | ok output =>
        simp only [hvalid, Except.toOption, Option.map_some, Option.some.injEq] at houtcome
        obtain ⟨topic, hreload, hpasses⟩ := htopic topicPayload "v1" output hvalid houtcome
        exact ⟨output, topic, rfl, hreload, hpasses⟩
  · have hpunchline : ((validateScenarioOutput (fun _ _ => "") renderInt (scenarioPayload "done")
        "v1").toOption.map ScenarioOutput.punchline) = some "done" := by decide +kernel
    cases hvalid : validateScenarioOutput (fun _ _ => "") renderInt (scenarioPayload "done") "v1" with
    | error e => simp [hvalid, Except.toOption] at hpunchline
    | ok output =>
        simp only [hvalid, Except.toOption, Option.map_some, Option.some.injEq] at hpunchline
        refine ⟨output, rfl, (hscenario _ _ output 1 [] 0 hvalid).mpr ?_⟩
        rw [hpunchline]
        decide +kernel

end CartoonDemo
