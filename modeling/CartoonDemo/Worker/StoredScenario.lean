import CartoonDemo.Agents.Types

/-!
# CartoonDemo.Worker.StoredScenario

The **stored form of a scenario**: what `_serialize_scenario_output` of the generating stage
writes and `_scenario_output_from_content` of the reviewing stage reads. Field names change on
the way, the characters become objects and the topic becomes nested, and both sides treat an
empty text as missing; still nothing is lost (`scenario_survives`), as long as the topic is not
empty. An empty topic is replaced by the one of the topic artifact.

`render` stands for Python's `str` of a value that is not a string.
-/

namespace CartoonDemo

open Agents

variable (render : Json → String)

/-- A panel in the artifact. -/
def serializePanel (panel : ScenarioPanel) : Json :=
  .obj [("caption", .str panel.scene), ("dialogue", .str panel.dialogue)]

/-- A character in the artifact. -/
def serializeCharacter (name : String) : Json :=
  .obj [("name", .str name), ("role", .str "character")]

/-- `_serialize_scenario_output`. -/
def serializeScenarioOutput (output : ScenarioOutput) (logicalVersion : Int)
    (topicContent : List (String × Json)) : List (String × Json) :=
  let selectedTopic := ((Json.str output.topic).orElse (Json.get topicContent "selected_topic")).orElse
    (.str "")
  [("logical_version", .int logicalVersion),
   ("topic", .obj
     [("selected_topic", selectedTopic),
      ("why_interesting", (Json.get topicContent "why_interesting").orElse (.str "")),
      ("cartoon_angle", (Json.get topicContent "cartoon_angle").orElse (.str ""))]),
   ("premise", .str output.premise),
   ("characters", .arr (output.characters.map serializeCharacter)),
   ("panels", .arr (output.panels.map serializePanel)),
   ("punchline", (Json.str output.punchline).orElse (.str "")),
   ("prompt_version", .str output.promptVersion)]

/-- The panel of an artifact, if it is an object. -/
def panelFromContent : Json → Option ScenarioPanel
  | .obj panel => some
      { scene := Json.strOf render panel "caption" ""
        dialogue := Json.strIfTruthy render panel "dialogue" }
  | _ => none

/-- The character of an artifact, if it is an object. -/
def characterFromContent : Json → Option String
  | .obj character => some (Json.strOf render character "name" "")
  | _ => none

/-- `_scenario_output_from_content`. -/
def scenarioOutputFromContent (content : List (String × Json)) : ScenarioOutput where
  topic :=
    match (content.lookup "topic").getD (.obj []) with
    | .obj topic => Json.strOf render topic "selected_topic" ""
    | _ => ""
  premise := Json.strOf render content "premise" ""
  characters := (Json.get content "characters").items.filterMap (characterFromContent render)
  panels := (Json.get content "panels").items.filterMap (panelFromContent render)
  punchline := Json.strIfTruthy render content "punchline"
  promptVersion := Json.strOf render content "prompt_version" "unknown"

theorem panelFromContent_serialize (panel : ScenarioPanel) :
    panelFromContent render (serializePanel panel) = some panel := by
  have hdialogue : Json.strIfTruthy render
      [("caption", .str panel.scene), ("dialogue", .str panel.dialogue)] "dialogue" =
        panel.dialogue := Json.strIfTruthy_str render rfl
  rw [serializePanel, panelFromContent, hdialogue]
  rfl

theorem characterFromContent_serialize (name : String) :
    characterFromContent render (serializeCharacter name) = some name := rfl

/-- **Scenarios survive storage.** -/
theorem scenario_survives (o : ScenarioOutput) (htopic : o.topic ≠ "") (logicalVersion : Int)
    (topicContent : List (String × Json)) :
    scenarioOutputFromContent render (serializeScenarioOutput o logicalVersion topicContent) = o := by
  let content := serializeScenarioOutput o logicalVersion topicContent
  have hselected : ((Json.str o.topic).orElse (Json.get topicContent "selected_topic")).orElse
      (.str "") = .str o.topic := by
    rw [Json.orElse_of_truthy (Json.truthy_str.mpr htopic), Json.orElse_empty]
  have hpunchline : content.lookup "punchline" = some (.str o.punchline) := by
    show some ((Json.str o.punchline).orElse (.str "")) = _
    rw [Json.orElse_empty]
  have hcharacters : (o.characters.map serializeCharacter).filterMap (characterFromContent render) =
      o.characters := by
    rw [List.filterMap_map]
    exact (List.filterMap_congr fun name _ => characterFromContent_serialize render name).trans
      List.filterMap_some
  have hpanels : (o.panels.map serializePanel).filterMap (panelFromContent render) = o.panels := by
    rw [List.filterMap_map]
    exact (List.filterMap_congr fun panel _ => panelFromContent_serialize render panel).trans
      List.filterMap_some
  have hread : scenarioOutputFromContent render content =
      { topic := Json.toStr render (((Json.str o.topic).orElse
          (Json.get topicContent "selected_topic")).orElse (.str ""))
        premise := o.premise
        characters := (o.characters.map serializeCharacter).filterMap (characterFromContent render)
        panels := (o.panels.map serializePanel).filterMap (panelFromContent render)
        punchline := Json.strIfTruthy render content "punchline"
        promptVersion := o.promptVersion } := rfl
  rw [hread, hselected, hcharacters, hpanels, Json.strIfTruthy_str render hpunchline]
  rfl

/-- A scenario with a silent panel and no punchline. -/
def silentScenario : ScenarioOutput where
  topic := "merge queues"
  premise := "p"
  characters := ["bot", "bot"]
  panels := [⟨"s1", ""⟩, ⟨"", "d2"⟩, ⟨"s3", "d3"⟩]
  punchline := ""
  promptVersion := "v1"

theorem scenario_survives_silent : scenarioOutputFromContent (fun _ => "None")
    (serializeScenarioOutput silentScenario 1 []) = silentScenario :=
  scenario_survives (fun _ => "None") silentScenario (by decide) 1 []

end CartoonDemo
