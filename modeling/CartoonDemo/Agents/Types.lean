import CartoonDemo.Library.Json

/-!
# CartoonDemo.Agents.Types

The **value types of the agents** (`agents/types.py`): what the stages are given and what they
return, with the wire tokens of the enumerations.
-/

namespace CartoonDemo

namespace Agents

/-- Whether the selector found a topic. -/
inductive TopicSelectionOutcome
  | topicSelected | noSuitableTopic
  deriving DecidableEq, Repr

/-- The text of the enum member. -/
def TopicSelectionOutcome.value : TopicSelectionOutcome → String
  | topicSelected => "topic_selected"
  | noSuitableTopic => "no_suitable_topic"

/-- The verdict of a review. -/
inductive CriticStatus
  | pass | revise
  deriving DecidableEq, Repr

/-- The text of the enum member. -/
def CriticStatus.value : CriticStatus → String
  | pass => "PASS"
  | revise => "REVISE"

/-- What an issue is about. -/
inductive CriticDimension
  | technicalAccuracy | scenarioQuality | publicationQuality
  deriving DecidableEq, Repr

/-- The text of the enum member. -/
def CriticDimension.value : CriticDimension → String
  | technicalAccuracy => "technical_accuracy"
  | scenarioQuality => "scenario_quality"
  | publicationQuality => "publication_quality"

/-- `CandidateStory`. The title and the url are passed on as they were stored; `null` is `None`. -/
structure CandidateStory where
  sourceId : String
  title : Json := .null
  url : Json := .null
  score : Option Int := none
  commentCount : Option Int := none
  rankScore : Option PyFloat := none

/-- `EvaluationScores`. -/
structure EvaluationScores where
  technicalRelevance : PyFloat
  developerRelevance : PyFloat
  discussionInterest : PyFloat
  humourPotential : PyFloat
  ironyContradiction : PyFloat
  visualScenarioPotential : PyFloat
  backgroundKnowledgeRequired : PyFloat
  deriving DecidableEq, Repr

/-- The seven scores. -/
def EvaluationScores.all (s : EvaluationScores) : List PyFloat :=
  [s.technicalRelevance, s.developerRelevance, s.discussionInterest, s.humourPotential,
   s.ironyContradiction, s.visualScenarioPotential, s.backgroundKnowledgeRequired]

/-- A topic that was not selected. -/
structure TopicAlternative where
  topic : String
  rationale : String
  deriving DecidableEq, Repr

/-- The answer of the topic selector. -/
structure TopicSelectionOutput where
  outcome : TopicSelectionOutcome
  promptVersion : String
  selectedTopic : Option String := none
  whyInteresting : Option String := none
  cartoonAngle : Option String := none
  scores : Option EvaluationScores := none
  alternatives : List TopicAlternative := []
  deriving DecidableEq, Repr

/-- One panel of the cartoon. -/
structure ScenarioPanel where
  scene : String
  dialogue : String
  deriving DecidableEq, Repr

/-- The answer of the scenario generator. -/
structure ScenarioOutput where
  topic : String
  premise : String
  characters : List String
  panels : List ScenarioPanel
  punchline : String
  promptVersion : String
  deriving DecidableEq, Repr

/-- What the critic objects to. -/
structure CriticIssue where
  dimension : CriticDimension
  description : String
  deriving DecidableEq, Repr

/-- The answer of the critic. -/
structure CriticOutput where
  status : CriticStatus
  issues : List CriticIssue
  suggestedChanges : List String
  promptVersion : String
  deriving DecidableEq, Repr

end Agents

end CartoonDemo
