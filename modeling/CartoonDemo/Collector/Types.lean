import CartoonDemo.Library.Json
import CartoonDemo.Library.PyDatetime

/-!
# CartoonDemo.Collector.Types

The **types of the collector** (`collector/types.py` and the draft of `collector/service.py`). A
draft and the record that is made of it have the same fields here: the record is the draft,
frozen, and values are immutable anyway.
-/

namespace CartoonDemo

namespace Collector

/-- The keys and values of an item of the feed. -/
abbrev RawObservation := List (String × Json)

inductive RejectionReason
  | validationFailed | duplicate | normalizationFailed | untrustedContent
  deriving DecidableEq, Repr

def RejectionReason.value : RejectionReason → String
  | validationFailed => "validation_failed"
  | duplicate => "duplicate"
  | normalizationFailed => "normalization_failed"
  | untrustedContent => "untrusted_content"

/-- `StoryDraft` and `StoryRecord`; the source is always Hacker News. The rank score is a number of
the arithmetic `K` that the ranking uses. -/
structure StoryRecord (K : Type) where
  sourceId : String
  collectedAt : PyDatetime
  rawObservation : RawObservation
  title : Option String := none
  url : Option String := none
  author : Option String := none
  score : Option Int := none
  commentCount : Option Int := none
  publishedAt : Option PyDatetime := none
  rankScore : Option K := none

structure RejectedStoryRecord where
  sourceId : String
  collectedAt : PyDatetime
  rawObservation : RawObservation
  reasonCode : RejectionReason
  reasonDetail : String

structure CollectionStats where
  fetchedCount : Nat
  acceptedCount : Nat
  rejectedCount : Nat
  duplicateCount : Nat
  candidateCount : Nat
  deriving DecidableEq, Repr

structure CollectionResult (K : Type) where
  startedAt : PyDatetime
  completedAt : PyDatetime
  stories : List (StoryRecord K)
  candidates : List (StoryRecord K)
  rejected : List RejectedStoryRecord
  stats : CollectionStats

end Collector

end CartoonDemo
