import CartoonDemo.Library.Loops
import CartoonDemo.Library.SortBy
import CartoonDemo.Library.Table
import CartoonDemo.Observability.Redaction
import Mathlib.Data.String.Basic

/-!
# CartoonDemo.Observability.Cardinality

The **guard of metric labels** (`observability/cardinality.py`). It looks at a label mapping before
an instrument does, and lets it through unchanged or raises. Whether it raises depends on the
labels and not on their order (`accepts_congr`); which label it names may depend on it.

`repr` stands for Python's `repr` of a string.
-/

namespace CartoonDemo

namespace Observability

open Regex

/-- A mapping of labels: its items in order, with a key of its own for each. -/
abbrev Labels := Table (Prod.fst : String × String → String)

/-- `frozenset(labels.items())`. -/
def labelSet (labels : Labels) : Finset (String × String) := labels.rows.toFinset

theorem mem_labelSet {labels : Labels} {label : String × String} :
    label ∈ labelSet labels ↔ label ∈ labels.rows := List.mem_toFinset

theorem nodup_labels (labels : Labels) : labels.rows.Nodup := List.Nodup.of_map _ labels.nodup

/-- One label set, one mapping up to the order of its items. -/
theorem labelSet_eq_iff {labels labels' : Labels} :
    labelSet labels = labelSet labels' ↔ labels.rows.Perm labels'.rows := by
  constructor
  · exact List.perm_of_nodup_nodup_toFinset_eq (nodup_labels labels) (nodup_labels labels')
  · exact List.toFinset_eq_of_perm _ _

/-- What the guard reads of a descriptor. -/
structure MetricDescriptor where
  allowedLabelKeys : List String

/-- `FORBIDDEN_METRIC_LABEL_KEYS`. -/
def forbiddenMetricLabelKeys : List String :=
  ["workflow_id", "task_id", "prompt", "response", "url", "error_message"]

/-- `_PROMPT_LIKE_MAX_LENGTH`. -/
def promptLikeMaxLength : Nat := 256

/-- `_UUID_LIKE`. -/
def uuidLike : Regex :=
  let hex (n : Nat) : Regex := chars isHexChar n (some n)
  let dash : Regex := once fun c => c = '-'
  seqs [boundary, hex 8, dash, hex 4, dash, hex 4, dash, hex 4, dash, hex 12, boundary]

/-- `_RAW_URL`. -/
def rawUrl : Regex :=
  seqs [start, literal ignoreCase "http", optional (ignoreCase 's'), literal ignoreCase "://"]

/-- `HighCardinalityLabelError`. -/
structure HighCardinalityLabelError where
  message : String
  deriving DecidableEq, Repr

section Guard

variable (repr : String → String) (descriptor : MetricDescriptor)

/-- No key is `bad`; otherwise the message names the first of them in the order of strings. -/
def checkKeys (bad : String → Bool) (problem : String) (labels : Labels) :
    Except HighCardinalityLabelError Unit :=
  match insertBy id ((labels.rows.map Prod.fst).filter bad) with
  | [] => .ok ()
  | key :: _ => .error ⟨"Metric label key " ++ repr key ++ problem⟩

/-- The checks of one value. -/
def checkValue (label : String × String) : Except HighCardinalityLabelError Unit :=
  let refuse (problem : String) : Except HighCardinalityLabelError Unit :=
    .error ⟨"Metric label " ++ repr label.1 ++ problem⟩
  if (search uuidLike label.2.toList).isSome then refuse " has UUID-like value"
  else if matchesPrefix rawUrl label.2.toList then refuse " has raw URL value"
  else if promptLikeMaxLength < label.2.length then
    refuse (" exceeds maximum length " ++ toString promptLikeMaxLength)
  else if matchesSecretPattern label.2 then refuse " contains a secret-like value"
  else .ok ()

/-- `CardinalityGuard.validate_labels`. -/
def validateLabels (labels : Labels) : Except HighCardinalityLabelError Labels := do
  checkKeys repr (· ∉ descriptor.allowedLabelKeys) " is not in descriptor allowed_label_keys" labels
  checkKeys repr (· ∈ forbiddenMetricLabelKeys) " is forbidden" labels
  labels.rows.forM (checkValue repr)
  return labels

/-- The guard lets a mapping through. -/
def accepts (labels : Labels) : Bool := (validateLabels repr descriptor labels).isOk

variable {repr descriptor}

theorem checkKeys_ok_iff {bad : String → Bool} {problem : String} {labels : Labels} :
    checkKeys repr bad problem labels = .ok () ↔ ∀ label ∈ labels.rows, bad label.1 = false := by
  have hnone : insertBy id ((labels.rows.map Prod.fst).filter bad) = [] ↔
      ∀ label ∈ labels.rows, bad label.1 = false := by
    have hperm := List.perm_insertionSort (fun a b => id a ≤ id b)
      ((labels.rows.map Prod.fst).filter bad)
    rw [← List.length_eq_zero_iff, hperm.length_eq, List.length_eq_zero_iff, List.filter_eq_nil_iff,
      List.forall_mem_map]
    simp only [Bool.not_eq_true]
  rw [← hnone, checkKeys]
  split
  · next hnil => exact iff_of_true rfl hnil
  · next key keys hcons =>
      rw [hcons]
      exact iff_of_false (fun h => by cases h) (fun h => by cases h)

/-- What the guard wants of a label. -/
def AcceptableLabel (repr : String → String) (descriptor : MetricDescriptor)
    (label : String × String) : Prop :=
  label.1 ∈ descriptor.allowedLabelKeys ∧ label.1 ∉ forbiddenMetricLabelKeys ∧
    checkValue repr label = .ok ()

/-- The guard looks at each label on its own, and changes none. -/
theorem validateLabels_ok_iff {labels labels' : Labels} :
    validateLabels repr descriptor labels = .ok labels' ↔
      labels' = labels ∧ ∀ label ∈ labels.rows, AcceptableLabel repr descriptor label := by
  constructor
  · intro h
    obtain ⟨⟨⟩, hallowed, h⟩ := except_bind_ok h
    obtain ⟨⟨⟩, hforbidden, h⟩ := except_bind_ok h
    obtain ⟨⟨⟩, hvalues, h⟩ := except_bind_ok h
    refine ⟨(Except.ok.inj h).symm, fun label hlabel => ⟨?_, ?_, forM_ok_iff.mp hvalues label hlabel⟩⟩
    · simpa using checkKeys_ok_iff.mp hallowed label hlabel
    · simpa using checkKeys_ok_iff.mp hforbidden label hlabel
  · rintro ⟨rfl, h⟩
    have hallowed : checkKeys repr (· ∉ descriptor.allowedLabelKeys)
        " is not in descriptor allowed_label_keys" labels' = .ok () :=
      checkKeys_ok_iff.mpr fun label hlabel => by simpa using (h label hlabel).1
    have hforbidden : checkKeys repr (· ∈ forbiddenMetricLabelKeys) " is forbidden" labels' = .ok () :=
      checkKeys_ok_iff.mpr fun label hlabel => by simpa using (h label hlabel).2.1
    have hvalues : labels'.rows.forM (checkValue repr) = .ok () :=
      forM_ok_iff.mpr fun label hlabel => (h label hlabel).2.2
    rw [validateLabels, hallowed, hforbidden, hvalues]
    rfl

theorem accepts_iff {labels : Labels} :
    accepts repr descriptor labels ↔ validateLabels repr descriptor labels = .ok labels := by
  rw [accepts, except_isOk_iff]
  constructor
  · rintro ⟨labels', h⟩
    obtain ⟨rfl, -⟩ := validateLabels_ok_iff.mp h
    exact h
  · exact fun h => ⟨labels, h⟩

/-- **The guard does not look at the order of the labels.** -/
theorem accepts_congr {labels labels' : Labels} (h : labelSet labels = labelSet labels') :
    accepts repr descriptor labels = accepts repr descriptor labels' := by
  have hmem : ∀ label, label ∈ labels.rows ↔ label ∈ labels'.rows := fun label => by
    rw [← mem_labelSet, h, mem_labelSet]
  rw [Bool.eq_iff_iff, accepts_iff, accepts_iff, validateLabels_ok_iff, validateLabels_ok_iff]
  simp only [true_and, hmem]

end Guard

end Observability

end CartoonDemo
