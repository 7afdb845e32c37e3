import CartoonDemo.Library.Deltas
import CartoonDemo.Observability.Cardinality
import Mathlib.Data.Prod.Lex

/-!
# CartoonDemo.Observability.Meter

The **gauge** (`observability/meter_impl.py`). Its instrument is an up-down counter, which can add
only; the gauge remembers the value last set for each label set, under a key that does not depend on
the order of the labels (`labelSetKey_eq_iff`), and sends the difference. It is a `Reporter` whose
keys are label sets (`Shows`); a call whose labels the guard refuses raises and changes nothing.

Each call runs under the lock of the gauge, so concurrent calls take effect one after the other.
Values are those of a commutative group: the arithmetic is exact, and `0` stands for `0.0`.
-/

namespace CartoonDemo

namespace Observability

/-- `_label_set_key`. -/
def labelSetKey (labels : Labels) : List (String × String) := insertBy toLex labels.rows

/-- The key is that of the label set. -/
theorem labelSetKey_eq_iff {labels labels' : Labels} :
    labelSetKey labels = labelSetKey labels' ↔ labelSet labels = labelSet labels' := by
  rw [labelSet_eq_iff]
  constructor
  · intro h
    have hsorted : (labelSetKey labels).Perm labels.rows := List.perm_insertionSort _ labels.rows
    have hsorted' : (labelSetKey labels').Perm labels'.rows := List.perm_insertionSort _ labels'.rows
    exact hsorted.symm.trans (h ▸ hsorted')
  · exact insertBy_eq_of_perm ((nodup_labels labels).map toLex.injective)

/-- The calls `add(amount, attributes=...)` that an up-down counter has got, in order. -/
structure UpDownCounter (V : Type) where
  adds : List (V × Labels)

/-- `add`. -/
def UpDownCounter.add {V : Type} (counter : UpDownCounter V) (amount : V) (attributes : Labels) :
    UpDownCounter V := ⟨counter.adds ++ [(amount, attributes)]⟩

/-- What was added, and for which label set. -/
def UpDownCounter.entries {V : Type} (counter : UpDownCounter V) : List (Finset (String × String) × V) :=
  counter.adds.map fun add => (labelSet add.2, add.1)

theorem UpDownCounter.entries_add {V : Type} (counter : UpDownCounter V) (amount : V)
    (attributes : Labels) :
    (counter.add amount attributes).entries = counter.entries ++ [(labelSet attributes, amount)] := by
  rw [entries, add, List.map_append]
  rfl

structure GaugeImpl (V : Type) where
  descriptor : MetricDescriptor
  otelUpDownCounter : UpDownCounter V
  lastValues : Table (Prod.fst : List (String × String) × V → List (String × String))

/-- A call of `set`. -/
structure SetCall (V : Type) where
  value : V
  labels : Option Labels

/-- `dict(labels or {})`. -/
def SetCall.mapping {V : Type} (call : SetCall V) : Labels := call.labels.getD Table.empty

/-- The call is the same up to the order of its labels. -/
structure SetCall.SameUpToOrder {V : Type} (call call' : SetCall V) : Prop where
  value : call.value = call'.value
  labels : labelSet call.mapping = labelSet call'.mapping

section Gauge

variable {V : Type} [AddCommGroup V] (repr : String → String)

namespace GaugeImpl

/-- `__init__`. -/
def init (descriptor : MetricDescriptor) : GaugeImpl V := ⟨descriptor, ⟨[]⟩, Table.empty⟩

/-- `self._last_values.get(label_key, 0.0)`. -/
def lastValue (gauge : GaugeImpl V) (labelKey : List (String × String)) : V :=
  ((gauge.lastValues.get? labelKey).map Prod.snd).getD 0

/-- `set`. -/
def set (gauge : GaugeImpl V) (call : SetCall V) :
    Except HighCardinalityLabelError (GaugeImpl V) := do
  let validated ← validateLabels repr gauge.descriptor call.mapping
  let labelKey := labelSetKey validated
  let delta := call.value - gauge.lastValue labelKey
  return { gauge with
    lastValues := gauge.lastValues.upsert (labelKey, call.value)
    otelUpDownCounter := gauge.otelUpDownCounter.add delta validated }

/-- The gauge after a call; one that raises leaves it as it was. -/
def afterSet (call : SetCall V) (gauge : GaugeImpl V) : GaugeImpl V :=
  match gauge.set repr call with
  | .ok gauge' => gauge'
  | .error _ => gauge

end GaugeImpl

/-- The values that are set, for the label sets they are set for: those of the calls whose labels the
guard accepts. -/
def acceptedSets (descriptor : MetricDescriptor) (calls : List (SetCall V)) :
    List (Finset (String × String) × V) :=
  (calls.filter fun call => accepts repr descriptor call.mapping).map fun call =>
    (labelSet call.mapping, call.value)

/-! ### One call -/

/-- What a call does: it sends one difference, or nothing. -/
theorem afterSet_cases (call : SetCall V) (gauge : GaugeImpl V) :
    accepts repr gauge.descriptor call.mapping ∧ gauge.afterSet repr call =
        { gauge with
          lastValues := gauge.lastValues.upsert (labelSetKey call.mapping, call.value)
          otelUpDownCounter := gauge.otelUpDownCounter.add
            (call.value - gauge.lastValue (labelSetKey call.mapping)) call.mapping } ∨
      ¬ accepts repr gauge.descriptor call.mapping ∧ gauge.afterSet repr call = gauge := by
  by_cases haccepted : accepts repr gauge.descriptor call.mapping
  · have hvalid := accepts_iff.mp haccepted
    refine Or.inl ⟨haccepted, ?_⟩
    rw [GaugeImpl.afterSet, GaugeImpl.set, hvalid]
    rfl
  · refine Or.inr ⟨haccepted, ?_⟩
    cases hvalid : validateLabels repr gauge.descriptor call.mapping with
    | ok labels =>
        rw [accepts, hvalid] at haccepted
        exact absurd rfl haccepted
    | error e =>
        rw [GaugeImpl.afterSet, GaugeImpl.set, hvalid]
        rfl

variable {repr}

@[simp] theorem afterSet_descriptor (call : SetCall V) (gauge : GaugeImpl V) :
    (gauge.afterSet repr call).descriptor = gauge.descriptor := by
  rcases afterSet_cases repr call gauge with ⟨-, h⟩ | ⟨-, h⟩ <;> rw [h]

/-! ### The gauge is a reporter

What a gauge shows is the last value for each set of labels.
-/

/-- A gauge and a reporter have sent and remember the same. -/
structure Shows (gauge : GaugeImpl V) (r : Reporter (Finset (String × String)) V) : Prop where
  sent : gauge.otelUpDownCounter.entries = r.sent
  remembers : ∀ labels : Labels, gauge.lastValue (labelSetKey labels) = r.last (labelSet labels)

theorem shows_init (descriptor : MetricDescriptor) :
    Shows (GaugeImpl.init descriptor : GaugeImpl V) Reporter.init := ⟨rfl, fun _ => rfl⟩

theorem lastValue_upsert (gauge : GaugeImpl V) (counter : UpDownCounter V) (labels labels' : Labels)
    (value : V) :
    ({ gauge with
        lastValues := gauge.lastValues.upsert (labelSetKey labels, value)
        otelUpDownCounter := counter } : GaugeImpl V).lastValue (labelSetKey labels') =
      if labelSet labels = labelSet labels' then value else gauge.lastValue (labelSetKey labels') := by
  rw [GaugeImpl.lastValue, Table.get?_upsert]
  simp only [labelSetKey_eq_iff]
  split <;> rfl

/-- A value is set in both. -/
theorem shows_report {gauge : GaugeImpl V} {r : Reporter (Finset (String × String)) V}
    (h : Shows gauge r) {call : SetCall V} (haccepted : accepts repr gauge.descriptor call.mapping) :
    Shows (gauge.afterSet repr call) (r.report (labelSet call.mapping, call.value)) := by
  obtain ⟨-, hafter⟩ | ⟨hrefused, -⟩ := afterSet_cases repr call gauge
  · rw [hafter]
    constructor
    · show (gauge.otelUpDownCounter.add _ _).entries = r.sent ++ [_]
      rw [UpDownCounter.entries_add, h.sent, h.remembers]
    · intro labels
      rw [lastValue_upsert, h.remembers]
      show _ = Function.update r.last (labelSet call.mapping) call.value (labelSet labels)
      by_cases hlabels : labelSet call.mapping = labelSet labels
      · rw [if_pos hlabels, hlabels, Function.update_self]
      · rw [if_neg hlabels, Function.update_of_ne (Ne.symm hlabels)]
  · exact absurd haccepted hrefused

/-- The gauge simulates a reporter of the values that are set. -/
theorem shows_run {descriptor : MetricDescriptor} {gauge : GaugeImpl V}
    {r : Reporter (Finset (String × String)) V} (h : Shows gauge r)
    (hdescriptor : gauge.descriptor = descriptor) (calls : List (SetCall V)) :
    Shows (run (GaugeImpl.afterSet repr) gauge calls)
      (run Reporter.report r (acceptedSets repr descriptor calls)) := by
  induction calls generalizing gauge r with
  | nil => exact h
  | cons call calls ih =>
      have hkept : (gauge.afterSet repr call).descriptor = descriptor := by
        rw [afterSet_descriptor, hdescriptor]
      rw [run_cons, acceptedSets, List.filter_cons]
      by_cases haccepted : accepts repr descriptor call.mapping
      · rw [if_pos haccepted]
        exact ih (shows_report h (hdescriptor ▸ haccepted)) hkept
      · rw [if_neg haccepted]
        obtain ⟨haccepted', -⟩ | ⟨-, hafter⟩ := afterSet_cases repr call gauge
        · exact absurd (hdescriptor ▸ haccepted') haccepted
        · rw [hafter]
          exact ih h hdescriptor

/-! ### The order of labels -/

/-- Two gauges have the same memory and have sent the same to the same label sets. -/
structure SameGauge (gauge gauge' : GaugeImpl V) : Prop where
  descriptor : gauge.descriptor = gauge'.descriptor
  lastValues : gauge.lastValues = gauge'.lastValues
  sent : gauge.otelUpDownCounter.entries = gauge'.otelUpDownCounter.entries

theorem sameGauge_afterSet {gauge gauge' : GaugeImpl V} (h : SameGauge gauge gauge')
    {call call' : SetCall V} (hcall : call.SameUpToOrder call') :
    SameGauge (gauge.afterSet repr call) (gauge'.afterSet repr call') := by
  have hkey := labelSetKey_eq_iff.mpr hcall.labels
  have hdelta : gauge.lastValue (labelSetKey call.mapping) =
      gauge'.lastValue (labelSetKey call'.mapping) := by
    rw [GaugeImpl.lastValue, GaugeImpl.lastValue, h.lastValues, hkey]
  have hguard : accepts repr gauge.descriptor call.mapping =
      accepts repr gauge'.descriptor call'.mapping := by
    rw [h.descriptor, accepts_congr hcall.labels]
  obtain ⟨haccepted, hafter⟩ | ⟨hrefused, hafter⟩ := afterSet_cases repr call gauge <;>
    obtain ⟨haccepted', hafter'⟩ | ⟨hrefused', hafter'⟩ := afterSet_cases repr call' gauge'
  · rw [hafter, hafter']
    refine ⟨h.descriptor, ?_, ?_⟩
    · show gauge.lastValues.upsert _ = gauge'.lastValues.upsert _
      rw [h.lastValues, hkey, hcall.value]
    · show (gauge.otelUpDownCounter.add _ _).entries = (gauge'.otelUpDownCounter.add _ _).entries
      rw [UpDownCounter.entries_add, UpDownCounter.entries_add, h.sent, hdelta, hcall.value,
        hcall.labels]
  · exact absurd (hguard ▸ haccepted) hrefused'
  · exact absurd (hguard ▸ haccepted') hrefused
  · rw [hafter, hafter']
    exact h

theorem sameGauge_run {calls calls' : List (SetCall V)}
    (hcalls : List.Forall₂ SetCall.SameUpToOrder calls calls') {gauge gauge' : GaugeImpl V}
    (h : SameGauge gauge gauge') :
    SameGauge (run (GaugeImpl.afterSet repr) gauge calls)
      (run (GaugeImpl.afterSet repr) gauge' calls') := by
  induction hcalls generalizing gauge gauge' with
  | nil => exact h
  | cons hcall _ ih => exact ih (sameGauge_afterSet h hcall)

/-- **Gauges report what was last set.** After any calls, the differences sent for a label set add up
to the value last set for it. Calls with their labels in another order leave the same memory and send
the same; and a call for one label set sends nothing to another. -/
theorem gauge_reports_last_set (repr : String → String) (descriptor : MetricDescriptor)
    (calls : List (SetCall V)) :
    let gauge : GaugeImpl V := run (GaugeImpl.afterSet repr) (GaugeImpl.init descriptor) calls
    (∀ s, total s gauge.otelUpDownCounter.entries = lastSet s (acceptedSets repr descriptor calls)) ∧
      (∀ calls', List.Forall₂ SetCall.SameUpToOrder calls calls' →
        SameGauge gauge (run (GaugeImpl.afterSet repr) (GaugeImpl.init descriptor) calls')) ∧
      (∀ (call : SetCall V) (s : Finset (String × String)), labelSet call.mapping ≠ s →
        sentTo s (gauge.afterSet repr call).otelUpDownCounter.entries =
          sentTo s gauge.otelUpDownCounter.entries) := by
  intro gauge
  have hshows : Shows gauge (run Reporter.report Reporter.init (acceptedSets repr descriptor calls)) :=
    shows_run (shows_init descriptor) rfl calls
  refine ⟨fun s => ?_, fun calls' hcalls => ?_, fun call s hs => ?_⟩
  · rw [hshows.sent]
    exact Reporter.total_run s (acceptedSets repr descriptor calls)
  · exact sameGauge_run hcalls ⟨rfl, rfl, rfl⟩
  · rcases afterSet_cases repr call gauge with ⟨haccepted, -⟩ | ⟨-, hafter⟩
    · rw [(shows_report hshows haccepted).sent, hshows.sent]
      exact Reporter.sentTo_report_of_ne hs _
    · rw [hafter]

/-- `{"provider": provider, "status": "ok"}`, or with its items the other way round. -/
def callLabels (provider : String) : Labels := ⟨[("provider", provider), ("status", "ok")], by simp⟩

def callLabelsReversed (provider : String) : Labels :=
  ⟨[("status", "ok"), ("provider", provider)], by simp⟩

/-- Two providers in turn, and one of them again with its labels in the other order. -/
def queueDepthCalls : List (SetCall ℤ) :=
  [⟨10, some (callLabels "openai")⟩, ⟨20, some (callLabels "anthropic")⟩,
   ⟨8, some (callLabelsReversed "openai")⟩]

theorem gauge_reports_last_set_queueDepth :
    let descriptor : MetricDescriptor := ⟨["provider", "status"]⟩
    let gauge : GaugeImpl ℤ := run (GaugeImpl.afterSet id) (GaugeImpl.init descriptor) queueDepthCalls
    let openai := labelSet (callLabels "openai")
    total openai gauge.otelUpDownCounter.entries = 8 ∧
      SameGauge gauge (run (GaugeImpl.afterSet id) (GaugeImpl.init descriptor)
        [⟨10, some (callLabelsReversed "openai")⟩, ⟨20, some (callLabels "anthropic")⟩,
         ⟨8, some (callLabels "openai")⟩]) ∧
      sentTo openai (gauge.afterSet id ⟨0, some (callLabels "anthropic")⟩).otelUpDownCounter.entries =
        sentTo openai gauge.otelUpDownCounter.entries := by
  intro descriptor gauge openai
  have hreports := gauge_reports_last_set id descriptor queueDepthCalls
  have hreversed : ∀ value : ℤ, SetCall.SameUpToOrder ⟨value, some (callLabels "openai")⟩
      ⟨value, some (callLabelsReversed "openai")⟩ := fun _ =>
    ⟨rfl, labelSet_eq_iff.mpr (List.Perm.swap ("status", "ok") ("provider", "openai") [])⟩
  refine ⟨(hreports.1 openai).trans (by decide +kernel), hreports.2.1 _ ?_, hreports.2.2 _ _ ?_⟩
  · exact .cons (hreversed 10) (.cons ⟨rfl, rfl⟩ (.cons ⟨rfl, (hreversed 8).labels.symm⟩ .nil))
  · decide +kernel

end Gauge

end Observability

end CartoonDemo
