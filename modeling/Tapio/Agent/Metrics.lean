/-
# The metrics as they are exposed

The counters of the agent with their names, and the text that a scrape reads: for each
counter two lines about it, and one line for each combination of label values that has been
counted, in their order. The loops of the observers see a counter as a number for each
combination.
-/
import Tapio.Agent.Ticks

namespace Tapio.Agent.Metrics

/-- Counters of one name, by the values of their labels. -/
structure CounterVec where
  name : String
  help : String
  labels : List String
  values : BTreeMap (List String) UInt64

def CounterVec.new (name help : String) (labels : List String) : CounterVec :=
  ⟨name, help, labels, ∅⟩

structure TapioMetrics where
  eventsTotal : CounterVec
  anomaliesTotal : CounterVec
  lostEventsTotal : CounterVec
  malformedEventsTotal : CounterVec
  correlationDropsTotal : CounterVec
  drainCapTotal : CounterVec
  sinkWritesTotal : CounterVec
  sinkDropsTotal : CounterVec
  controllerSendFailuresTotal : CounterVec
  configFetchTotal : CounterVec

def TapioMetrics.new : TapioMetrics where
  eventsTotal := .new "tapio_events_total" "Total events drained from ring buffer" ["observer"]
  anomaliesTotal := .new "tapio_anomalies_total" "Total anomalies detected and emitted"
    ["observer", "anomaly_type"]
  lostEventsTotal := .new "tapio_lost_events_total"
    "Ring buffer reserve failures in eBPF (events dropped)" ["observer"]
  malformedEventsTotal := .new "tapio_malformed_events_total"
    "Malformed or truncated eBPF records dropped by userspace" ["observer"]
  correlationDropsTotal := .new "tapio_correlation_drops_total"
    "Events intentionally dropped because kernel correlation was ambiguous" ["observer", "reason"]
  drainCapTotal := .new "tapio_drain_cap_total" "Times ring buffer drain hit the per-tick cap"
    ["observer"]
  sinkWritesTotal := .new "tapio_sink_writes_total" "Total sink write attempts by result"
    ["sink", "result"]
  sinkDropsTotal := .new "tapio_sink_drops_total" "Total sink events dropped by sink and reason"
    ["sink", "reason"]
  controllerSendFailuresTotal := .new "tapio_controller_send_failures_total"
    "Controller send failures by request kind" ["kind"]
  configFetchTotal := .new "tapio_config_fetch_total" "Controller config poll attempts by result"
    ["result"]

/-! ## The text -/

def escapeLabelChar : Char → List Char
  | '\\' => ['\\', '\\']
  | '"' => ['\\', '"']
  | '\n' => ['\\', 'n']
  | other => [other]

/-- A value between quotes. -/
def escapedLabel (value : String) : String := String.ofList (value.toList.flatMap escapeLabelChar)

/-- The labels with their values, if the counter has labels. -/
def CounterVec.encodeLabels (counter : CounterVec) (labelValues : List String) : String :=
  if counter.labels.isEmpty then ""
  else
    "\x7b" ++ ",".intercalate ((counter.labels.zip labelValues).map fun (label, value) =>
      label ++ "=\"" ++ escapedLabel value ++ "\"") ++ "\x7d"

def CounterVec.encodeLine (counter : CounterVec) (labelValues : List String) (value : UInt64) :
    String :=
  counter.name ++ counter.encodeLabels labelValues ++ " " ++ toString value ++ "\n"

def CounterVec.encode (counter : CounterVec) : String :=
  "# HELP " ++ counter.name ++ " " ++ counter.help ++ "\n" ++
    ("# TYPE " ++ counter.name ++ " counter\n") ++
    String.join (counter.values.toList.map fun (labelValues, value) =>
      counter.encodeLine labelValues value)

/-- The counters in the order in which they are exposed. -/
def TapioMetrics.counters (metrics : TapioMetrics) : List CounterVec :=
  [metrics.eventsTotal, metrics.anomaliesTotal, metrics.lostEventsTotal,
    metrics.malformedEventsTotal, metrics.correlationDropsTotal, metrics.drainCapTotal,
    metrics.sinkWritesTotal, metrics.sinkDropsTotal, metrics.controllerSendFailuresTotal,
    metrics.configFetchTotal]

def TapioMetrics.encode (metrics : TapioMetrics) : String :=
  String.join (metrics.counters.map CounterVec.encode)

/-! ## Counting -/

def CounterVec.incBy (counter : CounterVec) (labelValues : List String) (value : UInt64) :
    CounterVec :=
  { counter with
    values := counter.values.insert labelValues
      ((counter.values[labelValues]?).getD 0 + value) }

/-- The counter as the loops of the observers see it. -/
def CounterVec.counts (counter : CounterVec) : Agent.CounterVec :=
  fun labelValues => ((counter.values[labelValues]?).getD 0).toNat

theorem CounterVec.counts_new (name help : String) (labels : List String) :
    (CounterVec.new name help labels).counts = fun _ => 0 := by
  funext labelValues
  simp [counts, CounterVec.new]

/-- **Counting is counting**, as long as the counts fit into words. -/
theorem CounterVec.counts_incBy (counter : CounterVec) (labelValues : List String)
    {value : UInt64} (hfits : counter.counts labelValues + value.toNat < 2 ^ 64) :
    (counter.incBy labelValues value).counts =
      counter.counts.incBy labelValues value.toNat := by
  funext other
  rw [Agent.CounterVec.incBy, counts, incBy, Std.ExtTreeMap.getElem?_insert]
  by_cases hsame : other = labelValues
  · subst hsame
    rw [Function.update_self, if_pos Std.ReflCmp.compare_self, Option.getD_some, UInt64.toNat_add]
    exact Nat.mod_eq_of_lt hfits
  · rw [Function.update_of_ne hsame, if_neg]
    · rfl
    · exact fun heq => hsame (Std.LawfulEqCmp.eq_of_compare heq).symm

end Tapio.Agent.Metrics
