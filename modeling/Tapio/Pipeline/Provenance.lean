/-
# No evidence out of nothing, and none out of turn

Whatever the parties of the pipeline do, and in whatever order: every event in a batch, and
every event on its way to one, is evidence of an event that a probe submitted under a config
that enabled it, it carries that config's generation, and the controller can accept it. And
the events of one observer are in the order in which its probe submitted what they are
evidence of, none of them twice.
-/
import Tapio.Pipeline.System

namespace Tapio.Pipeline

open Layout Agent Ebpf Sink Wire Controller Transition

/-- What holds between the parties. -/
structure Carried (p : PipelineParams) (s : PipelineRun) : Prop where
  judged : ∀ m ∈ s.kernel.invoked, Judged m
  own : ∀ m ∈ s.kernel.invoked, ∀ event ∈ m.events, source event = m.call.observer
  loops : ∀ observer, LoopInvariant (p.surface.loop observer) (s.loops observer)
  arrived : ∀ observer, (s.loops observer).arrived =
    (submittedBy s.kernel observer).map (record p.surface.endian)
  called : ∀ observer, s.called observer ≤ (s.loops observer).sent.length
  stream : ∀ observer, (s.streamOf observer).Sublist ((s.calls observer).filterMap wireOf)
  named : ∀ event ∈ s.delivery.sink.stream, ∃ observer, event.observer = wireName observer

/-! ## From a call back to the probe -/

section

variable {p : PipelineParams} {s : PipelineRun} {observer : Observer}

theorem Carried.source_submitted (h : Carried p s) {event : KernelEvent}
    (hevent : event ∈ submittedBy s.kernel observer) :
    source event = observer ∧ ∃ m ∈ s.kernel.invoked, event ∈ m.events := by
  obtain ⟨m, hm, hmem⟩ := List.mem_flatMap.mp hevent
  rw [List.mem_reverse] at hm
  split at hmem
  · next hobserver => exact ⟨(h.own m hm event hmem).trans hobserver, m, hm, hmem⟩
  · cases hmem

/-- A record that was taken is one that a probe submitted. -/
theorem Carried.taken_submitted (h : Carried p s) {taken : Taken}
    (htaken : taken ∈ (s.loops observer).taken) :
    ∃ event ∈ submittedBy s.kernel observer, taken.1 = record p.surface.endian event := by
  have hmem : taken.1 ∈ (s.loops observer).arrived := by
    rw [(h.loops observer).order]
    exact List.mem_append_left _ (List.mem_map_of_mem htaken)
  rw [h.arrived observer] at hmem
  obtain ⟨event, hevent, hrecord⟩ := List.mem_map.mp hmem
  exact ⟨event, hevent, hrecord.symm⟩

/-- Every call sends evidence of an event that a probe submitted. -/
theorem Carried.evidence (h : Carried p s) {occurrence : Common.Occurrence}
    (hsent : occurrence ∈ (s.loops observer).sent.map Prod.fst) :
    ∃ event ∈ submittedBy s.kernel observer, ∃ wire, wireOf occurrence = some wire ∧
      Evidence p.surface event wire := by
  rw [(h.loops observer).counted.sent] at hsent
  obtain ⟨anomaly, hanomaly, rfl⟩ := List.mem_map.mp hsent
  obtain ⟨taken, htaken, hfound⟩ := List.mem_filterMap.mp hanomaly
  obtain ⟨event, hevent, hrecord⟩ := h.taken_submitted htaken
  obtain ⟨rfl, -⟩ := h.source_submitted hevent
  obtain ⟨data, around⟩ := taken
  obtain rfl : data = record p.surface.endian event := hrecord
  obtain ⟨wire, hwire, hevidence⟩ := evidence_of_anomaly hfound
  exact ⟨event, hevent, wire, hwire, hevidence⟩

/-- The next call of an observer sends a valid event under its name. -/
theorem Carried.next_call (h : Carried p s) {occurrence : Common.Occurrence}
    {result : Except SinkError Unit}
    (hnext : (s.loops observer).sent[s.called observer]? = some (occurrence, result)) :
    ((s.loops observer).sent.map Prod.fst).take (s.called observer + 1) =
        s.calls observer ++ [occurrence] ∧
      ∃ wire, wireOf occurrence = some wire ∧ wire.observer = wireName observer ∧
        wire.validate = .ok () := by
  have hat : ((s.loops observer).sent.map Prod.fst)[s.called observer]? = some occurrence := by
    rw [List.getElem?_map, hnext]
    rfl
  obtain ⟨event, hevent, wire, hwire, hevidence⟩ := h.evidence (List.mem_of_getElem? hat)
  obtain ⟨around, emitted, -, hacceptable⟩ := hevidence.emitted
  refine ⟨?_, wire, hwire, ?_, hacceptable.accepted⟩
  · rw [List.take_add_one, hat]
    rfl
  · rw [hevidence.observer, (h.source_submitted hevent).1]

end

/-! ## Every step -/

theorem carried_init (p : PipelineParams) : Carried p (pipelineMachine p).init where
  judged := List.forall_mem_nil _
  own := List.forall_mem_nil _
  loops _ := loopInvariant_new
  arrived _ := rfl
  called _ := Nat.zero_le _
  stream _ := List.Sublist.slnil
  named := List.forall_mem_nil _

section

variable {p : PipelineParams} {s : PipelineRun}

/-- A step of a loop leaves the calls that have been made. -/
theorem calls_later {calls calls' : List Common.Occurrence} {count : ℕ}
    (hfront : calls <+: calls') (hcount : count ≤ calls.length) :
    calls'.take count = calls.take count := by
  obtain ⟨later, rfl⟩ := hfront
  exact List.take_append_of_le_length hcount

theorem Carried.kernel (h : Carried p s) (step : KernelStep) :
    Carried p { s with
      kernel := kernelStep s.kernel step
      loops := arrive p.surface s.loops (submission s.kernel step) } := by
  have hloops : ∀ observer, arrive p.surface s.loops (submission s.kernel step) observer =
      loopStep (p.surface.loop observer) (s.loops observer)
        (.arrive ((concerning observer (submission s.kernel step)).map
          (record p.surface.endian))) :=
    arrive_eq p.surface s.loops (submission s.kernel step)
  refine ⟨judged_step h.judged step, ?_, ?_, ?_, ?_, ?_, h.named⟩
  · cases step with
    | invoke call inv =>
        refine List.forall_mem_cons.mpr ⟨fun event hevent => ?_, h.own⟩
        exact source_of_mem_run hevent
    | _ => exact h.own
  · intro observer
    simp only [hloops]
    exact (h.loops observer).arrive _
  · intro observer
    simp only [hloops]
    rw [submittedBy_kernelStep, List.map_append, ← h.arrived observer]
    rfl
  · intro observer
    simp only [hloops]
    exact h.called observer
  · intro observer
    simp only [PipelineRun.streamOf, PipelineRun.calls, hloops]
    exact h.stream observer

theorem Carried.tick (h : Carried p s) {observer : Observer}
    (readings : Option ObserverLoop.Readings) (around : ℕ → Surroundings) :
    Carried p { s with
      loops := Function.update s.loops observer
        ((p.surface.loop observer).tick (s.loops observer) readings around) } := by
  have hfront := sent_prefix_tick (h.loops observer) readings around
  have hlater := later_tick (p.surface.loop observer) (s.loops observer) readings around
  refine ⟨h.judged, h.own, ?_, ?_, ?_, ?_, h.named⟩
  · intro other
    by_cases hother : other = observer
    · subst hother
      simpa using (h.loops other).tick readings around
    · simpa [hother] using h.loops other
  · intro other
    by_cases hother : other = observer
    · subst hother
      simpa [hlater.arrived] using h.arrived other
    · simpa [hother] using h.arrived other
  · intro other
    by_cases hother : other = observer
    · subst hother
      have hlength := hfront.length_le
      simp only [List.length_map] at hlength
      simpa using (h.called other).trans hlength
    · simpa [hother] using h.called other
  · intro other
    by_cases hother : other = observer
    · subst hother
      have hcalls := calls_later hfront (by simpa using h.called other)
      simp only [PipelineRun.streamOf, PipelineRun.calls, Function.update_self, hcalls]
      exact h.stream other
    · simpa [PipelineRun.streamOf, PipelineRun.calls, hother] using h.stream other

/-- A call adds its event to the stream of its observer, if the queue takes it. -/
theorem Carried.call (h : Carried p s) {observer : Observer} {occurrence : Common.Occurrence}
    {result : Except SinkError Unit}
    (hnext : (s.loops observer).sent[s.called observer]? = some (occurrence, result))
    {delivery : DeliveryRun}
    (hstep : deliveryStep p.sink s.delivery (.sink (.send occurrence.forSink)) = some delivery) :
    Carried p { s with
      delivery := delivery
      called := Function.update s.called observer (s.called observer + 1) } := by
  obtain ⟨hcalls, wire, hwire, hobserver, -⟩ := h.next_call hnext
  have hstream : delivery.sink.stream = s.delivery.sink.stream ∨
      delivery.sink.stream = s.delivery.sink.stream ++ [wire] := by
    have hcall := stream_of_call hstep
    rwa [hwire] at hcall
  refine ⟨h.judged, h.own, h.loops, h.arrived, ?_, ?_, ?_⟩
  · intro other
    by_cases hother : other = observer
    · subst hother
      simpa using (List.getElem?_eq_some_iff.mp hnext).1
    · simpa [hother] using h.called other
  · intro other
    have hold := h.stream other
    by_cases hother : other = observer
    · subst hother
      simp only [PipelineRun.streamOf, PipelineRun.calls, Function.update_self, hcalls,
        List.filterMap_append, List.filterMap_cons, hwire, List.filterMap_nil]
      rcases hstream with hsame | hadded
      · rw [hsame]
        exact hold.trans (List.sublist_append_left _ _)
      · rw [hadded, List.filter_append, List.filter_singleton]
        simp only [hobserver, decide_true]
        exact hold.append (List.Sublist.refl _)
    · have hname : ¬ wireName observer = wireName other :=
        fun hname => hother (wireName_injective hname).symm
      have hfilter : delivery.sink.stream.filter
          (fun event => event.observer = wireName other) = s.streamOf other := by
        rcases hstream with hsame | hadded
        · rw [hsame]
          rfl
        · rw [hadded, List.filter_append, List.filter_singleton]
          simp [hobserver, hname, PipelineRun.streamOf]
      simp only [PipelineRun.streamOf, PipelineRun.calls, hfilter,
        Function.update_of_ne hother]
      exact hold
  · intro event hevent
    simp only at hevent
    rcases hstream with hsame | hadded
    · exact h.named event (hsame ▸ hevent)
    · rw [hadded] at hevent
      rcases List.mem_append.mp hevent with hold | hnew
      · exact h.named event hold
      · rw [List.mem_singleton.mp hnew]
        exact ⟨observer, hobserver⟩

theorem Carried.delivery (h : Carried p s) {step : DeliveryStep} (hsend : isSend step = false)
    {delivery : DeliveryRun} (hstep : deliveryStep p.sink s.delivery step = some delivery) :
    Carried p { s with delivery := delivery } := by
  have hstream := stream_of_deliveryStep hsend hstep
  refine ⟨h.judged, h.own, h.loops, h.arrived, h.called, ?_, ?_⟩
  · intro observer
    simp only [PipelineRun.streamOf, hstream]
    exact h.stream observer
  · simp only [hstream]
    exact h.named

end

theorem carried_invariant (p : PipelineParams) : (pipelineMachine p).Invariant (Carried p) where
  init := carried_init p
  step := by
    intro s a t h hstep
    cases a with
    | kernel step =>
        cases hstep
        exact h.kernel step
    | tick observer readings around =>
        obtain ⟨-, hstep⟩ := Option.ite_none_right_eq_some.mp hstep
        cases hstep
        exact h.tick readings around
    | call observer =>
        simp only [pipelineMachine, pipelineStep] at hstep
        split at hstep
        · cases hstep
        · next occurrence result hnext =>
            obtain ⟨delivery, hdelivery, rfl⟩ := Option.map_eq_some_iff.mp hstep
            exact h.call hnext hdelivery
    | delivery step =>
        obtain ⟨hsend, hstep⟩ := Option.ite_none_left_eq_some.mp hstep
        obtain ⟨delivery, hdelivery, rfl⟩ := Option.map_eq_some_iff.mp hstep
        exact h.delivery (Bool.eq_false_iff.mpr hsend) hdelivery

/-! ## Provenance and order -/

/-- A wire event is evidence of what a probe submitted under a config that enabled it, with
the generation of that config, and the controller can accept it. -/
def Genuine (p : PipelineParams) (s : PipelineRun) (wire : WireEvent) : Prop :=
  ∃ m ∈ s.kernel.invoked, ∃ event ∈ m.events,
    Enables m.snapshot m.call.observer ∧
    Evidence p.surface event wire ∧
    wire.facts.get "config_generation" = some (.ofUInt32 m.snapshot.generation) ∧
    wire.validate = .ok ()

/-- The wire events that an observer makes, in order, of the records it has taken. -/
def reported (p : PipelineParams) (s : PipelineRun) (observer : Observer) : List WireEvent :=
  ((p.surface.loop observer).anomalies (s.loops observer).taken).filterMap
    fun anomaly => wireOf anomaly.occurrence

/-- What the controller may get to see is genuine, and each observer's part of it is in the
order in which its probe submitted the records. -/
structure Faithful (p : PipelineParams) (s : PipelineRun) : Prop where
  genuine : ∀ batch ∈ s.delivery.sink.made, ∀ wire ∈ batch.events, Genuine p s wire
  ordered : ∀ observer,
    ((s.delivery.sink.made.flatMap (·.events)).filter
      fun wire => wire.observer = wireName observer).Sublist (reported p s observer)
  taken : ∀ observer, (s.loops observer).taken.map Prod.fst <+:
    (submittedBy s.kernel observer).map (record p.surface.endian)

theorem Carried.genuine {p : PipelineParams} {s : PipelineRun} (h : Carried p s)
    {wire : WireEvent} (hwire : wire ∈ s.delivery.sink.stream) : Genuine p s wire := by
  obtain ⟨observer, hobserver⟩ := h.named wire hwire
  have hown : wire ∈ s.streamOf observer :=
    List.mem_filter.mpr ⟨hwire, decide_eq_true hobserver⟩
  obtain ⟨occurrence, hcall, hof⟩ := List.mem_filterMap.mp ((h.stream observer).subset hown)
  obtain ⟨event, hevent, wire', hwire', hevidence⟩ := h.evidence (List.mem_of_mem_take hcall)
  obtain rfl := Option.some.inj (hwire'.symm.trans hof)
  obtain ⟨-, m, hm, hmem⟩ := h.source_submitted hevent
  obtain ⟨henables, hgeneration⟩ := (h.judged m hm).stamped event hmem
  obtain ⟨around, emitted, hemitted, hacceptable⟩ := hevidence.emitted
  refine ⟨m, hm, event, hmem, henables, hevidence, ?_, hacceptable.accepted⟩
  rw [← hgeneration]
  exact hacceptable.generation

theorem Carried.faithful {p : PipelineParams} {s : PipelineRun} (h : Carried p s) :
    Faithful p s where
  genuine := by
    intro batch hbatch wire hwire
    exact h.genuine (List.mem_append_left _ (List.mem_flatMap.mpr ⟨batch, hbatch, hwire⟩))
  ordered := by
    intro observer
    have hmade : (s.delivery.sink.made.flatMap (·.events)).Sublist s.delivery.sink.stream :=
      List.sublist_append_left _ _
    have hcalls : ((s.calls observer).filterMap wireOf).Sublist (reported p s observer) := by
      have hreported : reported p s observer =
          ((s.loops observer).sent.map Prod.fst).filterMap wireOf := by
        rw [(h.loops observer).counted.sent, List.filterMap_map]
        rfl
      rw [hreported]
      exact (List.take_sublist _ _).filterMap _
    exact ((hmade.filter _).trans (h.stream observer)).trans hcalls
  taken := by
    intro observer
    rw [← h.arrived observer, (h.loops observer).order]
    exact List.prefix_append _ _

/-- **The pipeline is faithful.** In every run, in every state: no event reaches a batch, and
so the controller, but as evidence of a record that a probe submitted under a config that
enabled it, stamped with that config's generation; and the batches hold the evidence of each
observer in the order of its records, none of them twice. -/
theorem faithful_always (p : PipelineParams) (steps : List PipelineStep) :
    (pipelineMachine p).Always (Faithful p) (pipelineMachine p).init steps :=
  ((carried_invariant p).always steps).mono fun _ => Carried.faithful

end Tapio.Pipeline
