/-
# The fan-out to the sinks

The observers share one sink, which calls the inner sinks in turn. It holds no lock, so the
calls of the observers interleave at every inner sink; but each observer waits for its call to
return. So every inner sink is called with everything that an observer sends, in the order in
which that observer sends it, whatever the other sinks return and whoever else is calling.
-/
import Mathlib.Logic.Function.Basic
import Tapio.Agent.Ticks
import Tapio.Sink.Events
import Tapio.Transition.Machine

namespace Tapio.Sink

open Transition

inductive SinkCall
  | send (occurrence : Occurrence)
  | flush

def SinkCall.isSend : SinkCall → Bool
  | .send _ => true
  | .flush => false

/-- A call of the fan-out, with the results of the sinks that it has called so far. -/
structure MultiSinkCall where
  call : SinkCall
  results : List (Except SinkError Unit)

def lastErr (results : List (Except SinkError Unit)) : Option SinkError :=
  results.foldl
    (fun last result =>
      match result with
      | .ok () => last
      | .error e => some e) none

/-- What the call returns when all sinks have been called. -/
def MultiSinkCall.result (f : MultiSinkCall) : Except SinkError Unit :=
  match lastErr f.results with
  | some e => .error e
  | none => .ok ()

/-- A sink was called on behalf of a caller. -/
structure Visit (κ : Type) where
  caller : κ
  sink : ℕ
  call : SinkCall
  result : Except SinkError Unit

structure MultiSinkCaller where
  /-- The call that the caller waits for. -/
  underWay : Option MultiSinkCall
  made : List SinkCall
  returned : List MultiSinkCall

structure MultiSinkState (κ : Type) where
  callers : κ → MultiSinkCaller
  /-- All calls of inner sinks, in the order in which they were made. -/
  log : List (Visit κ)
  sinkWritesTotal : Agent.CounterVec

inductive MultiSinkStep (κ : Type)
  | call (caller : κ) (call : SinkCall)
  /-- The next sink is called, and returns a result. -/
  | visit (caller : κ) (result : Except SinkError Unit)
  | finish (caller : κ)

def resultLabel (result : Except SinkError Unit) : String :=
  match result with
  | .ok () => "ok"
  | .error _ => "err"

/-- Only the results of sends are counted. -/
def countWrite (sinkWritesTotal : Agent.CounterVec) (name : String) (call : SinkCall)
    (result : Except SinkError Unit) : Agent.CounterVec :=
  if call.isSend then Agent.CounterVec.incBy sinkWritesTotal [name, resultLabel result] 1
  else sinkWritesTotal

variable {κ : Type} [DecidableEq κ]

def multiSinkStep (names : List String) (s : MultiSinkState κ) :
    MultiSinkStep κ → Option (MultiSinkState κ)
  | .call c call =>
      match (s.callers c).underWay with
      | some _ => none
      | none =>
          some { s with
            callers := Function.update s.callers c { s.callers c with
              underWay := some ⟨call, []⟩
              made := (s.callers c).made ++ [call] } }
  | .visit c result => do
      let f ← (s.callers c).underWay
      let name ← names[f.results.length]?
      return {
        callers := Function.update s.callers c { s.callers c with
          underWay := some ⟨f.call, f.results ++ [result]⟩ }
        log := s.log ++ [⟨c, f.results.length, f.call, result⟩]
        sinkWritesTotal := countWrite s.sinkWritesTotal name f.call result }
  | .finish c => do
      let f ← (s.callers c).underWay
      if f.results.length = names.length then
        return { s with
          callers := Function.update s.callers c { s.callers c with
            underWay := none
            returned := (s.callers c).returned ++ [f] } }
      else none

def multiSinkMachine (names : List String) : Machine (MultiSinkState κ) (MultiSinkStep κ) where
  init := ⟨fun _ => ⟨none, [], []⟩, [], fun _ => 0⟩
  step := multiSinkStep names

/-! ## What the sinks see -/

/-- What a sink was called with on behalf of a caller. -/
def seenBy (log : List (Visit κ)) (c : κ) (sink : ℕ) : List SinkCall :=
  (log.filter fun v => v.caller = c ∧ v.sink = sink).map (·.call)

/-- What the sinks returned to a caller. -/
def resultsTo (log : List (Visit κ)) (c : κ) : List (Except SinkError Unit) :=
  (log.filter fun v => v.caller = c).map (·.result)

/-- The call under way, unless the sink has had it. -/
def toCome (underWay : Option MultiSinkCall) (sink : ℕ) : List SinkCall :=
  match underWay with
  | some f => if f.results.length ≤ sink then [f.call] else []
  | none => []

/-- A caller reaches every sink, and learns what became of it. -/
structure Served (names : List String) (log : List (Visit κ)) (c : κ)
    (caller : MultiSinkCaller) : Prop where
  /-- A sink has seen all that the caller has sent, in order, but what is on its way. -/
  every : ∀ sink < names.length, caller.made = seenBy log c sink ++ toCome caller.underWay sink
  order : caller.made = caller.returned.map (·.call) ++ caller.underWay.toList.map (·.call)
  results : resultsTo log c =
    caller.returned.flatMap (·.results) ++ caller.underWay.toList.flatMap (·.results)
  whole : ∀ f ∈ caller.returned, f.results.length = names.length

/-- Every caller is served, and every result of a send is counted. -/
structure FannedOut (names : List String) (s : MultiSinkState κ) : Prop where
  served : ∀ c, Served names s.log c (s.callers c)
  counted : ∀ name label, s.sinkWritesTotal [name, label] =
    s.log.countP fun v =>
      v.call.isSend ∧ names[v.sink]? = some name ∧ resultLabel v.result = label

theorem seenBy_append (log : List (Visit κ)) (v : Visit κ) (c : κ) (sink : ℕ) :
    seenBy (log ++ [v]) c sink =
      seenBy log c sink ++ if v.caller = c ∧ v.sink = sink then [v.call] else [] := by
  rw [seenBy, List.filter_append, List.map_append, List.filter_singleton, seenBy]
  split_ifs with h <;> simp [h]

theorem resultsTo_append (log : List (Visit κ)) (v : Visit κ) (c : κ) :
    resultsTo (log ++ [v]) c = resultsTo log c ++ if v.caller = c then [v.result] else [] := by
  rw [resultsTo, List.filter_append, List.map_append, List.filter_singleton, resultsTo]
  split_ifs with h <;> simp [h]

variable {names : List String} {log : List (Visit κ)} {c : κ} {caller : MultiSinkCaller}

/-- What is done for others does not concern a caller. -/
theorem Served.other (h : Served names log c caller) {v : Visit κ} (hv : v.caller ≠ c) :
    Served names (log ++ [v]) c caller where
  every sink hsink := by
    rw [seenBy_append, if_neg fun heq => hv heq.1, List.append_nil]
    exact h.every sink hsink
  order := h.order
  results := by
    rw [resultsTo_append, if_neg hv, List.append_nil]
    exact h.results
  whole := h.whole

theorem Served.call (h : Served names log c caller) (hidle : caller.underWay = none)
    (call : SinkCall) :
    Served names log c { caller with
      underWay := some ⟨call, []⟩
      made := caller.made ++ [call] } where
  every sink hsink := by
    have hbefore := h.every sink hsink
    rw [hidle, toCome, List.append_nil] at hbefore
    rw [hbefore]
    rfl
  order := by
    have hbefore := h.order
    rw [hidle] at hbefore
    rw [hbefore]
    simp
  results := by
    have hbefore := h.results
    rw [hidle] at hbefore
    exact hbefore
  whole := h.whole

theorem Served.visit (h : Served names log c caller) {f : MultiSinkCall}
    (hunderWay : caller.underWay = some f) (result : Except SinkError Unit) :
    Served names (log ++ [⟨c, f.results.length, f.call, result⟩]) c { caller with
      underWay := some ⟨f.call, f.results ++ [result]⟩ } where
  every sink hsink := by
    have hbefore := h.every sink hsink
    rw [hunderWay] at hbefore
    rw [hbefore, seenBy_append, List.append_assoc]
    congr 1
    simp only [toCome, List.length_append, List.length_singleton, true_and]
    split_ifs <;> first | rfl | omega
  order := by
    have hbefore := h.order
    rw [hunderWay] at hbefore
    exact hbefore
  results := by
    have hbefore := h.results
    rw [hunderWay] at hbefore
    rw [resultsTo_append, if_pos rfl, hbefore]
    simp
  whole := h.whole

theorem Served.finish (h : Served names log c caller) {f : MultiSinkCall}
    (hunderWay : caller.underWay = some f) (hwhole : f.results.length = names.length) :
    Served names log c { caller with
      underWay := none
      returned := caller.returned ++ [f] } where
  every sink hsink := by
    have hbefore := h.every sink hsink
    rw [hunderWay, toCome, if_neg (by omega)] at hbefore
    exact hbefore
  order := by
    have hbefore := h.order
    rw [hunderWay] at hbefore
    rw [hbefore]
    simp
  results := by
    have hbefore := h.results
    rw [hunderWay] at hbefore
    rw [hbefore]
    simp
  whole := List.forall_mem_append.mpr ⟨h.whole, List.forall_mem_singleton.mpr hwhole⟩

theorem countWrite_apply (sinkWritesTotal : Agent.CounterVec) (name : String) (call : SinkCall)
    (result : Except SinkError Unit) (other label : String) :
    countWrite sinkWritesTotal name call result [other, label] =
      sinkWritesTotal [other, label] +
        if call.isSend ∧ name = other ∧ resultLabel result = label then 1 else 0 := by
  rw [countWrite]
  by_cases hsend : call.isSend
  · rw [if_pos hsend]
    by_cases hsame : [name, resultLabel result] = [other, label]
    · obtain ⟨rfl, hlabel⟩ := List.cons.inj hsame
      obtain rfl := (List.cons.inj hlabel).1
      rw [Agent.CounterVec.incBy_self, if_pos ⟨hsend, rfl, rfl⟩]
    · rw [Agent.CounterVec.incBy_of_ne _ (Ne.symm hsame), if_neg, Nat.add_zero]
      rintro ⟨-, rfl, rfl⟩
      exact hsame rfl
  · rw [if_neg hsend, if_neg fun h => hsend h.1, Nat.add_zero]

variable {s t : MultiSinkState κ}

/-- A step concerns the caller that takes it. -/
theorem served_update {log' : List (Visit κ)} {caller' : MultiSinkCaller}
    (hothers : ∀ other ≠ c, Served names log' other (s.callers other))
    (hcaller : Served names log' c caller') (other : κ) :
    Served names log' other (Function.update s.callers c caller' other) := by
  by_cases hsame : other = c
  · subst hsame
    rw [Function.update_self]
    exact hcaller
  · rw [Function.update_of_ne hsame]
    exact hothers other hsame

/-- One step serves every caller. -/
theorem fannedOut_of_step {a : MultiSinkStep κ} (h : FannedOut names s)
    (hstep : (multiSinkMachine names).step s a = some t) : FannedOut names t := by
  change multiSinkStep names s a = some t at hstep
  cases a with
  | call c call =>
      rw [multiSinkStep] at hstep
      split at hstep
      · cases hstep
      · next hidle =>
          cases hstep
          exact ⟨served_update (fun other _ => h.served other) ((h.served c).call hidle call),
            h.counted⟩
  | visit c result =>
      obtain ⟨f, hunderWay, hrest⟩ := Option.bind_eq_some_iff.mp hstep
      obtain ⟨name, hname, hdone⟩ := Option.bind_eq_some_iff.mp hrest
      cases hdone
      refine ⟨served_update (fun other hne => (h.served other).other hne.symm)
        ((h.served c).visit hunderWay result), fun other label => ?_⟩
      dsimp only
      rw [countWrite_apply, h.counted, List.countP_append, List.countP_singleton, hname]
      simp
  | finish c =>
      obtain ⟨f, hunderWay, hrest⟩ := Option.bind_eq_some_iff.mp hstep
      split_ifs at hrest with hwhole
      cases hrest
      exact ⟨served_update (fun other _ => h.served other) ((h.served c).finish hunderWay hwhole),
        h.counted⟩

theorem fannedOut_init (names : List String) :
    FannedOut names (multiSinkMachine names : Machine (MultiSinkState κ) _).init where
  served _ :=
    { every := fun _ _ => rfl
      order := rfl
      results := rfl
      whole := List.forall_mem_nil _ }
  counted _ _ := rfl

/-! ## What a call returns -/

theorem lastErr_concat (results : List (Except SinkError Unit)) (result : Except SinkError Unit) :
    lastErr (results ++ [result]) =
      match result with
      | .ok () => lastErr results
      | .error e => some e := by
  rw [lastErr, List.foldl_append]
  rfl

theorem lastErr_eq_none_iff (results : List (Except SinkError Unit)) :
    lastErr results = none ↔ ∀ r ∈ results, r = .ok () := by
  induction results using List.reverseRecOn with
  | nil => exact iff_of_true rfl (List.forall_mem_nil _)
  | append_singleton results result ih =>
      rw [lastErr_concat, List.forall_mem_append, List.forall_mem_singleton]
      cases result with
      | ok done => rw [ih, and_iff_left rfl]
      | error e => exact iff_of_false (Option.some_ne_none e) fun h => by cases h.2

/-- A call succeeds if it does so at every sink. -/
theorem MultiSinkCall.result_eq_ok_iff (f : MultiSinkCall) :
    f.result = .ok () ↔ ∀ r ∈ f.results, r = .ok () := by
  rw [← lastErr_eq_none_iff, MultiSinkCall.result]
  cases lastErr f.results with
  | none => exact iff_of_true rfl rfl
  | some e => exact iff_of_false (fun h => by cases h) (Option.some_ne_none e)

/-- **No sink stands in the way of another.** However the calls interleave and whatever the
sinks return, every sink sees all calls of a caller in their order, each result is counted
once, and a call succeeds exactly if it did so at every sink. -/
theorem fannedOut_always (names : List String) (schedule : List (MultiSinkStep κ)) :
    (multiSinkMachine names).Always
      (fun s => FannedOut names s ∧
        ∀ c, ∀ f ∈ (s.callers c).returned, f.result = .ok () ↔ ∀ r ∈ f.results, r = .ok ())
      (multiSinkMachine names).init schedule :=
  Machine.Always.mono (fun _ h => ⟨h, fun _ f _ => f.result_eq_ok_iff⟩)
    (Machine.always_of_preserved fannedOut_of_step (fannedOut_init names) schedule)

end Tapio.Sink
