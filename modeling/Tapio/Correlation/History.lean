/-
# Correlating starts with finishes by a key that is not unique

A probe that sees requests start and finish, but can tell them apart only by a
key several requests may share, keeps one slot for each key: the first start
fills it, a second start marks it ambiguous, and a finish empties it. This
module studies that discipline on its own, for requests of any type.

Histories are lists of events, newest first. `pending` is what the slot can
know: the requests started under a key since the latest finish under it.
`inFlight` is what is true: the requests started and not yet finished. The two
drift apart once a finish empties a slot while another request of its key is
still in flight, and the results say how far. Under `Unorphaned` histories an
unambiguous slot names the request that finishes, and the first start that
breaks this discipline leaves a slot that names the wrong one. A finish that
finds an ambiguous slot is the finish of a request that shared its key; the
converse fails, because the first finish of a shared key empties the slot for
the others.
-/
import Mathlib.Data.List.Count
import Mathlib.Data.List.Infix

namespace Correlation

universe u v

/-- What the probe sees of a request. -/
inductive Event (ρ : Type u)
  | issue (request : ρ)
  | complete (request : ρ)

/-- The content of an occupied slot. -/
structure Slot (ρ : Type u) where
  /-- The request whose start filled the slot. -/
  holder : ρ
  /-- Whether another start under the key was seen since. -/
  ambiguous : Bool

variable {ρ : Type u} {κ : Type v} [DecidableEq ρ] [DecidableEq κ] (key : ρ → κ)

/-- The requests started under a key since the latest finish under it, oldest
first. -/
def pending (k : κ) : List (Event ρ) → List ρ
  | [] => []
  | .issue r :: older => if key r = k then pending k older ++ [r] else pending k older
  | .complete r :: older => if key r = k then [] else pending k older

/-- The slot that a list of pending starts leaves behind. -/
def Slot.ofPending : List ρ → Option (Slot ρ)
  | [] => none
  | [r] => some ⟨r, false⟩
  | r :: _ :: _ => some ⟨r, true⟩

/-- The slot of a key after a history. -/
def slot (k : κ) (history : List (Event ρ)) : Option (Slot ρ) :=
  Slot.ofPending (pending key k history)

/-- The requests started and not yet finished, oldest first. -/
def inFlight : List (Event ρ) → List ρ
  | [] => []
  | .issue r :: older => inFlight older ++ [r]
  | .complete r :: older => (inFlight older).erase r

/-- Every request that was ever started. -/
def issued : List (Event ρ) → List ρ
  | [] => []
  | .issue r :: older => r :: issued older
  | .complete _ :: older => issued older

/-- Each request starts once and finishes at most once, after its start. -/
def WellFormed : List (Event ρ) → Prop
  | [] => True
  | .issue r :: older => r ∉ issued older ∧ WellFormed older
  | .complete r :: older => r ∈ inFlight older ∧ WellFormed older

/-- A start is safe when no request of its key is in flight with an empty slot:
such a request would later be taken for the new one. -/
def SafeIssue (r : ρ) (older : List (Event ρ)) : Prop :=
  ∀ q ∈ inFlight older, key q = key r → pending key (key r) older ≠ []

/-- Every start in the history was safe when it happened. -/
def Unorphaned : List (Event ρ) → Prop
  | [] => True
  | .issue r :: older => SafeIssue key r older ∧ Unorphaned older
  | .complete _ :: older => Unorphaned older

/-- At this moment the request is in flight together with another one of its
key. -/
def SharedAt (r : ρ) (moment : List (Event ρ)) : Prop :=
  r ∈ inFlight moment ∧ ∃ q ∈ inFlight moment, q ≠ r ∧ key q = key r

/-- At some moment of the history the request shared its key with another
request in flight. -/
def Shared (r : ρ) (history : List (Event ρ)) : Prop :=
  ∃ moment ∈ history.tails, SharedAt key r moment

instance (r : ρ) (moment : List (Event ρ)) : Decidable (SharedAt key r moment) :=
  inferInstanceAs (Decidable (_ ∧ _))

instance (r : ρ) (history : List (Event ρ)) : Decidable (Shared key r history) :=
  inferInstanceAs (Decidable (∃ moment ∈ history.tails, SharedAt key r moment))

/-- The finishes of a history, each with the history before it. -/
def completions : List (Event ρ) → List (ρ × List (Event ρ))
  | [] => []
  | .issue _ :: older => completions older
  | .complete r :: older => (r, older) :: completions older

/-- The finishes that found an ambiguous slot. -/
def ambiguousCompletions (history : List (Event ρ)) : ℕ :=
  (completions history).countP fun c => 2 ≤ (pending key (key c.1) c.2).length

/-- The finishes of requests that shared their key while in flight. -/
def sharedCompletions (history : List (Event ρ)) : ℕ :=
  (completions history).countP fun c => Shared key c.1 c.2

/-! ## Slots -/

omit [DecidableEq ρ] in
/-- A finish empties the slot of its key and no other. -/
theorem slot_complete (k : κ) (r : ρ) (older : List (Event ρ)) :
    slot key k (.complete r :: older) =
      if key r = k then none else slot key k older := by
  by_cases hk : key r = k <;> simp [slot, pending, hk, Slot.ofPending]

omit [DecidableEq ρ] in
/-- A start fills an empty slot of its key and marks an occupied one. -/
theorem slot_issue (k : κ) (r : ρ) (older : List (Event ρ)) :
    slot key k (.issue r :: older) =
      if key r = k then
        match slot key k older with
        | none => some ⟨r, false⟩
        | some occupied => some { occupied with ambiguous := true }
      else slot key k older := by
  by_cases hk : key r = k
  · simp only [slot, pending, if_pos hk]
    match pending key k older with
    | [] => rfl
    | [_] => rfl
    | _ :: _ :: _ => rfl
  · simp [slot, pending, hk]

omit [DecidableEq ρ] in
/-- An unambiguous slot stands for exactly one pending start. -/
theorem pending_of_slot_unambiguous {k : κ} {history : List (Event ρ)} {q : ρ}
    (hslot : slot key k history = some ⟨q, false⟩) :
    pending key k history = [q] := by
  simp only [slot] at hslot
  match hpend : pending key k history with
  | [] => simp [hpend, Slot.ofPending] at hslot
  | [p] => simpa [hpend, Slot.ofPending] using hslot
  | p :: p' :: rest => simp [hpend, Slot.ofPending] at hslot

/-! ## Pending starts against requests in flight -/

/-- A well-formed history's requests are in flight only after being started. -/
theorem issued_of_inFlight {history : List (Event ρ)} {q : ρ}
    (hq : q ∈ inFlight history) : q ∈ issued history := by
  induction history with
  | nil => simp [inFlight] at hq
  | cons e older ih =>
      cases e with
      | issue r =>
          rcases List.mem_append.mp hq with hq | hq
          · exact List.mem_cons_of_mem _ (ih hq)
          · rw [List.mem_singleton.mp hq]
            exact List.mem_cons_self
      | complete r => exact ih (List.mem_of_mem_erase hq)

/-- A request finishes at most once, so the requests in flight are distinct. -/
theorem nodup_inFlight {history : List (Event ρ)} (hwf : WellFormed history) :
    (inFlight history).Nodup := by
  induction history with
  | nil => exact List.nodup_nil
  | cons e older ih =>
      cases e with
      | issue r =>
          have hfresh : r ∉ inFlight older := fun hr => hwf.1 (issued_of_inFlight hr)
          rw [inFlight, List.nodup_append]
          refine ⟨ih hwf.2, by simp, ?_⟩
          rintro a ha b hb rfl
          rw [List.mem_singleton] at hb
          exact hfresh (hb ▸ ha)
      | complete r => exact (ih hwf.2).erase r

/-- Pending starts are a selection of the requests in flight: whatever finished
under the key emptied the slot. -/
theorem pending_sublist_inFlight (k : κ) (history : List (Event ρ)) :
    (pending key k history).Sublist ((inFlight history).filter (key · = k)) := by
  induction history with
  | nil => exact List.Sublist.slnil
  | cons e older ih =>
      cases e with
      | issue r =>
          by_cases hk : key r = k
          · simpa [pending, inFlight, hk] using ih.append (List.Sublist.refl [r])
          · simpa [pending, inFlight, hk] using ih
      | complete r =>
          by_cases hk : key r = k
          · simp [pending, hk]
          · have hout : r ∉ (inFlight older).filter (key · = k) := by
              simp [hk]
            rw [inFlight, ← List.erase_filter, List.erase_of_not_mem hout]
            simpa [pending, hk] using ih

/-- In an unorphaned history a slot is empty or knows every request of its key
that is in flight. -/
theorem pending_eq_inFlight (k : κ) {history : List (Event ρ)}
    (hsafe : Unorphaned key history) (hpend : pending key k history ≠ []) :
    (inFlight history).filter (key · = k) = pending key k history := by
  induction history with
  | nil => simp [pending] at hpend
  | cons e older ih =>
      cases e with
      | issue r =>
          obtain ⟨hissue, hsafe⟩ := hsafe
          by_cases hk : key r = k
          · have holder : (inFlight older).filter (key · = k) = pending key k older := by
              by_cases hempty : pending key k older = []
              · rw [hempty, List.filter_eq_nil_iff]
                intro q hq hqk
                have hqr : key q = key r := by simp_all
                exact hissue q hq hqr (hk ▸ hempty)
              · exact ih hsafe hempty
            simp [pending, inFlight, hk, holder]
          · simpa [pending, inFlight, hk] using
              ih hsafe (by simpa [pending, hk] using hpend)
      | complete r =>
          by_cases hk : key r = k
          · simp [pending, hk] at hpend
          · have hout : r ∉ (inFlight older).filter (key · = k) := by
              simp [hk]
            rw [inFlight, ← List.erase_filter, List.erase_of_not_mem hout]
            simpa [pending, hk] using ih hsafe (by simpa [pending, hk] using hpend)

/-- **Unambiguous slots are right.** In an unorphaned history, an unambiguous
slot found by a finish names the request that finishes. -/
theorem holder_eq_of_unorphaned {history : List (Event ρ)} {q r : ρ}
    (hsafe : Unorphaned key history) (hr : r ∈ inFlight history)
    (hslot : slot key (key r) history = some ⟨q, false⟩) : q = r := by
  have hpend := pending_of_slot_unambiguous key hslot
  have hflight := pending_eq_inFlight key (key r) hsafe (by simp [hpend])
  have hmem : r ∈ (inFlight history).filter (key · = key r) := by simp [hr]
  rw [hflight, hpend] at hmem
  exact (List.mem_singleton.mp hmem).symm

/-- **Unsafe starts are wrong.** After an unsafe start, the slot is unambiguous
and names the new request while another one of its key is in flight. -/
theorem slot_of_unsafe {older : List (Event ρ)} {r : ρ} (hfresh : r ∉ issued older)
    (hrisky : ¬ SafeIssue key r older) :
    slot key (key r) (.issue r :: older) = some ⟨r, false⟩ ∧
      ∃ q ∈ inFlight (.issue r :: older), q ≠ r ∧ key q = key r := by
  simp only [SafeIssue] at hrisky
  push Not at hrisky
  obtain ⟨q, hq, hqk, hempty⟩ := hrisky
  refine ⟨by simp [slot, pending, hempty, Slot.ofPending], q,
    List.mem_append_left _ hq, ?_, hqk⟩
  rintro rfl
  exact hfresh (issued_of_inFlight hq)

/-! ## Counting finishes that shared their key -/

/-- A finish that finds at least two pending starts shared its key. -/
theorem shared_of_pending {history : List (Event ρ)} {r : ρ}
    (hwf : WellFormed history) (hr : r ∈ inFlight history)
    (hpend : 2 ≤ (pending key (key r) history).length) : Shared key r history := by
  have hsub := pending_sublist_inFlight key (key r) history
  have hnodup := ((nodup_inFlight hwf).filter (key · = key r)).sublist hsub
  obtain ⟨q, hq, hne⟩ : ∃ q ∈ pending key (key r) history, q ≠ r := by
    match hp : pending key (key r) history with
    | [] => simp [hp] at hpend
    | [_] => simp [hp] at hpend
    | a :: b :: rest =>
        by_cases ha : a = r
        · refine ⟨b, by simp, fun hb => ?_⟩
          simp [hp, ha, hb] at hnodup
        · exact ⟨a, by simp, ha⟩
  have hqmem := List.mem_filter.mp (hsub.subset hq)
  exact ⟨history, (List.mem_tails _ _).mpr List.suffix_rfl,
    hr, q, hqmem.1, hne, by simpa using hqmem.2⟩

omit [DecidableEq ρ] in
@[simp]
theorem ambiguousCompletions_complete (r : ρ) (older : List (Event ρ)) :
    ambiguousCompletions key (.complete r :: older) =
      ambiguousCompletions key older +
        if 2 ≤ (pending key (key r) older).length then 1 else 0 := by
  simp [ambiguousCompletions, completions, List.countP_cons]

@[simp]
theorem sharedCompletions_complete (r : ρ) (older : List (Event ρ)) :
    sharedCompletions key (.complete r :: older) =
      sharedCompletions key older + if Shared key r older then 1 else 0 := by
  simp [sharedCompletions, completions, List.countP_cons]

end Correlation
