/-
# Ledgers of items in transit

Items are numbered as they are admitted, wait in a queue, and leave it in order
through one of several exits; an item can also be turned away at the door, which
is an exit of its own. A ledger records the number of admissions, the items
still in transit and the number and exit of each item that has left.

`Balanced` is the conservation law: every number below the admissions is either
in transit or has left, and this once only. Admitting, turning away and leaving
keep it.
-/
import Mathlib.Data.List.Nodup
import Mathlib.Data.List.Range

namespace Transit

universe u v

/-- An item on its way, with the number of its admission. -/
structure Item (ι : Type u) where
  number : ℕ
  content : ι

/-- What has become of the items admitted so far. -/
structure Ledger (ι : Type u) (κ : Type v) where
  admitted : ℕ
  inTransit : List (Item ι)
  /-- The items that have left, with their exits. -/
  left : List (ℕ × κ)

namespace Ledger

variable {ι : Type u} {κ : Type v}

def empty : Ledger ι κ := ⟨0, [], []⟩

/-- Take an item in at the end of the queue. -/
def enter (l : Ledger ι κ) (content : ι) : Ledger ι κ :=
  { l with
    admitted := l.admitted + 1
    inTransit := l.inTransit ++ [⟨l.admitted, content⟩] }

/-- Turn an item away at the door. -/
def turnAway (l : Ledger ι κ) (exit : κ) : Ledger ι κ :=
  { l with admitted := l.admitted + 1, left := (l.admitted, exit) :: l.left }

/-- The entries of items that leave together. -/
def leaving (batch : List (Item ι)) (exit : κ) : List (ℕ × κ) :=
  batch.map fun item => (item.number, exit)

/-- Let a batch leave through an exit, after which the rest is in transit. -/
def leave (l : Ledger ι κ) (batch rest : List (Item ι)) (exit : κ) : Ledger ι κ :=
  { l with inTransit := rest, left := leaving batch exit ++ l.left }

/-- Every admission is accounted for once. -/
def Balanced (l : Ledger ι κ) : Prop :=
  (l.left.map (·.1) ++ l.inTransit.map (·.number)).Perm (List.range l.admitted)

theorem leaving_fst (batch : List (Item ι)) (exit : κ) :
    (leaving batch exit).map (·.1) = batch.map (·.number) := by
  simp [leaving]

theorem mem_leaving {batch : List (Item ι)} {exit : κ} {entry : ℕ × κ}
    (h : entry ∈ leaving batch exit) : entry.2 = exit := by
  obtain ⟨item, -, rfl⟩ := List.mem_map.mp h
  rfl

theorem leaving_ne_nil {batch : List (Item ι)} (h : batch ≠ []) (exit : κ) :
    ∃ entry ∈ leaving batch exit, entry.2 = exit := by
  obtain ⟨item, hitem⟩ := List.exists_mem_of_ne_nil batch h
  exact ⟨(item.number, exit), List.mem_map_of_mem hitem, rfl⟩

theorem countP_leaving [DecidableEq κ] (batch : List (Item ι)) (exit exit' : κ) :
    (leaving batch exit).countP (·.2 = exit') =
      if exit = exit' then batch.length else 0 := by
  rw [leaving, List.countP_map]
  by_cases hexit : exit = exit' <;> simp [Function.comp_def, hexit]

theorem balanced_empty : (empty : Ledger ι κ).Balanced := List.Perm.nil

theorem Balanced.enter {l : Ledger ι κ} (h : l.Balanced) (content : ι) :
    (l.enter content).Balanced := by
  rw [Balanced, Ledger.enter]
  rw [List.map_append, ← List.append_assoc, List.range_succ]
  exact List.Perm.append_right _ h

theorem Balanced.turnAway {l : Ledger ι κ} (h : l.Balanced) (exit : κ) :
    (l.turnAway exit).Balanced := by
  show (l.admitted :: (l.left.map (·.1) ++ l.inTransit.map (·.number))).Perm
    (List.range (l.admitted + 1))
  rw [List.range_succ]
  exact (h.cons _).trans (List.perm_append_singleton _ _).symm

theorem Balanced.leave {l : Ledger ι κ} (h : l.Balanced) {batch rest : List (Item ι)}
    (hsplit : l.inTransit = batch ++ rest) (exit : κ) :
    (l.leave batch rest exit).Balanced := by
  have hmoved : ((leaving batch exit ++ l.left).map (·.1) ++ rest.map (·.number)).Perm
      (l.left.map (·.1) ++ l.inTransit.map (·.number)) := by
    rw [hsplit, List.map_append, leaving_fst, List.map_append, ← List.append_assoc]
    exact List.Perm.append_right _ List.perm_append_comm
  exact hmoved.trans h

/-- Once nothing is in transit, every admitted item has left. -/
theorem Balanced.mem_left {l : Ledger ι κ} (h : l.Balanced) (hempty : l.inTransit = [])
    {number : ℕ} (hadmitted : number < l.admitted) : ∃ exit, (number, exit) ∈ l.left := by
  have hmem : number ∈ l.left.map (·.1) ++ l.inTransit.map (·.number) :=
    h.mem_iff.mpr (List.mem_range.mpr hadmitted)
  rw [hempty, List.map_nil, List.append_nil] at hmem
  obtain ⟨⟨_, exit⟩, hentry, rfl⟩ := List.mem_map.mp hmem
  exact ⟨exit, hentry⟩

theorem Balanced.lt_admitted {l : Ledger ι κ} (h : l.Balanced) {number : ℕ} {exit : κ}
    (hmem : (number, exit) ∈ l.left) : number < l.admitted := by
  have hnumber : number ∈ l.left.map (·.1) := List.mem_map.mpr ⟨_, hmem, rfl⟩
  exact List.mem_range.mp (h.mem_iff.mp (List.mem_append_left _ hnumber))

theorem Balanced.nodup_left {l : Ledger ι κ} (h : l.Balanced) :
    (l.left.map (·.1)).Nodup :=
  (h.nodup_iff.mpr List.nodup_range).of_append_left

/-- No item leaves through two exits. -/
theorem Balanced.exit_unique {l : Ledger ι κ} (h : l.Balanced) {number : ℕ}
    {exit exit' : κ} (hmem : (number, exit) ∈ l.left) (hmem' : (number, exit') ∈ l.left) :
    exit = exit' :=
  congrArg Prod.snd (List.inj_on_of_nodup_map h.nodup_left hmem hmem' rfl)

/-- No item leaves twice. -/
theorem Balanced.count_left [DecidableEq κ] {l : Ledger ι κ} (h : l.Balanced) {number : ℕ}
    {exit : κ} (hmem : (number, exit) ∈ l.left) : l.left.count (number, exit) = 1 :=
  List.count_eq_one_of_mem h.nodup_left.of_map hmem

end Ledger

end Transit
