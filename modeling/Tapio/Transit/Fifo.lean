/-
# First in, first out

A queue with its past. Elements enter at the end, one at a time, and leave from the front in
segments, each for a reason. What has entered is then what has left, segment after segment,
and what still waits; and if nothing entered twice, nothing leaves twice.
-/
import Mathlib.Data.List.Nodup

namespace Transit

universe u v

structure Fifo (κ : Type u) (α : Type v) where
  entered : List α
  /-- The segments that have left, with their reasons. -/
  left : List (κ × List α)
  waiting : List α

namespace Fifo

variable {κ : Type u} {α : Type v}

def empty : Fifo κ α := ⟨[], [], []⟩

def enter (q : Fifo κ α) (x : α) : Fifo κ α :=
  { q with entered := q.entered ++ [x], waiting := q.waiting ++ [x] }

/-- The first elements leave together. -/
def leave (q : Fifo κ α) (reason : κ) (count : ℕ) : Fifo κ α :=
  { q with
    left := q.left ++ [(reason, q.waiting.take count)]
    waiting := q.waiting.drop count }

def leaveAll (q : Fifo κ α) (reason : κ) : Fifo κ α := q.leave reason q.waiting.length

/-- Everything that has left, in order. -/
def gone (q : Fifo κ α) : List α := q.left.flatMap Prod.snd

/-- The segments that left for some reasons. -/
def segments (q : Fifo κ α) (reasons : κ → Bool) : List (List α) :=
  (q.left.filter fun segment => reasons segment.1).map Prod.snd

def InOrder (q : Fifo κ α) : Prop := q.entered = q.gone ++ q.waiting

theorem inOrder_empty : (empty : Fifo κ α).InOrder := rfl

variable {q : Fifo κ α}

theorem InOrder.enter (h : q.InOrder) (x : α) : (q.enter x).InOrder := by
  rw [InOrder, Fifo.enter, ← List.append_assoc]
  exact congrArg (· ++ [x]) h

theorem gone_leave (q : Fifo κ α) (reason : κ) (count : ℕ) :
    (q.leave reason count).gone = q.gone ++ q.waiting.take count := by
  simp [gone, leave]

theorem InOrder.leave (h : q.InOrder) (reason : κ) (count : ℕ) :
    (q.leave reason count).InOrder := by
  rw [InOrder, gone_leave, List.append_assoc]
  exact h.trans (congrArg (q.gone ++ ·) (List.take_append_drop count q.waiting).symm)

@[simp]
theorem waiting_leaveAll (q : Fifo κ α) (reason : κ) : (q.leaveAll reason).waiting = [] :=
  List.drop_length

theorem segments_leave (q : Fifo κ α) (reasons : κ → Bool) (reason : κ) (count : ℕ) :
    (q.leave reason count).segments reasons =
      q.segments reasons ++ if reasons reason then [q.waiting.take count] else [] := by
  cases hreason : reasons reason <;> simp [segments, leave, List.filter_append, hreason]

theorem segments_leaveAll (q : Fifo κ α) (reasons : κ → Bool) (reason : κ) :
    (q.leaveAll reason).segments reasons =
      q.segments reasons ++ if reasons reason then [q.waiting] else [] := by
  rw [leaveAll, segments_leave, List.take_length]

/-- Nothing leaves twice, and nothing that waits has left. -/
theorem InOrder.nodup (h : q.InOrder) (hentered : q.entered.Nodup) :
    (q.gone ++ q.waiting).Nodup := by
  rwa [h] at hentered

/-- Different segments have nothing in common. -/
theorem InOrder.pairwise_disjoint (h : q.InOrder) (hentered : q.entered.Nodup) :
    q.left.Pairwise fun first second => first.2.Disjoint second.2 :=
  (List.nodup_flatMap.mp (h.nodup hentered).of_append_left).2

end Fifo

end Transit
