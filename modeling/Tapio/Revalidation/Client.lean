/-
# Clients that skip what they hold

A client applies the values it is served. A revalidating client remembers the tag of
the value it applied last and skips a value with the same tag. Whether it ends up where
a client that applies everything ends up depends on three things only: that different
values have different tags, that to apply a value twice is to apply it once, and that
whatever else happens to both clients keeps them alike.
-/
import Mathlib.Data.Set.Function

namespace Revalidation

universe u v w x

/-- What a client does with a value it is served, in an envelope of no importance. -/
structure Client (σ : Type u) (Value : Type v) (Envelope : Type w) (Tag : Type x) where
  tag : Value → Tag
  apply : Value → Envelope → σ → σ
  /-- The state shows what the value prescribes. -/
  Holds : Value → σ → Prop
  /-- The states differ by envelopes only. -/
  Same : σ → σ → Prop

variable {σ : Type u} {Value : Type v} {Envelope : Type w} {Tag : Type x}

namespace Client

/-- Applying is idempotent and respects likeness. -/
structure Lawful (C : Client σ Value Envelope Tag) : Prop where
  trans : ∀ {s t r}, C.Same s t → C.Same t r → C.Same s r
  apply_congr : ∀ v e {s t}, C.Same s t → C.Same (C.apply v e s) (C.apply v e t)
  holds_apply : ∀ v e s, C.Holds v (C.apply v e s)
  same_apply : ∀ {v s} e, C.Holds v s → C.Same s (C.apply v e s)

variable (C : Client σ Value Envelope Tag)

/-- Skip a value with the tag of the held one. -/
def revalidate [DecidableEq Tag] (held : Option Value) (v : Value) (e : Envelope) (s : σ) : σ :=
  if held.map C.tag = some (C.tag v) then s else C.apply v e s

/-- Two clients that hold the same value, one of the values that are served. -/
structure Synchronised (served : Set Value) (held : Option Value) (s t : σ) : Prop where
  same : C.Same s t
  involved : ∀ v ∈ held, v ∈ served
  holds : ∀ v ∈ held, C.Holds v s ∧ C.Holds v t

variable {C}

/-- **Skipping is harmless.** When no two served values have the same tag, a client that
revalidates and one that applies everything stay alike, and both hold what was served. -/
theorem Synchronised.fetch [DecidableEq Tag] (hC : C.Lawful) {served : Set Value}
    (htags : Set.InjOn C.tag served) {held : Option Value} {s t : σ}
    (h : C.Synchronised served held s t) {v : Value} (hv : v ∈ served) (e : Envelope) :
    C.Synchronised served (some v) (C.revalidate held v e s) (C.apply v e t) := by
  have hinvolved : ∀ w ∈ some v, w ∈ served := by
    rintro w ⟨⟩
    exact hv
  have happlied := hC.apply_congr v e h.same
  rw [revalidate]
  split
  · next hskip =>
      obtain ⟨w, hw, htag⟩ := Option.map_eq_some_iff.mp hskip
      obtain rfl : w = v := htags (h.involved w hw) hv htag
      have hheld := (h.holds w hw).1
      refine ⟨hC.trans (hC.same_apply e hheld) happlied, hinvolved, ?_⟩
      rintro _ ⟨⟩
      exact ⟨hheld, hC.holds_apply w e t⟩
  · next =>
      refine ⟨happlied, hinvolved, ?_⟩
      rintro _ ⟨⟩
      exact ⟨hC.holds_apply v e s, hC.holds_apply v e t⟩

/-- What happens to both clients, without taking from them what they hold, keeps them
together. -/
theorem Synchronised.both {served : Set Value} {held : Option Value} {s t s' t' : σ}
    (h : C.Synchronised served held s t) (hsame : C.Same s t → C.Same s' t')
    (hs : ∀ v ∈ held, C.Holds v s → C.Holds v s')
    (ht : ∀ v ∈ held, C.Holds v t → C.Holds v t') : C.Synchronised served held s' t' where
  same := hsame h.same
  involved := h.involved
  holds v hv := ⟨hs v hv (h.holds v hv).1, ht v hv (h.holds v hv).2⟩

end Client

end Revalidation
