/-
# Character boundaries

A text can be cut after a number of bytes only where a character ends, so only if some front
of it has that many bytes. Short of the last byte it can be cut only if the last character
is a single byte.
-/
import Mathlib.Data.String.Basic
import Tapio.Text.Rust

namespace Text

open String (utf8Len)

theorem utf8Len_toList (s : String) : utf8Len s.toList = s.utf8ByteSize := by
  rw [← String.utf8ByteSize_ofList, String.ofList_toList]

/-- What is taken of a text is its front with that many bytes. -/
theorem takeBytes_eq_some_iff {n : ℕ} {cs front : List Char} :
    takeBytes n cs = some front ↔ front <+: cs ∧ utf8Len front = n := by
  induction cs generalizing n front with
  | nil =>
      rw [List.prefix_nil]
      cases n with
      | zero =>
          rw [takeBytes, Option.some.injEq]
          exact ⟨fun h => ⟨h.symm, h ▸ rfl⟩, fun h => h.1.symm⟩
      | succ n =>
          rw [takeBytes]
          refine iff_of_false (Option.some_ne_none front).symm ?_
          rintro ⟨rfl, h⟩
          cases h
  | cons c rest ih =>
      cases n with
      | zero =>
          rw [takeBytes, Option.some.injEq, String.utf8Len_eq_zero]
          exact ⟨fun h => ⟨h ▸ List.nil_prefix, h.symm⟩, fun h => h.2.symm⟩
      | succ n =>
          rw [takeBytes]
          have hpos := c.utf8Size_pos
          cases front with
          | nil =>
              refine iff_of_false ?_ fun h => Nat.noConfusion h.2
              split <;> simp
          | cons d front =>
              rw [List.cons_prefix_cons, String.utf8Len_cons]
              split
              · simp only [Option.map_eq_some_iff, ih, List.cons.injEq]
                apply Iff.intro
                · rintro ⟨_, ⟨hstart, hlength⟩, rfl, rfl⟩
                  exact ⟨⟨rfl, hstart⟩, by omega⟩
                · rintro ⟨⟨rfl, hstart⟩, hlength⟩
                  exact ⟨front, ⟨hstart, by omega⟩, rfl, rfl⟩
              · refine iff_of_false (Option.some_ne_none _).symm ?_
                rintro ⟨⟨rfl, -⟩, hlength⟩
                omega

/-- One byte short of its end, a text is cut before its last character or not at all. -/
theorem takeBytes_concat (front : List Char) (c : Char) :
    takeBytes (utf8Len (front ++ [c]) - 1) (front ++ [c]) =
      if c.utf8Size = 1 then some front else none := by
  have hpos := c.utf8Size_pos
  have hlength : utf8Len (front ++ [c]) = utf8Len front + c.utf8Size := by simp
  split_ifs with hone
  · exact takeBytes_eq_some_iff.mpr ⟨List.prefix_append _ _, by omega⟩
  · rw [Option.eq_none_iff_forall_ne_some]
    intro taken htaken
    obtain ⟨hstart, htotal⟩ := takeBytes_eq_some_iff.mp htaken
    rcases List.prefix_concat_iff.mp hstart with rfl | hfront
    · omega
    · obtain ⟨rest, rfl⟩ := hfront
      have hparts := String.utf8Len_append taken rest
      omega

end Text
