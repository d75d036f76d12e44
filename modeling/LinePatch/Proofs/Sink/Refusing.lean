import LinePatch.Sink
import Mathlib.Algebra.GroupWithZero.Nat
import Mathlib.Order.Bounds.Defs

/-!
# A buffer in front of a sink that takes nothing

A buffer hides for a while that the sink behind it takes nothing. Pieces stay in it as long as they fit. The
first that does not, since it is as long as the whole buffer or since too little room is left for it, brings
out the error of the sink, and so does a flush of what has been held back.

## Main definitions

* `Refuses`: a sink that takes no byte
* `Buffered.Exceeds`, `Buffered.Overflows`: a piece that does not stay in a buffer
* `Buffered.Holds`: a buffer that holds all pieces it has been given
* `Buffered.WriteTells`, `Buffered.FlushTells`: what an outcome tells about the pieces

## Main results

* `Buffered.isLeast_overflows`: the first piece that does not stay
* `Buffered.Holds.writeTells`, `Buffered.Holds.flushTells`: the two operations
-/

namespace LinePatch

/-- A sink that takes no byte, and so has nothing to flush. -/
structure Refuses {σ : Type} [Sink σ] (sink : σ) (error : IoError) : Prop where
  writeAll {bytes : Bytes} (hne : bytes ≠ []) : Sink.writeAll bytes sink = .error error sink
  flush : Sink.flush sink = .ok () sink

namespace Buffered

/-! ## Pieces that do not stay -/

/-- A piece of this width does not stay in a buffer that holds `held` bytes. -/
def Exceeds (held width : Nat) : Prop :=
  capacity ≤ width ∨ capacity < held + width

instance (held width : Nat) : Decidable (Exceeds held width) :=
  inferInstanceAs (Decidable (_ ∨ _))

/-- Of pieces of these widths, of which the first finds an empty buffer, the one with this number does not
stay there, even if all before it do. Numbers are counted from one. -/
def Overflows (widths : List Nat) (number : Nat) : Prop :=
  ∃ before width after, widths = before ++ width :: after ∧ number = before.length + 1 ∧
    Exceeds before.sum width

section

variable {widths : List Nat} {width number : Nat}

theorem not_overflows_nil : ¬ Overflows [] number := by
  rintro ⟨before, width, after, hsplit, -, -⟩
  simp at hsplit

theorem Overflows.capacity_le_sum (h : Overflows widths number) : capacity ≤ widths.sum := by
  obtain ⟨before, width, after, rfl, -, hexceeds⟩ := h
  rw [List.sum_append, List.sum_cons]
  rcases hexceeds with hwidth | hsum <;> omega

theorem Overflows.sum_pos (h : Overflows widths number) : 0 < widths.sum :=
  Nat.lt_of_lt_of_le (by decide) h.capacity_le_sum

/-- Whether a piece stays does not depend on those behind it. -/
theorem Overflows.of_append {more : List Nat} (h : Overflows (widths ++ more) number)
    (hnumber : number ≤ widths.length) : Overflows widths number := by
  obtain ⟨before, width, after, hsplit, rfl, hexceeds⟩ := h
  have hbefore : before ++ [width] <+: widths := by
    refine List.prefix_of_prefix_length_le ⟨after, ?_⟩ (List.prefix_append widths more) ?_
    · rw [hsplit, List.append_assoc, List.singleton_append]
    · rwa [List.length_append, List.length_singleton]
  obtain ⟨rest, rfl⟩ := hbefore
  exact ⟨before, width, rest, by rw [List.append_assoc, List.singleton_append], rfl, hexceeds⟩

/-- If all pieces up to one stay and that one does not, it is the first. -/
theorem isLeast_overflows (hstay : ∀ number, ¬ Overflows widths number)
    (hexceeds : Exceeds widths.sum width) (after : List Nat) :
    IsLeast {number | Overflows (widths ++ width :: after) number} (widths.length + 1) := by
  refine ⟨⟨widths, width, after, rfl, rfl, hexceeds⟩, ?_⟩
  intro number hnumber
  refine Nat.lt_of_not_le ?_
  intro hle
  exact hstay number (hnumber.of_append hle)

theorem not_overflows_concat (hstay : ∀ number, ¬ Overflows widths number)
    (hfits : ¬ Exceeds widths.sum width) (number : Nat) : ¬ Overflows (widths ++ [width]) number := by
  intro h
  rcases Nat.lt_or_ge widths.length number with hlast | hle
  · obtain ⟨before, last, after, hsplit, rfl, hexceeds⟩ := h
    have hlength := congrArg List.length hsplit
    simp only [List.length_append, List.length_cons, List.length_nil] at hlength
    obtain ⟨rfl, hwidth⟩ := List.append_inj hsplit (by omega)
    rw [← (List.cons.inj hwidth).1] at hexceeds
    exact hfits hexceeds
  · exact hstay number (h.of_append hle)

end

/-! ## Pieces that stay -/

/-- Pieces of these widths have been put into an empty buffer in front of a sink, and all of them stay. -/
structure Holds {σ : Type} (sink : σ) (widths : List Nat) (out : Buffered σ) : Prop where
  sink_eq : out.sink = sink
  size_eq : out.buffer.size = widths.sum
  stay : ∀ number, ¬ Overflows widths number

theorem Holds.nil {σ : Type} (sink : σ) : Holds sink [] { sink } where
  sink_eq := rfl
  size_eq := rfl
  stay _ := not_overflows_nil

/-! ## The operations of the buffer -/

variable {σ : Type} [Sink σ] {out next : Buffered σ} {sink : σ} {error : IoError}
  {bytes : Bytes} {widths : List Nat}

theorem writeAll_of_not_exceeds (h : ¬ Exceeds out.buffer.size bytes.length) :
    Sink.writeAll bytes out = .ok () { out with buffer := out.buffer ++ bytes } := by
  obtain ⟨hwidth, hsum⟩ := not_or.mp h
  change writeAll bytes out = _
  rw [writeAll, if_neg hsum, put, if_neg hwidth]

section

variable (hrefuses : Refuses out.sink error)

include hrefuses

theorem empty_of_refuses (hne : out.buffer ≠ #[]) :
    out.empty = .error error { out with buffer := #[] } := by
  have hbytes : out.buffer.toList ≠ [] := mt Array.toList_eq_nil_iff.mp hne
  rw [empty, if_neg (mt Array.isEmpty_iff.mp hne), pass, hrefuses.writeAll hbytes]

/-- A piece that does not stay brings out the error: either it goes past the buffer, or the buffer is emptied
for it. -/
theorem exists_writeAll_of_exceeds (h : Exceeds out.buffer.size bytes.length) :
    ∃ next, Sink.writeAll bytes out = .error error next := by
  change ∃ next, writeAll bytes out = .error error next
  have hput (hwidth : capacity ≤ bytes.length) : out.put bytes = .error error out := by
    have hne : bytes ≠ [] := by
      rintro rfl
      exact absurd hwidth (by decide)
    rw [put, if_pos hwidth, pass, hrefuses.writeAll hne]
  unfold writeAll
  split
  next hsum =>
    by_cases hbuffer : out.buffer = #[]
    · rw [empty_of_buffer_eq_empty hbuffer]
      rw [hbuffer, Array.size_empty, Nat.zero_add] at hsum
      exact ⟨out, hput (Nat.le_of_lt hsum)⟩
    · rw [empty_of_refuses hrefuses hbuffer]
      exact ⟨_, rfl⟩
  next hsum => exact ⟨out, hput (h.resolve_right hsum)⟩

theorem flush_of_buffer_eq_empty (hbuffer : out.buffer = #[]) : Sink.flush out = .ok () out := by
  change flush out = _
  rw [flush, empty_of_buffer_eq_empty hbuffer]
  simp only [hrefuses.flush]

theorem flush_of_buffer_ne_empty (hbuffer : out.buffer ≠ #[]) :
    Sink.flush out = .error error { out with buffer := #[] } := by
  change flush out = _
  rw [flush, empty_of_refuses hrefuses hbuffer]

end

/-! ## What the operations tell -/

/-- What the outcome of writing a piece of some width tells, behind pieces that all stay. -/
def WriteTells (sink : σ) (error : IoError) (widths : List Nat) (width : Nat) :
    EStateM.Result IoError (Buffered σ) Unit → Prop
  | .ok () next => Holds sink (widths ++ [width]) next
  | .error error' _ => error' = error ∧ Exceeds widths.sum width

/-- What the outcome of a flush tells, behind pieces that all stay. -/
def FlushTells (error : IoError) (widths : List Nat) : EStateM.Result IoError (Buffered σ) Unit → Prop
  | .ok () _ => widths.sum = 0
  | .error error' _ => error' = error ∧ 0 < widths.sum

namespace Holds

variable (h : Holds sink widths out) (hrefuses : Refuses sink error)

include h hrefuses

theorem writeTells (bytes : Bytes) :
    WriteTells sink error widths bytes.length (Sink.writeAll bytes out) := by
  rw [← h.sink_eq] at hrefuses
  by_cases hexceeds : Exceeds out.buffer.size bytes.length
  · obtain ⟨_, hwrite⟩ := exists_writeAll_of_exceeds hrefuses hexceeds
    rw [hwrite]
    rw [h.size_eq] at hexceeds
    exact ⟨rfl, hexceeds⟩
  · rw [writeAll_of_not_exceeds hexceeds]
    rw [h.size_eq] at hexceeds
    exact
      { sink_eq := h.sink_eq
        size_eq := by
          rw [List.sum_append, List.sum_singleton, ← h.size_eq, ← Array.length_toList,
            Array.toList_appendList, List.length_append, Array.length_toList]
        stay := not_overflows_concat h.stay hexceeds }

theorem flushTells : FlushTells error widths (Sink.flush out) := by
  rw [← h.sink_eq] at hrefuses
  by_cases hbuffer : out.buffer = #[]
  · rw [flush_of_buffer_eq_empty hrefuses hbuffer, FlushTells, ← h.size_eq, hbuffer, Array.size_empty]
  · rw [flush_of_buffer_ne_empty hrefuses hbuffer, FlushTells, ← h.size_eq]
    exact ⟨rfl, Array.size_pos_iff.mpr hbuffer⟩

end Holds

end Buffered

end LinePatch
