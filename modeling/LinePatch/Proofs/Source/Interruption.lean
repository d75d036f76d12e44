import LinePatch.Proofs.Script
import LinePatch.Source

/-!
# Interrupted fills

A fill that was interrupted is made again, and the part of the line that was read before is kept. So
reading a line gives the same whether some interruptions stand among the fills or not, and what it leaves
differs only in interruptions further on.

## Main definitions

* `Fill.isInterruption`: the fill failed but is made again
* `Source.Calmed`: a source and one that lacks some of its interruptions

## Main results

* `Source.calmedRead_readLine`: reading a line does not show interruptions
-/

namespace LinePatch

/-- The fill failed, but is made again. -/
def Fill.isInterruption : Fill → Bool
  | .chunk _ => false
  | .failure error => error.isInterrupted

namespace Source

/-! ## The equations of reading a line -/

section Equations

variable {taken unread rest : Bytes} {b : UInt8} {error : IoError} {fills : List Fill}

theorem readLineFrom_of_dropWhile_cons (h : unread.dropWhile (· ≠ newline) = b :: rest) :
    readLineFrom taken unread fills =
      .line (taken.reverse ++ (unread.takeWhile (· ≠ newline) ++ [b])) { unread := rest, fills } := by
  rw [readLineFrom.eq_def, h]

/-- Without a line break all that has arrived belongs to the line. -/
theorem readLineFrom_of_dropWhile_nil (h : unread.dropWhile (· ≠ newline) = []) :
    readLineFrom taken unread fills = readLineFrom (unread.reverseAux taken) [] fills := by
  rw [readLineFrom.eq_def, h, readLineFrom.eq_def (unread.reverseAux taken)]
  rfl

theorem readLineFrom_interrupted (h : error.isInterrupted) :
    readLineFrom taken [] (.failure error :: fills) = readLineFrom taken [] fills := by
  rw [readLineFrom.eq_def]
  simp [h]

theorem readLineFrom_failed (h : ¬ error.isInterrupted) :
    readLineFrom taken [] (.failure error :: fills) = .failed error (ofFills fills) := by
  rw [readLineFrom.eq_def]
  simp [h]

end Equations

/-! ## Reading without some interruptions -/

/-- `calm` is `source` without some of the interruptions among its fills to come. -/
structure Calmed (source calm : Source) : Prop where
  unread_eq : calm.unread = source.unread
  fills : Omits Fill.isInterruption source.fills calm.fills

/-- Both reads gave the same, and left the same but for some interruptions. -/
inductive CalmedRead : LineRead → LineRead → Prop
  | line {bytes rest calm} (h : Calmed rest calm) : CalmedRead (.line bytes rest) (.line bytes calm)
  | ended {rest calm} (h : Calmed rest calm) : CalmedRead (.ended rest) (.ended calm)
  | failed {error rest calm} (h : Calmed rest calm) :
      CalmedRead (.failed error rest) (.failed error calm)

theorem calmed_ofFills {fills calm : List Fill} (h : Omits Fill.isInterruption fills calm) :
    Calmed (ofFills fills) (ofFills calm) :=
  ⟨rfl, h⟩

theorem calmedRead_endLine (taken : Bytes) {fills calm : List Fill}
    (h : Omits Fill.isInterruption fills calm) :
    CalmedRead (endLine taken (ofFills fills)) (endLine taken (ofFills calm)) := by
  cases taken with
  | nil => exact .ended (calmed_ofFills h)
  | cons b taken => exact .line (calmed_ofFills h)

theorem calmedRead_readLineFrom {fills calm : List Fill} (h : Omits Fill.isInterruption fills calm)
    (taken unread : Bytes) :
    CalmedRead (readLineFrom taken unread fills) (readLineFrom taken unread calm) := by
  induction h generalizing taken unread with
  | nil =>
    cases hdrop : unread.dropWhile (· ≠ newline) with
    | cons b rest =>
      rw [readLineFrom_of_dropWhile_cons hdrop]
      exact .line ⟨rfl, .nil⟩
    | nil =>
      rw [readLineFrom_of_dropWhile_nil hdrop]
      exact calmedRead_endLine _ .nil
  | @keep fill fills calm h ih =>
    cases hdrop : unread.dropWhile (· ≠ newline) with
    | cons b rest =>
      rw [readLineFrom_of_dropWhile_cons hdrop, readLineFrom_of_dropWhile_cons hdrop]
      exact .line ⟨rfl, h.keep fill⟩
    | nil =>
      rw [readLineFrom_of_dropWhile_nil hdrop, readLineFrom_of_dropWhile_nil hdrop]
      match fill with
      | .chunk [] => exact calmedRead_endLine _ h
      | .chunk (b :: bytes) => exact ih _ (b :: bytes)
      | .failure error =>
        by_cases herror : error.isInterrupted
        · rw [readLineFrom_interrupted herror, readLineFrom_interrupted herror]
          exact ih _ []
        · rw [readLineFrom_failed herror, readLineFrom_failed herror]
          exact .failed (calmed_ofFills h)
  | @skip fill fills calm hfill h ih =>
    cases hdrop : unread.dropWhile (· ≠ newline) with
    | cons b rest =>
      rw [readLineFrom_of_dropWhile_cons hdrop, readLineFrom_of_dropWhile_cons hdrop]
      exact .line ⟨rfl, h.skip hfill⟩
    | nil =>
      rw [readLineFrom_of_dropWhile_nil hdrop, readLineFrom_of_dropWhile_nil hdrop]
      match fill with
      | .chunk bytes => cases hfill
      | .failure error =>
        rw [readLineFrom_interrupted hfill]
        exact ih _ []

/-- Reading a line does not show interruptions. -/
theorem calmedRead_readLine {source calm : Source} (h : Calmed source calm) :
    CalmedRead source.readLine calm.readLine := by
  rw [readLine, readLine, h.unread_eq]
  exact calmedRead_readLineFrom h.fills [] source.unread

end Source

end LinePatch
