import LinePatch.Proofs.Script
import LinePatch.Source

/-!
# What reading consumes

Reading takes fills from a source and bytes from those that have arrived. `Consumed` relates a source to
what is left of it: the bytes that went, and the errors of the fills that failed for good. Nothing gets
lost in between, and nothing is taken that is not needed: a line ends at its line break, and a failure
ends the reading.

## Main definitions

* `Fill.error?`: the error by which a fill ends the reading
* `Source.bytes`: the bytes of a source
* `Source.Consumed`: what went from a source

## Main results

* `Source.Consumed.trans`: consumption adds up
* `Source.consumed_of_readLine_line`, `_ended`, `_failed`: what reading a line consumes
-/

namespace LinePatch

/-- The error of a fill that failed for good; an interrupted fill is made again. -/
def Fill.error? : Fill → Option IoError
  | .chunk _ => none
  | .failure error => if error.isInterrupted then none else some error

namespace Source

/-- The bytes in a source and in its fills to come. -/
def bytes (source : Source) : Bytes :=
  source.unread ++ delivered source.fills

@[simp] theorem delivered_nil : delivered [] = [] := rfl

@[simp] theorem bytes_ofFills (fills : List Fill) : (ofFills fills).bytes = delivered fills := rfl

/-! ## Consumption -/

/-- Of `source` there is left `rest`: fills were taken, of which those with the given errors failed for
good, and the given bytes were read. No byte gets lost and none is read twice. -/
structure Consumed (source rest : Source) (errors : List IoError) (bytes : Bytes) : Prop where
  took : Took Fill.error? source.fills rest.fills errors
  bytes_eq : source.bytes = bytes ++ rest.bytes

namespace Consumed

variable {source middle rest : Source} {errors others : List IoError} {bytes more : Bytes}

theorem refl (source : Source) : Consumed source source [] [] where
  took := .refl Fill.error? source.fills
  bytes_eq := rfl

theorem trans (h : Consumed source middle errors bytes) (h' : Consumed middle rest others more) :
    Consumed source rest (errors ++ others) (bytes ++ more) where
  took := h.took.trans h'.took
  bytes_eq := by rw [h.bytes_eq, h'.bytes_eq, List.append_assoc]

end Consumed

theorem consumed_unread (head tail : Bytes) (fills : List Fill) :
    Consumed { unread := head ++ tail, fills } { unread := tail, fills } [] head where
  took := .refl Fill.error? fills
  bytes_eq := List.append_assoc head tail (delivered fills)

theorem consumed_all_unread (unread : Bytes) (fills : List Fill) :
    Consumed { unread, fills } (ofFills fills) [] unread where
  took := .refl Fill.error? fills
  bytes_eq := rfl

/-- All that has arrived is read, and the source is filled again. -/
theorem consumed_fill (unread : Bytes) (fill : Fill) (fills : List Fill) :
    Consumed { unread, fills := fill :: fills } { unread := fill.bytes, fills } fill.error?.toList
      unread where
  took := .cons Fill.error? fill fills
  bytes_eq := rfl

/-! ## Reading a line -/

/-- What a line read has consumed, if `taken`, last byte first, had been read before. -/
def Accounts (taken : Bytes) (source : Source) : LineRead → Prop
  | .line line rest => ∃ more, line = taken.reverse ++ more ∧ Consumed source rest [] more
  | .ended rest => taken = [] ∧ Consumed source rest [] []
  | .failed error rest => ∃ more, Consumed source rest [error] more

theorem accounts_of_consumed {taken bytes : Bytes} {source middle : Source} {read : LineRead}
    (h : Consumed source middle [] bytes) (hread : Accounts (bytes.reverse ++ taken) middle read) :
    Accounts taken source read := by
  cases read with
  | line line rest =>
    obtain ⟨more, rfl, hmore⟩ := hread
    exact ⟨bytes ++ more, by simp, h.trans hmore⟩
  | ended rest =>
    obtain ⟨hnil, hrest⟩ := hread
    obtain ⟨hbytes, htaken⟩ := List.append_eq_nil_iff.mp hnil
    rw [List.reverse_eq_nil_iff.mp hbytes] at h
    exact ⟨htaken, h.trans hrest⟩
  | failed error rest =>
    obtain ⟨more, hmore⟩ := hread
    exact ⟨bytes ++ more, h.trans hmore⟩

theorem accounts_endLine (taken : Bytes) (rest : Source) :
    Accounts taken rest (endLine taken rest) := by
  cases taken with
  | nil => exact ⟨rfl, .refl rest⟩
  | cons b taken => exact ⟨[], by simp, .refl rest⟩

/-- What the rest of a line consumes, of which `taken` has been read. -/
theorem accounts_readLineFrom (taken unread : Bytes) (fills : List Fill) :
    Accounts taken { unread, fills } (readLineFrom taken unread fills) := by
  fun_induction readLineFrom taken unread fills with
  | case1 fills taken unread lineBreak rest hdrop =>
    have hunread := List.takeWhile_append_dropWhile (p := fun b => decide (b ≠ newline)) (l := unread)
    rw [hdrop, List.append_cons] at hunread
    refine ⟨_, rfl, ?_⟩
    nth_rewrite 1 [← hunread]
    exact consumed_unread _ rest fills
  | case2 taken unread _ taken' =>
    refine accounts_of_consumed (consumed_all_unread unread []) ?_
    rw [← List.reverseAux_eq]
    exact accounts_endLine taken' (ofFills [])
  | case3 taken unread _ taken' fills =>
    refine accounts_of_consumed (consumed_fill unread (.chunk []) fills) ?_
    rw [← List.reverseAux_eq]
    exact accounts_endLine taken' (ofFills fills)
  | case4 taken unread _ taken' chunk fills _ ih =>
    refine accounts_of_consumed (consumed_fill unread (.chunk chunk) fills) ?_
    rw [← List.reverseAux_eq]
    exact ih
  | case5 taken unread _ taken' error fills hinterrupted ih =>
    have hfill := consumed_fill unread (.failure error) fills
    rw [show (Fill.failure error).error? = none from if_pos hinterrupted] at hfill
    refine accounts_of_consumed hfill ?_
    rw [← List.reverseAux_eq]
    exact ih
  | case6 taken unread _ error fills hfailed =>
    have hfill := consumed_fill unread (.failure error) fills
    rw [show (Fill.failure error).error? = some error from if_neg hfailed] at hfill
    exact ⟨unread, hfill⟩

section

variable {source rest : Source} {line : Bytes} {error : IoError}

theorem accounts_readLine (source : Source) : Accounts [] source source.readLine :=
  accounts_readLineFrom [] source.unread source.fills

/-- Reading a line consumes the line. -/
theorem consumed_of_readLine_line (h : source.readLine = .line line rest) :
    Consumed source rest [] line := by
  have haccounts := source.accounts_readLine
  rw [h] at haccounts
  obtain ⟨more, rfl, hmore⟩ := haccounts
  exact hmore

/-- Finding the end of the input consumes no byte. -/
theorem consumed_of_readLine_ended (h : source.readLine = .ended rest) :
    Consumed source rest [] [] := by
  have haccounts := source.accounts_readLine
  rw [h] at haccounts
  exact haccounts.2

/-- A failure consumes the part of the line that had arrived. -/
theorem consumed_of_readLine_failed (h : source.readLine = .failed error rest) :
    ∃ part, Consumed source rest [error] part := by
  have haccounts := source.accounts_readLine
  rw [h] at haccounts
  exact haccounts

end

end Source

end LinePatch
