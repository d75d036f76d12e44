import LinePatch.Proofs.Sink.Scripted

/-!
# Interrupted write calls

A write call that was interrupted is made again with the same bytes. So writing gives the same whether some
interruptions stand among the answers or not: the sink takes the same bytes, in the same calls but for the
interrupted ones. A flush is made once, so an interruption there is an error like any other.

## Main definitions

* `WriteAnswer.isInterruption`: the call failed but is made again
* `ScriptedSink.Calmed`: a sink and one that lacks some of its interruptions, to come and recorded

## Main results

* `ScriptedSink.calmedResult_writeAll`, `calmedResult_flush`: writing and flushing do not show interruptions
-/

namespace LinePatch

/-- The call failed, but is made again. -/
def WriteAnswer.isInterruption : WriteAnswer → Bool
  | .failure error => error.isInterrupted
  | _ => false

/-- The call was interrupted. -/
def WriteCall.isInterrupted (call : WriteCall) : Bool :=
  call.answer.isInterruption

namespace ScriptedSink

/-! ## The equations of writing as a whole -/

section Equations

variable {bytes : Bytes} {sink next : ScriptedSink} {n : Nat} {error : IoError}

@[simp] theorem writeAll_nil (sink : ScriptedSink) : writeAll [] sink = .ok () sink := by
  rw [writeAll]
  simp

theorem writeAll_of_write_zero (hne : bytes ≠ []) (h : sink.write bytes = .ok 0 next) :
    writeAll bytes sink = .error .wroteNothing next := by
  rw [writeAll, dif_neg hne]
  split <;> simp_all

theorem writeAll_of_write_succ (hne : bytes ≠ []) (h : sink.write bytes = .ok (n + 1) next) :
    writeAll bytes sink = writeAll (bytes.drop (n + 1)) next := by
  rw [writeAll, dif_neg hne]
  split <;> simp_all

theorem writeAll_of_write_interrupted (hne : bytes ≠ []) (h : sink.write bytes = .error error next)
    (herror : error.isInterrupted) : writeAll bytes sink = writeAll bytes next := by
  rw [writeAll, dif_neg hne]
  split <;> simp_all

theorem writeAll_of_write_failed (hne : bytes ≠ []) (h : sink.write bytes = .error error next)
    (herror : ¬ error.isInterrupted) : writeAll bytes sink = .error error next := by
  rw [writeAll, dif_neg hne]
  split <;> simp_all

end Equations

/-! ## Writing without some interruptions -/

/-- `calm` is `sink` without some of the interruptions among its answers to come and its calls so far. -/
structure Calmed (sink calm : ScriptedSink) : Prop where
  answers : Omits WriteAnswer.isInterruption sink.answers calm.answers
  flushFailure?_eq : calm.flushFailure? = sink.flushFailure?
  contents_eq : calm.contents = sink.contents
  calls : Omits WriteCall.isInterrupted sink.calls.toList calm.calls.toList
  flushes_eq : calm.flushes = sink.flushes

/-- Both operations gave the same, and left the same but for some interruptions. -/
inductive CalmedResult {β : Type} :
    EStateM.Result IoError ScriptedSink β → EStateM.Result IoError ScriptedSink β → Prop
  | ok {value sink calm} (h : Calmed sink calm) : CalmedResult (.ok value sink) (.ok value calm)
  | error {error sink calm} (h : Calmed sink calm) : CalmedResult (.error error sink) (.error error calm)

variable {sink calm : ScriptedSink}

/-- A call gets the same answer in both, unless it is interrupted in the one and not made in the other. -/
theorem Calmed.write (h : Calmed sink calm) (bytes : Bytes) :
    CalmedResult (sink.write bytes) (calm.write bytes) ∨
      ∃ error next, error.isInterrupted ∧ sink.write bytes = .error error next ∧ Calmed next calm := by
  obtain ⟨answers, flushFailure?, contents, calls, flushes⟩ := sink
  obtain ⟨calmAnswers, calmFailure?, calmContents, calmCalls, calmFlushes⟩ := calm
  obtain ⟨hanswers, rfl, rfl, hcalls, rfl⟩ := h
  simp only at hanswers hcalls
  have hrecorded (answer : WriteAnswer) : Omits WriteCall.isInterrupted
      (calls.push { offered := bytes.length, answer }).toList
      (calmCalls.push { offered := bytes.length, answer }).toList := by
    simpa using hcalls.concat _
  cases hanswers with
  | nil => exact .inl (.ok ⟨.nil, rfl, rfl, hrecorded .everything, rfl⟩)
  | keep answer hanswers =>
    left
    cases answer with
    | upTo limit => exact .ok ⟨hanswers, rfl, rfl, hrecorded (.upTo limit), rfl⟩
    | everything => exact .ok ⟨hanswers, rfl, rfl, hrecorded .everything, rfl⟩
    | failure error => exact .error ⟨hanswers, rfl, rfl, hrecorded (.failure error), rfl⟩
  | @skip answer _ _ hanswer hanswers =>
    cases answer with
    | failure error =>
      refine .inr ⟨error, _, hanswer, rfl, hanswers, rfl, rfl, ?_, rfl⟩
      have hcall : (WriteCall.mk bytes.length (.failure error)).isInterrupted := hanswer
      simpa using hcalls.concat_skip hcall
    | upTo limit => cases hanswer
    | everything => cases hanswer

section

variable {bytes : Bytes} {next : ScriptedSink} {n : Nat} {error : IoError}

theorem Calmed.write_ok (h : Calmed sink calm) (hwrite : sink.write bytes = .ok n next) :
    ∃ calmNext, calm.write bytes = .ok n calmNext ∧ Calmed next calmNext := by
  rcases h.write bytes with hcall | ⟨_, _, _, herror, _⟩
  · rw [hwrite] at hcall
    generalize hcalm : calm.write bytes = result at hcall
    cases hcall with
    | ok hnext => exact ⟨_, rfl, hnext⟩
  · rw [hwrite] at herror
    cases herror

theorem Calmed.write_error (h : Calmed sink calm) (hwrite : sink.write bytes = .error error next) :
    (∃ calmNext, calm.write bytes = .error error calmNext ∧ Calmed next calmNext) ∨
      error.isInterrupted ∧ Calmed next calm := by
  rcases h.write bytes with hcall | ⟨_, _, herror, hsame, hnext⟩
  · rw [hwrite] at hcall
    generalize hcalm : calm.write bytes = result at hcall
    cases hcall with
    | error hnext => exact .inl ⟨_, rfl, hnext⟩
  · rw [hwrite] at hsame
    cases hsame
    exact .inr ⟨herror, hnext⟩

end

/-- Writing as a whole does not show interruptions. At an interrupted call, the sink that is spared it stays where
it is. -/
theorem calmedResult_writeAll (h : Calmed sink calm) (bytes : Bytes) :
    CalmedResult (writeAll bytes sink) (writeAll bytes calm) := by
  fun_induction writeAll bytes sink generalizing calm with
  | case1 sink =>
    rw [writeAll_nil]
    exact .ok h
  | case2 bytes sink hne next hwrite =>
    obtain ⟨calmNext, hcalm, hnext⟩ := h.write_ok hwrite
    rw [writeAll_of_write_zero hne hcalm]
    exact .error hnext
  | case3 bytes sink hne n next hwrite ih =>
    obtain ⟨calmNext, hcalm, hnext⟩ := h.write_ok hwrite
    rw [writeAll_of_write_succ hne hcalm]
    exact ih hnext
  | case4 bytes sink hne error next hwrite hinterrupted ih =>
    rcases h.write_error hwrite with ⟨calmNext, hcalm, hnext⟩ | ⟨-, hnext⟩
    · rw [writeAll_of_write_interrupted hne hcalm hinterrupted]
      exact ih hnext
    · exact ih hnext
  | case5 bytes sink hne error next hwrite hfailed =>
    rcases h.write_error hwrite with ⟨calmNext, hcalm, hnext⟩ | ⟨hinterrupted, -⟩
    · rw [writeAll_of_write_failed hne hcalm hfailed]
      exact .error hnext
    · exact absurd hinterrupted hfailed

/-- A flush is made once in both. -/
theorem calmedResult_flush (h : Calmed sink calm) : CalmedResult (flush sink) (flush calm) := by
  obtain ⟨answers, flushFailure?, contents, calls, flushes⟩ := sink
  obtain ⟨calmAnswers, calmFailure?, calmContents, calmCalls, calmFlushes⟩ := calm
  obtain ⟨hanswers, rfl, rfl, hcalls, rfl⟩ := h
  cases calmFailure? with
  | none => exact .ok ⟨hanswers, rfl, rfl, hcalls, rfl⟩
  | some error => exact .error ⟨hanswers, rfl, rfl, hcalls, rfl⟩

end ScriptedSink

end LinePatch
