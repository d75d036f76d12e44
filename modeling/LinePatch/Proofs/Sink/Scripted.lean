import LinePatch.Proofs.Script
import LinePatch.Sink.Scripted
import Mathlib.Data.List.Infix

/-!
# What a scripted sink takes

Writing takes answers from the script of a sink and puts bytes behind those it has taken. `Wrote` relates
a sink to what becomes of it: the bytes that were added, and the errors of the calls that ended the
writing. Bytes that are written as a whole are all taken, or one call fails for good and a part of them,
never the whole, has been taken.

## Main definitions

* `WriteAnswer.error?`: the error by which an answer ends the writing
* `ScriptedSink.Wrote`: what has been written to a sink

## Main results

* `ScriptedSink.Wrote.trans`: what is written adds up
* `ScriptedSink.wrote_of_writeAll_ok`, `_error`: what writing some bytes as a whole does
* `ScriptedSink.flush_eq_ok_iff`, `flush_eq_error_iff`: what flushing does
-/

namespace LinePatch

/-- The error by which an answer to a call with some bytes ends the writing: it fails for good, or takes
nothing. An interrupted call is made again. -/
def WriteAnswer.error? : WriteAnswer → Option IoError
  | .upTo limit => if limit = 0 then some .wroteNothing else none
  | .everything => none
  | .failure error => if error.isInterrupted then none else some error

/-- The answer does not end the writing: it is not `0`, and no error other than an interruption. -/
def WriteAnswer.Passes (answer : WriteAnswer) : Prop :=
  answer ≠ .upTo 0 ∧ ∀ error, answer = .failure error → error.kind = .interrupted

theorem WriteAnswer.error?_eq_none_iff {answer : WriteAnswer} :
    answer.error? = none ↔ answer.Passes := by
  cases answer with
  | upTo limit => simp [error?, Passes]
  | everything => simp [error?, Passes]
  | failure error => simp [error?, Passes, IoError.isInterrupted]

theorem WriteAnswer.error?_eq_some_iff {answer : WriteAnswer} {error : IoError} :
    answer.error? = some error ↔
      answer = .upTo 0 ∧ error = .wroteNothing ∨ answer = .failure error ∧ error.kind ≠ .interrupted := by
  cases answer with
  | upTo limit => simp [error?, eq_comm]
  | everything => simp [error?]
  | failure failure =>
    simp only [error?, IoError.isInterrupted, decide_eq_true_eq]
    grind

namespace ScriptedSink

/-- To `sink` the given bytes were written, which left `next`: answers were taken, of which those with the
given errors ended the writing, and nothing was flushed. -/
structure Wrote (sink next : ScriptedSink) (errors : List IoError) (bytes : Bytes) : Prop where
  taken_eq : next.taken = sink.taken ++ bytes
  took : Took WriteAnswer.error? sink.answers next.answers errors
  flushes_eq : next.flushes = sink.flushes
  flushFailure?_eq : next.flushFailure? = sink.flushFailure?

namespace Wrote

variable {sink middle next : ScriptedSink} {errors others : List IoError} {bytes more : Bytes}

theorem refl (sink : ScriptedSink) : Wrote sink sink [] [] where
  taken_eq := (List.append_nil _).symm
  took := .refl WriteAnswer.error? sink.answers
  flushes_eq := rfl
  flushFailure?_eq := rfl

theorem trans (h : Wrote sink middle errors bytes) (h' : Wrote middle next others more) :
    Wrote sink next (errors ++ others) (bytes ++ more) where
  taken_eq := by rw [h'.taken_eq, h.taken_eq, List.append_assoc]
  took := h.took.trans h'.took
  flushes_eq := by rw [h'.flushes_eq, h.flushes_eq]
  flushFailure?_eq := by rw [h'.flushFailure?_eq, h.flushFailure?_eq]

end Wrote

/-! ## One call -/

section

variable {sink next : ScriptedSink} {bytes : Bytes} {n : Nat} {error : IoError}

theorem wrote_of_write_ok (hne : bytes ≠ []) (h : sink.write bytes = .ok n next) :
    Wrote sink next (if n = 0 then [.wroteNothing] else []) (bytes.take n) := by
  have hlen : bytes.length ≠ 0 := mt List.length_eq_zero_iff.mp hne
  unfold write at h
  cases hs : sink.answers with
  | nil =>
    obtain ⟨rfl, rfl⟩ : bytes.length = n ∧ _ = next := by simpa [hs] using h
    exact ⟨by simp [taken], ⟨[], by simp [hs], by simp [hne]⟩, rfl, rfl⟩
  | cons answer answers =>
    cases answer with
    | upTo limit =>
      obtain ⟨rfl, rfl⟩ : min limit bytes.length = n ∧ _ = next := by simpa [hs] using h
      refine ⟨by simp [taken, List.take_eq_take_iff], ⟨[.upTo limit], by simp [hs], ?_⟩, rfl, rfl⟩
      have hmin : min limit bytes.length = 0 ↔ limit = 0 := by omega
      by_cases hlimit : limit = 0 <;> simp [WriteAnswer.error?, hmin, hlimit]
    | everything =>
      obtain ⟨rfl, rfl⟩ : bytes.length = n ∧ _ = next := by simpa [hs] using h
      exact ⟨by simp [taken], ⟨[.everything], by simp [hs], by simp [hne, WriteAnswer.error?]⟩, rfl, rfl⟩
    | failure error => simp [hs] at h

theorem wrote_of_write_error (h : sink.write bytes = .error error next) :
    Wrote sink next (if error.isInterrupted then [] else [error]) [] := by
  unfold write at h
  cases hs : sink.answers with
  | nil => simp [hs] at h
  | cons answer answers =>
    cases answer with
    | upTo limit => simp [hs] at h
    | everything => simp [hs] at h
    | failure failure =>
      obtain ⟨rfl, rfl⟩ : failure = error ∧ _ = next := by simpa [hs] using h
      refine ⟨by simp [taken], ⟨[.failure failure], by simp [hs], ?_⟩, rfl, rfl⟩
      by_cases hfailure : failure.isInterrupted <;> simp [WriteAnswer.error?, hfailure]

end

/-! ## Writing as a whole -/

/-- What the calls that write some bytes as a whole have done. -/
def Accounts (bytes : Bytes) (sink : ScriptedSink) :
    EStateM.Result IoError ScriptedSink Unit → Prop
  | .ok () next => Wrote sink next [] bytes
  | .error error next =>
    ∃ part rest, bytes = part ++ rest ∧ rest ≠ [] ∧ Wrote sink next [error] part

theorem accounts_of_wrote {bytes : Bytes} {n : Nat} {sink middle : ScriptedSink}
    {result : EStateM.Result IoError ScriptedSink Unit} (h : Wrote sink middle [] (bytes.take n))
    (hresult : Accounts (bytes.drop n) middle result) : Accounts bytes sink result := by
  cases result with
  | ok _ next =>
    have hnext := h.trans hresult
    rwa [List.take_append_drop] at hnext
  | error error next =>
    obtain ⟨part, rest, hdrop, hrest, hpart⟩ := hresult
    refine ⟨bytes.take n ++ part, rest, ?_, hrest, h.trans hpart⟩
    rw [List.append_assoc, ← hdrop, List.take_append_drop]

theorem accounts_writeAll (bytes : Bytes) (sink : ScriptedSink) :
    Accounts bytes sink (writeAll bytes sink) := by
  fun_induction writeAll bytes sink with
  | case1 sink => exact .refl sink
  | case2 bytes sink hne next hwrite =>
    exact ⟨[], bytes, rfl, hne, wrote_of_write_ok hne hwrite⟩
  | case3 bytes sink hne n next hwrite ih =>
    exact accounts_of_wrote (wrote_of_write_ok hne hwrite) ih
  | case4 bytes sink hne error next hwrite hinterrupted ih =>
    have hnone := wrote_of_write_error hwrite
    rw [if_pos hinterrupted] at hnone
    exact accounts_of_wrote (n := 0) hnone ih
  | case5 bytes sink hne error next hwrite hfailed =>
    have hone := wrote_of_write_error hwrite
    rw [if_neg hfailed] at hone
    exact ⟨[], bytes, rfl, hne, hone⟩

section

variable {sink next : ScriptedSink} {bytes : Bytes} {error : IoError}

/-- Writing succeeds when all bytes have been taken. -/
theorem wrote_of_writeAll_ok (h : writeAll bytes sink = .ok () next) : Wrote sink next [] bytes := by
  have haccounts := accounts_writeAll bytes sink
  rwa [h] at haccounts

/-- Writing fails when a part of the bytes has been taken, and never the whole. -/
theorem wrote_of_writeAll_error (h : writeAll bytes sink = .error error next) :
    ∃ part rest, bytes = part ++ rest ∧ rest ≠ [] ∧ Wrote sink next [error] part := by
  have haccounts := accounts_writeAll bytes sink
  rwa [h] at haccounts

end

/-! ## Flushing -/

section

variable {sink next : ScriptedSink} {error : IoError}

/-- A flush is counted and adds no byte. -/
theorem flush_eq_ok_iff : flush sink = .ok () next ↔
    sink.flushFailure? = none ∧ next = { sink with flushes := sink.flushes + 1 } := by
  cases h : sink.flushFailure? <;> simp [flush, h, eq_comm]

theorem flush_eq_error_iff : flush sink = .error error next ↔
    sink.flushFailure? = some error ∧ next = { sink with flushes := sink.flushes + 1 } := by
  cases h : sink.flushFailure? <;> simp [flush, h, eq_comm]

end

end ScriptedSink

end LinePatch
