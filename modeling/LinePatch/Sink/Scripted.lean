import LinePatch.Sink

/-!
# Scripted sinks

A scripted sink answers each write call as its script says: it takes all it is offered, or no more
than some number of bytes, or it fails. Behind the end of the script it takes everything. Bytes that
are to be written as a whole are offered again and again, each time without those taken before, until
none is left; a call that was interrupted is repeated, and a call that takes nothing is an error. The
sink records its calls and the bytes it took.

## Main definitions

* `WriteAnswer`, `ScriptedSink`: the script and the record
* `ScriptedSink.write`: one write call
* `ScriptedSink.writeAll`: the calls that write some bytes as a whole
* `ScriptedSink.taken`, `ScriptedSink.offered`: views of the record

## Main results

* `ScriptedSink.length_answers_lt_of_write_error`: only the script makes a call fail
-/

namespace LinePatch

/-- How a scripted sink answers a write call. -/
inductive WriteAnswer where
  /-- It takes no more than `limit` bytes. -/
  | upTo (limit : Nat)
  | everything
  | failure (error : IoError)
deriving DecidableEq, Repr

/-- A write call: how many bytes it offered, and the answer it got. -/
structure WriteCall where
  offered : Nat
  answer : WriteAnswer
deriving DecidableEq, Repr

/-- A sink that follows a script and records what happens to it. -/
structure ScriptedSink where
  /-- The answers to the next write calls. -/
  answers : List WriteAnswer := []
  /-- The failure of a flush, if flushing fails. -/
  flushFailure? : Option IoError := none
  /-- The bytes taken so far. -/
  contents : Array UInt8 := #[]
  calls : Array WriteCall := #[]
  flushes : Nat := 0
deriving DecidableEq, Repr

namespace ScriptedSink

/-- The bytes the sink has taken. -/
def taken (sink : ScriptedSink) : Bytes :=
  sink.contents.toList

/-- The number of bytes that each write call offered. -/
def offered (sink : ScriptedSink) : List Nat :=
  sink.calls.toList.map WriteCall.offered

/-- One write call: how many of the bytes are taken. -/
def write (bytes : Bytes) (sink : ScriptedSink) : EStateM.Result IoError ScriptedSink Nat :=
  let answer := sink.answers.headD .everything
  let sink := { sink with
    answers := sink.answers.tail
    calls := sink.calls.push { offered := bytes.length, answer } }
  match answer with
  | .upTo limit => .ok (min limit bytes.length) { sink with
      contents := sink.contents ++ bytes.take limit }
  | .everything => .ok bytes.length { sink with contents := sink.contents ++ bytes }
  | .failure error => .error error sink

theorem length_answers_le_of_write_ok {bytes : Bytes} {sink next : ScriptedSink} {n : Nat}
    (h : sink.write bytes = .ok n next) : next.answers.length ≤ sink.answers.length := by
  unfold write at h
  rcases hs : sink.answers with _ | ⟨_ | _ | _, _⟩ <;> simp [hs] at h <;> obtain ⟨-, rfl⟩ := h <;>
    simp

theorem length_answers_lt_of_write_error {bytes : Bytes} {sink next : ScriptedSink}
    {error : IoError} (h : sink.write bytes = .error error next) :
    next.answers.length < sink.answers.length := by
  unfold write at h
  rcases hs : sink.answers with _ | ⟨_ | _ | _, _⟩ <;> simp [hs] at h
  obtain ⟨-, rfl⟩ := h
  simp

/-- Offers the bytes until all are taken or a call fails for good. -/
def writeAll (bytes : Bytes) (sink : ScriptedSink) : EStateM.Result IoError ScriptedSink Unit :=
  if _hne : bytes = [] then .ok () sink
  else
    match _h : sink.write bytes with
    | .ok 0 next => .error .wroteNothing next
    | .ok (n + 1) next => next.writeAll (bytes.drop (n + 1))
    | .error error next => if error.isInterrupted then next.writeAll bytes else .error error next
termination_by sink.answers.length + bytes.length
decreasing_by
  · have := length_answers_le_of_write_ok _h
    have := List.length_pos_iff.2 _hne
    simp only [List.length_drop]
    omega
  · have := length_answers_lt_of_write_error _h
    omega

/-- Counts the flush, and fails if the script says so. -/
def flush (sink : ScriptedSink) : EStateM.Result IoError ScriptedSink Unit :=
  let sink := { sink with flushes := sink.flushes + 1 }
  match sink.flushFailure? with
  | none => .ok () sink
  | some error => .error error sink

instance : Sink ScriptedSink where
  writeAll := writeAll
  flush := flush

end ScriptedSink

end LinePatch
