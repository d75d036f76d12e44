import LinePatch.Bytes
import LinePatch.IoError

/-!
# Sinks of bytes

A sink takes bytes. What a sink holds back it gives on when it is flushed. Both can fail, and the
sink is left in some state also then.

A buffered sink collects bytes and gives them on in larger pieces. Its buffer never holds more than
8192 bytes: bytes that do not fit behind those it holds empty it first, and a piece as long as the
whole buffer does not go through it at all.

## Main definitions

* `Sink`: the two operations of a sink
* `Buffered`: a sink with a buffer in front of it
* `Buffered.empty`: gives on what the buffer holds
* `Buffered.writeAll`: takes one more piece

## Main results

* `Buffered.empty_of_buffer_eq_empty`: an empty buffer gives nothing on
-/

namespace LinePatch

/-- A state that takes bytes. -/
class Sink (σ : Type) where
  /-- Takes all the bytes, or fails. -/
  writeAll : Bytes → σ → EStateM.Result IoError σ Unit
  /-- Gives on what has been held back, or fails. -/
  flush : σ → EStateM.Result IoError σ Unit

/-- A sink with a buffer in front of it. -/
structure Buffered (σ : Type) where
  sink : σ
  /-- The bytes held back. -/
  buffer : Array UInt8 := #[]

namespace Buffered

variable {σ : Type} [Sink σ]

/-- The number of bytes a buffer can hold. -/
def capacity : Nat := 8192

/-- Puts bytes straight into the sink behind the buffer. -/
def pass (bytes : Bytes) (out : Buffered σ) : EStateM.Result IoError (Buffered σ) Unit :=
  match Sink.writeAll bytes out.sink with
  | .ok () sink => .ok () { out with sink }
  | .error error sink => .error error { out with sink }

/-- Gives on what the buffer holds. If that fails it is lost. -/
def empty (out : Buffered σ) : EStateM.Result IoError (Buffered σ) Unit :=
  if out.buffer.isEmpty then .ok () out
  else pass out.buffer.toList { out with buffer := #[] }

theorem empty_of_buffer_eq_empty {out : Buffered σ} (h : out.buffer = #[]) :
    out.empty = .ok () out := by
  simp [empty, h]

/-- Takes a piece for which the buffer has room, or that is too long for any buffer. -/
def put (bytes : Bytes) (out : Buffered σ) : EStateM.Result IoError (Buffered σ) Unit :=
  if capacity ≤ bytes.length then pass bytes out
  else .ok () { out with buffer := out.buffer ++ bytes }

/-- Takes a piece, behind those the buffer holds. -/
def writeAll (bytes : Bytes) (out : Buffered σ) : EStateM.Result IoError (Buffered σ) Unit :=
  if capacity < out.buffer.size + bytes.length then
    match out.empty with
    | .ok () out => put bytes out
    | .error error out => .error error out
  else put bytes out

/-- Gives on what the buffer holds, and flushes the sink behind it. -/
def flush (out : Buffered σ) : EStateM.Result IoError (Buffered σ) Unit :=
  match out.empty with
  | .ok () out =>
    match Sink.flush out.sink with
    | .ok () sink => .ok () { out with sink }
    | .error error sink => .error error { out with sink }
  | .error error out => .error error out

instance : Sink (Buffered σ) where
  writeAll := writeAll
  flush := flush

end Buffered

end LinePatch
