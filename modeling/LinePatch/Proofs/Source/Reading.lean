import LinePatch.Proofs.Bytes.Lines
import LinePatch.Proofs.Source.Group

/-!
# The lines of a source

A source is read line by line until it gives no more. A source that shows no empty chunk before its end
gives the lines of its bytes, however these are spread over chunks; an interrupted fill in between makes
no difference.

## Main definitions

* `Reading`, `Source.reading`: the lines a source gives, and why it gives no more

## Main results

* `Source.lines_of_readLine_line`, `Source.bytes_of_readLine_ended`: without an early empty chunk, a line
  read is the first of the bytes, and the end is the end of the bytes
* `Source.reading_ofBytes`: the lines of a source of given bytes
-/

namespace LinePatch

/-- The lines a source gives, one after another. -/
structure Reading where
  /-- The lines, up to the end of the input or a failure. -/
  lines : List Bytes
  /-- The failure that ended the reading, if it was not the end of the input. -/
  failure? : Option IoError

namespace Source

/-- Reads all lines that a source gives. -/
def reading (source : Source) : Reading :=
  match _h : source.readLine with
  | .line line rest =>
    let others := rest.reading
    { others with lines := line :: others.lines }
  | .ended _ => { lines := [], failure? := none }
  | .failed error _ => { lines := [], failure? := some error }
termination_by source.size
decreasing_by exact size_lt_of_readLine_line _h

section

variable {source rest : Source} {line : Bytes} {error : IoError}

theorem reading_of_line (h : source.readLine = .line line rest) :
    source.reading =
      { lines := line :: rest.reading.lines, failure? := rest.reading.failure? } := by
  rw [reading]
  split <;> simp_all

theorem reading_of_ended (h : source.readLine = .ended rest) :
    source.reading = { lines := [], failure? := none } := by
  rw [reading]
  split <;> simp_all

theorem reading_of_failed (h : source.readLine = .failed error rest) :
    source.reading = { lines := [], failure? := some error } := by
  rw [reading]
  split <;> simp_all

end

/-! ## Sources without an early empty chunk -/

/-- What reading a line gives, in terms of the bytes that were to be read. -/
def FirstLine (bytes : Bytes) : LineRead → Prop
  | .line line rest => Bytes.lines bytes = line :: Bytes.lines rest.bytes
  | .ended rest => bytes = [] ∧ rest = ofFills []
  | .failed _ _ => True

section

variable {source rest : Source} {line : Bytes} (hchunks : .chunk [] ∉ source.fills)

include hchunks

theorem firstLine_readLine : FirstLine source.bytes source.readLine := by
  have hfirst := source.firstOfGroup_readLine
  cases h : source.readLine with
  | line line rest =>
    have hbytes := (consumed_of_readLine_line h).bytes_eq
    rw [h] at hfirst
    rcases hfirst with ⟨head, hhead, rfl, -⟩ | ⟨hline, hne, -, hnone, rfl⟩
    · rw [FirstLine, hbytes, Bytes.lines_cons_line hhead]
    · have hleft : source.group.left = [] := Group.left_ofFills_eq_nil hchunks hnone
      rw [FirstLine, hbytes, hleft, bytes_ofFills, delivered_nil, List.append_nil,
        Bytes.lines_of_newline_notMem hline hne, Bytes.lines_nil]
  | ended rest =>
    have hbytes := (consumed_of_readLine_ended h).bytes_eq
    rw [h] at hfirst
    obtain ⟨-, hnone, rfl⟩ := hfirst
    have hleft : source.group.left = [] := Group.left_ofFills_eq_nil hchunks hnone
    rw [hleft] at hbytes ⊢
    exact ⟨hbytes, rfl⟩
  | failed error rest => trivial

/-- A line read is the first line of the bytes. -/
theorem lines_of_readLine_line (h : source.readLine = .line line rest) :
    Bytes.lines source.bytes = line :: Bytes.lines rest.bytes := by
  have hfirst := firstLine_readLine hchunks
  rwa [h] at hfirst

/-- The end of the input is the end of the bytes, and behind it nothing is left. -/
theorem bytes_of_readLine_ended (h : source.readLine = .ended rest) :
    source.bytes = [] ∧ rest = ofFills [] := by
  have hfirst := firstLine_readLine hchunks
  rwa [h] at hfirst

/-- If no fill fails either, all lines are read. -/
theorem reading_eq_lines (hfills : ∀ fill ∈ source.fills, fill.error? = none) :
    source.reading = { lines := Bytes.lines source.bytes, failure? := none } := by
  fun_induction reading source with
  | case1 source line rest hread others ih =>
    have htook := (consumed_of_readLine_line hread).took
    have hrest := ih (fun h => hchunks (htook.mem h)) (fun fill h => hfills fill (htook.mem h))
    rw [lines_of_readLine_line hchunks hread]
    simp only [others, hrest]
  | case2 source rest hread =>
    rw [(bytes_of_readLine_ended hchunks hread).1]
    rfl
  | case3 source error rest hread =>
    obtain ⟨part, hpart⟩ := consumed_of_readLine_failed hread
    have hnil := hpart.took.errors_eq_nil hfills
    cases hnil

end

/-- A source of given bytes gives their lines. -/
theorem reading_ofBytes (bytes : Bytes) :
    (ofBytes bytes).reading = { lines := Bytes.lines bytes, failure? := none } := by
  by_cases hnil : bytes = []
  · subst hnil
    exact reading_of_ended rfl
  · have hbytes : (ofBytes bytes).bytes = bytes := List.append_nil bytes
    have hchunks : .chunk [] ∉ (ofBytes bytes).fills := by simp [ofBytes, ofFills, eq_comm, hnil]
    rw [reading_eq_lines hchunks (by simp [ofBytes, ofFills, Fill.error?]), hbytes]

end Source

end LinePatch
