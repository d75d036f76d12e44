import LinePatch.Bytes
import LinePatch.IoError

/-!
# Sources of lines

A source delivers bytes in chunks, and a line may be spread over several of them. When the unread
bytes run out, the source is filled again: with a chunk or with a failure. An empty chunk, and every
fill behind the last one, means that the input has ended; it ends a line that has begun, and the next
line is looked for in the fills behind it.

## Main definitions

* `Source`: unread bytes and the fills to come
* `LineRead`: what reading a line gives
* `Source.readLine`: reads one line with its line break
* `Fill.bytes`, `Source.delivered`: the bytes of a fill, and of fills in a row
* `Source.size`: the fills and bytes that can still be consumed

## Main results

* `Source.size_lt_of_readLine_line`: a line that is read makes its source smaller
-/

namespace LinePatch

/-- What a source gets when it is filled. -/
inductive Fill where
  /-- Some bytes; none at all mean that the input has ended. -/
  | chunk (bytes : Bytes)
  | failure (error : IoError)
deriving DecidableEq, Repr

/-- A source of bytes. -/
structure Source where
  /-- The bytes that have arrived and have not been read. -/
  unread : Bytes
  fills : List Fill
deriving DecidableEq, Repr

/-- What reading a line gives; the source that is left comes with it. -/
inductive LineRead where
  /-- A line: with its line break, or without one where the input ends. -/
  | line (bytes : Bytes) (rest : Source)
  /-- The input has ended, and no line has begun. -/
  | ended (rest : Source)
  /-- The source failed, and the part of the line read so far is lost. -/
  | failed (error : IoError) (rest : Source)
deriving DecidableEq, Repr

namespace Source

/-- A source that delivers its fills, one after another. -/
def ofFills (fills : List Fill) : Source :=
  { unread := [], fills }

/-- A source that delivers the given bytes. -/
def ofBytes (bytes : Bytes) : Source :=
  ofFills [.chunk bytes]

/-- Ends a line at the end of the input; `taken` is its part read so far, last byte first. -/
def endLine (taken : Bytes) (rest : Source) : LineRead :=
  if taken.isEmpty then .ended rest else .line taken.reverse rest

/-- Reads a line of which `taken`, last byte first, has been read already. -/
def readLineFrom (taken unread : Bytes) (fills : List Fill) : LineRead :=
  match unread.dropWhile (· ≠ newline) with
  | lineBreak :: rest =>
    .line (taken.reverse ++ (unread.takeWhile (· ≠ newline) ++ [lineBreak])) { unread := rest, fills }
  | [] =>
    -- No line break has arrived, so all of it belongs to the line and the source is filled again.
    let taken := unread.reverseAux taken
    match fills with
    | [] => endLine taken (ofFills [])
    | .chunk [] :: fills => endLine taken (ofFills fills)
    | .chunk unread :: fills => readLineFrom taken unread fills
    | .failure error :: fills =>
      if error.isInterrupted then readLineFrom taken [] fills else .failed error (ofFills fills)
termination_by structural fills

/-- Reads one line, up to the next line break or the end of the input. A fill that was interrupted is
tried again. -/
def readLine (source : Source) : LineRead :=
  readLineFrom [] source.unread source.fills

end Source

/-! ## The size of a source -/

/-- The bytes a fill delivers. -/
def Fill.bytes : Fill → Bytes
  | .chunk bytes => bytes
  | .failure _ => []

namespace Source

/-- The bytes that fills deliver, in order. -/
def delivered (fills : List Fill) : Bytes :=
  fills.flatMap Fill.bytes

/-- What can still be consumed: the fills to come, and the bytes in them and before them. -/
def size (source : Source) : Nat :=
  source.unread.length + source.fills.length + (delivered source.fills).length

theorem size_ofFills_cons (unread : Bytes) (fill : Fill) (fills : List Fill) :
    size { unread, fills := fill :: fills } =
      unread.length + fill.bytes.length + 1 + size (ofFills fills) := by
  simp only [size, ofFills, delivered, List.length_cons, List.flatMap_cons, List.length_append,
    List.length_nil]
  omega

theorem size_eq_add_size_ofFills (unread : Bytes) (fills : List Fill) :
    size { unread, fills } = unread.length + size (ofFills fills) := by
  simp only [size, ofFills, List.length_nil]
  omega

theorem endLine_eq_line_iff {taken line : Bytes} {left rest : Source} :
    endLine taken left = .line line rest ↔ taken ≠ [] ∧ taken.reverse = line ∧ left = rest := by
  cases taken <;> simp [endLine]

theorem length_add_size_le_of_readLineFrom_line {taken unread : Bytes} {fills : List Fill}
    {line : Bytes} {rest : Source} (h : readLineFrom taken unread fills = .line line rest) :
    0 < line.length ∧
      line.length + rest.size ≤ taken.length + unread.length + size (ofFills fills) := by
  fun_induction readLineFrom taken unread fills with
  | case1 fills taken unread lineBreak left hdrop =>
    obtain ⟨rfl, rfl⟩ := LineRead.line.inj h
    have hlen := congrArg List.length
      (List.takeWhile_append_dropWhile (p := fun b => decide (b ≠ newline)) (l := unread))
    rw [hdrop] at hlen
    simp only [List.length_append, List.length_cons, List.length_reverse, List.length_nil,
      size_eq_add_size_ofFills] at hlen ⊢
    omega
  | case2 taken unread _ taken' =>
    obtain ⟨hne, rfl, rfl⟩ := endLine_eq_line_iff.1 h
    have := List.length_pos_iff.2 hne
    simp only [taken', List.reverseAux_eq, List.length_append, List.length_reverse] at this ⊢
    omega
  | case3 taken unread _ taken' fills =>
    obtain ⟨hne, rfl, rfl⟩ := endLine_eq_line_iff.1 h
    have := List.length_pos_iff.2 hne
    simp only [taken', List.reverseAux_eq, List.length_append, List.length_reverse,
      size_ofFills_cons, ofFills] at this ⊢
    omega
  | case4 taken unread _ taken' chunk fills _ ih =>
    obtain ⟨hpos, hle⟩ := ih h
    simp only [taken', List.reverseAux_eq, List.length_append, List.length_reverse,
      size_ofFills_cons, ofFills, Fill.bytes] at hle ⊢
    omega
  | case5 taken unread _ taken' error fills _ ih =>
    obtain ⟨hpos, hle⟩ := ih h
    simp only [taken', List.reverseAux_eq, List.length_append, List.length_reverse, List.length_nil,
      size_ofFills_cons, ofFills, Fill.bytes] at hle ⊢
    omega
  | case6 => cases h

/-- A line holds at least one byte, and a source gives nothing twice. -/
theorem size_lt_of_readLine_line {source rest : Source} {line : Bytes}
    (h : source.readLine = .line line rest) : rest.size < source.size := by
  have hle := length_add_size_le_of_readLineFrom_line h
  have hsize := size_eq_add_size_ofFills source.unread source.fills
  simp only [List.length_nil] at hle
  change source.size = _ at hsize
  omega

end Source

end LinePatch
