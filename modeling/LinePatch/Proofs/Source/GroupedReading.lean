import LinePatch.Proofs.Bytes.Lines
import LinePatch.Proofs.Source.Reading

/-!
# Reading group after group

The bytes of a group are lines, the last perhaps without a line break. If it is without one the next group
follows; if not, the input ends here. A failure for good inside a group ends the reading, and the line that
had begun is lost.

## Main definitions

* `Bytes.AtLineStart`, `Bytes.endedLines`: no line has begun, and the lines that have ended
* `Source.groupedReading`: the lines of the groups, one group after another

## Main results

* `Source.groupedReading_of_line`, `_of_ended`, `_of_failed`: what reading a line does to the groups
-/

namespace LinePatch

namespace Bytes

/-! ## Lines that have ended -/

/-- No line has begun behind the last line break. -/
def AtLineStart (bytes : Bytes) : Prop :=
  bytes = [] ∨ [newline] <:+ bytes

instance (bytes : Bytes) : Decidable (AtLineStart bytes) :=
  inferInstanceAs (Decidable (_ ∨ _))

/-- The lines of a byte string that have a line break. -/
def endedLines (bytes : Bytes) : List Bytes :=
  (lines bytes).filter (newline ∈ ·)

theorem atLineStart_cons_line_iff (head rest : Bytes) :
    AtLineStart ((head ++ [newline]) ++ rest) ↔ AtLineStart rest := by
  rcases List.eq_nil_or_concat rest with rfl | ⟨front, last, rfl⟩
  · rw [List.append_nil]
    exact iff_of_true (.inr (List.suffix_append _ _)) (.inl rfl)
  · have hne (bytes : Bytes) : bytes ++ [last] ≠ [] :=
      List.append_ne_nil_of_right_ne_nil bytes (List.cons_ne_nil last [])
    rw [List.concat_eq_append, ← List.append_assoc, AtLineStart, AtLineStart, or_iff_right (hne _),
      or_iff_right (hne _), List.singleton_suffix_append_singleton_iff,
      List.singleton_suffix_append_singleton_iff]

theorem not_atLineStart {bytes : Bytes} (h : newline ∉ bytes) (hne : bytes ≠ []) :
    ¬ AtLineStart bytes := by
  rintro (hnil | hsuffix)
  · exact hne hnil
  · exact h (hsuffix.mem (List.mem_singleton_self newline))

theorem endedLines_cons_line {head : Bytes} (h : newline ∉ head) (rest : Bytes) :
    endedLines ((head ++ [newline]) ++ rest) = (head ++ [newline]) :: endedLines rest := by
  rw [endedLines, lines_cons_line h, List.filter_cons_of_pos (by simp)]
  rfl

theorem endedLines_of_newline_notMem {bytes : Bytes} (h : newline ∉ bytes) : endedLines bytes = [] := by
  rw [endedLines, List.filter_eq_nil_iff]
  intro line hline hmem
  have hflat : newline ∈ (lines bytes).flatten := List.mem_flatten.mpr ⟨line, hline, by simpa using hmem⟩
  rw [flatten_lines] at hflat
  exact h hflat

end Bytes

namespace Source

/-! ## The lines of the groups -/

/-- The lines a source gives, one group after another. -/
structure GroupedReading extends Reading where
  /-- The fills that are not taken. -/
  left : List Fill

/-- Reads group after group, up to one behind which no line has begun, or to a failure for good. The end of a group
ends the line that has begun, and the next group begins another. -/
def groupedReading (source : Source) : GroupedReading :=
  let group := source.group
  match group.failure? with
  | some error =>
    { lines := Bytes.endedLines group.bytes, failure? := some error, left := group.left }
  | none =>
    if _h : Bytes.AtLineStart group.bytes then
      { lines := Bytes.lines group.bytes, failure? := none, left := group.left }
    else
      let later := (ofFills group.left).groupedReading
      { later with lines := Bytes.lines group.bytes ++ later.lines }
termination_by source.unread.length + source.fills.length
decreasing_by
  obtain ⟨hle, hlt⟩ := Group.length_left_ofFills source.fills
  have hbytes : source.unread ++ (Group.ofFills source.fills).bytes ≠ [] := fun hnil => _h (.inl hnil)
  change 0 + (Group.ofFills source.fills).left.length < _
  rcases eq_or_ne source.unread [] with hunread | hunread
  · rw [hunread, List.nil_append] at hbytes
    have := hlt hbytes
    omega
  · have := List.length_pos_iff.mpr hunread
    omega

section

variable {source : Source}

theorem groupedReading_of_failure {error : IoError} (h : source.group.failure? = some error) :
    source.groupedReading =
      { lines := Bytes.endedLines source.group.bytes, failure? := some error
        left := source.group.left } := by
  rw [groupedReading]
  simp only [h]

theorem groupedReading_of_atLineStart (hnone : source.group.failure? = none)
    (h : Bytes.AtLineStart source.group.bytes) :
    source.groupedReading =
      { lines := Bytes.lines source.group.bytes, failure? := none, left := source.group.left } := by
  rw [groupedReading]
  simp only [hnone, h, dite_true]

theorem groupedReading_of_not_atLineStart (hnone : source.group.failure? = none)
    (h : ¬ Bytes.AtLineStart source.group.bytes) :
    source.groupedReading =
      { (ofFills source.group.left).groupedReading with
        lines := Bytes.lines source.group.bytes ++
          (ofFills source.group.left).groupedReading.lines } := by
  rw [groupedReading]
  simp only [hnone, h, dite_false]

end

/-! ## Reading a line of a group -/

section

variable {source rest : Source} {line : Bytes} {error : IoError}

/-- A line read is the first line of the groups. -/
theorem groupedReading_of_line (h : source.readLine = .line line rest) :
    source.groupedReading =
      { rest.groupedReading with lines := line :: rest.groupedReading.lines } := by
  have hfirst := source.firstOfGroup_readLine
  rw [h] at hfirst
  rcases hfirst with ⟨head, hhead, rfl, hgroup⟩ | ⟨hline, hne, hbytes, hnone, hrest⟩
  · have hbytes := congrArg Group.bytes hgroup
    have hfailure := congrArg Group.failure? hgroup
    have hleft := congrArg Group.left hgroup
    rw [Group.prepend_bytes] at hbytes
    rw [Group.prepend_failure?] at hfailure
    rw [Group.prepend_left] at hleft
    cases herror : rest.group.failure? with
    | some error =>
      rw [groupedReading_of_failure (hfailure.trans herror), groupedReading_of_failure herror, hbytes,
        Bytes.endedLines_cons_line hhead, hleft]
    | none =>
      have hstart := Bytes.atLineStart_cons_line_iff head rest.group.bytes
      rw [← hbytes] at hstart
      by_cases hclosed : Bytes.AtLineStart rest.group.bytes
      · rw [groupedReading_of_atLineStart (hfailure.trans herror) (hstart.mpr hclosed),
          groupedReading_of_atLineStart herror hclosed, hbytes, Bytes.lines_cons_line hhead, hleft]
      · rw [groupedReading_of_not_atLineStart (hfailure.trans herror) (mt hstart.mp hclosed),
          groupedReading_of_not_atLineStart herror hclosed, hbytes, Bytes.lines_cons_line hhead, hleft]
        rfl
  · have hopen : ¬ Bytes.AtLineStart source.group.bytes := by
      rw [hbytes]
      exact Bytes.not_atLineStart hline hne
    rw [groupedReading_of_not_atLineStart hnone hopen, hbytes, Bytes.lines_of_newline_notMem hline hne,
      hrest]
    rfl

/-- At the end of the input the group is empty. -/
theorem groupedReading_of_ended (h : source.readLine = .ended rest) :
    source.groupedReading = { lines := [], failure? := none, left := rest.fills } ∧
      rest = ofFills rest.fills := by
  have hfirst := source.firstOfGroup_readLine
  rw [h] at hfirst
  obtain ⟨hbytes, hnone, rfl⟩ := hfirst
  rw [groupedReading_of_atLineStart hnone (.inl hbytes), hbytes]
  exact ⟨rfl, rfl⟩

/-- A failure comes behind the lines that have ended. -/
theorem groupedReading_of_failed (h : source.readLine = .failed error rest) :
    source.groupedReading = { lines := [], failure? := some error, left := rest.fills } ∧
      rest = ofFills rest.fills := by
  have hfirst := source.firstOfGroup_readLine
  rw [h] at hfirst
  obtain ⟨hbytes, hsome, rfl⟩ := hfirst
  rw [groupedReading_of_failure hsome, Bytes.endedLines_of_newline_notMem hbytes]
  exact ⟨rfl, rfl⟩

end

end Source

end LinePatch
