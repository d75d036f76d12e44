import LinePatch.FilePatch
import LinePatch.Proofs.Pass.Trail
import LinePatch.Proofs.Sink.Buffered

/-!
# A pass from file to file

A pass whose output is an open file extends that file and changes nothing else, however it ends. From a file
to a file it cannot fail, and then the output has got all the lines, patched; a directory cannot be read at
all.

## Main results

* `patchFile_of_opened`: when a patch is a pass
* `exists_extend_passFile`, `result_passFile`: any pass extends its output, and what it ends with
* `passFile_of_file`, `passFile_of_directory`: a pass from a file, and from a directory
-/

namespace LinePatch

open Progress

/-- A trail gives its lines to the file behind the buffer, after the rule has been applied to each. -/
theorem Progress.Trail.gave {rule : Rule} {start last : Progress (Buffered OpenFile)}
    {lines : List Bytes} (trail : Trail rule start lines last) :
    Buffered.Gave start.sink last.sink (rule.patched lines) := by
  induction trail with
  | nil => exact .refl start.sink
  | @snoc _ middle line _ _ advances ih =>
    have hwrite := Buffered.accounts_writeAll (rule.apply line).output middle.sink
    rw [advances.write] at hwrite
    rw [rule.patched_concat]
    exact ih.trans hwrite

section

variable {rule : Rule} {route : Route} {files : FileSystem} {input output : NodeId}

/-- A patch whose files can be opened is a pass, over the file system in which the output has been
created. -/
theorem patchFile_of_opened {created : FileSystem} (hinput : files.openInput route.input = .ok input)
    (houtput : files.createOutput route.output = .ok (output, created)) :
    patchFile rule route files =
      let outcome := passFile rule route created input output
      { result := outcome.result
        files := outcome.progress.sink.sink.files
        events :=
          .started route :: outcome.progress.changes.toList.map .changed
            ++ Event.ofResult route outcome.result } := by
  simp only [patchFile, hinput, houtput]

/-- However a pass ends, it has extended its output. -/
theorem exists_extend_passFile (rule : Rule) (route : Route) (files : FileSystem)
    (input output : NodeId) :
    ∃ given, (passFile rule route files input output).progress.sink.sink.files =
      files.extend output given := by
  obtain ⟨lines, last, result, final, trail, stops, hrun⟩ :=
    exists_trail_stops (σ := Buffered OpenFile) rule route
      { source := files.source input, sink := { sink := { files, node := output } } }
  suffices h : ∃ given, final.sink.sink = OpenFile.extend given { files, node := output } by
    obtain ⟨given, hfinal⟩ := h
    refine ⟨given, ?_⟩
    rw [passFile, hrun, hfinal]
    rfl
  cases stops with
  | finished read flush =>
    have haccounts := Buffered.accounts_of_gave trail.gave (Buffered.accounts_flush last.sink)
    rw [flush] at haccounts
    obtain ⟨given, hsink, -⟩ := haccounts
    exact ⟨given, hsink⟩
  | flushFailed read flush =>
    have haccounts := Buffered.accounts_of_gave trail.gave (Buffered.accounts_flush last.sink)
    rw [flush] at haccounts
    exact haccounts.2
  | readFailed read =>
    obtain ⟨given, hsink, -⟩ := trail.gave
    exact ⟨given, hsink⟩
  | @writeFailed line _ _ _ read write =>
    have haccounts := Buffered.accounts_of_gave trail.gave
      (Buffered.accounts_writeAll (rule.apply line).output last.sink)
    rw [write] at haccounts
    exact haccounts.2

/-- A pass ends with its counts, or with an error of the input or of the output. -/
theorem result_passFile (rule : Rule) (route : Route) (files : FileSystem) (input output : NodeId) :
    (∃ summary, (passFile rule route files input output).result = .ok summary) ∨
      (∃ line cause, (passFile rule route files input output).result =
        .error (.read route.input line cause)) ∨
      ∃ line cause, (passFile rule route files input output).result =
        .error (.write route.output line cause) := by
  obtain ⟨lines, last, result, final, trail, stops, hrun⟩ :=
    exists_trail_stops (σ := Buffered OpenFile) rule route
      { source := files.source input, sink := { sink := { files, node := output } } }
  rw [passFile, hrun]
  cases stops with
  | finished => exact .inl ⟨_, rfl⟩
  | readFailed => exact .inr (.inl ⟨_, _, rfl⟩)
  | flushFailed => exact .inr (.inr ⟨_, _, rfl⟩)
  | writeFailed => exact .inr (.inr ⟨_, _, rfl⟩)

/-- A pass from a file to a file does not fail, and the output has got all lines, patched. -/
theorem passFile_of_file (rule : Rule) (route : Route) {contents : Bytes}
    (hinput : files.node? input = some (.file contents))
    (houtput : OpenFile.IsFile { files, node := output }) :
    (passFile rule route files input output).result = .ok (rule.tally (Bytes.lines contents)) ∧
      (passFile rule route files input output).progress.sink.sink.files =
        files.extend output (rule.patched (Bytes.lines contents)) := by
  obtain ⟨lines, last, result, final, trail, stops, hrun⟩ :=
    exists_trail_stops (σ := Buffered OpenFile) rule route
      { source := files.source input, sink := { sink := { files, node := output } } }
  have hreading := trail.reading_eq
  have hsource : files.source input = .ofBytes contents := by simp only [FileSystem.source, hinput]
  simp only [hsource, Source.reading_ofBytes] at hreading
  have hsummary : last.summary = rule.tally lines := trail.summary_eq rfl
  rw [passFile, hrun]
  cases stops with
  | finished read flush =>
    have haccounts := Buffered.accounts_of_gave trail.gave (Buffered.accounts_flush last.sink)
    rw [flush, List.append_nil] at haccounts
    have hsink := Buffered.Gave.sink_eq haccounts rfl (Buffered.buffer_of_flush_ok flush)
    simp only [Source.reading_of_ended read, List.append_nil, Reading.mk.injEq] at hreading
    rw [hreading.1]
    exact ⟨congrArg _ hsummary, congrArg OpenFile.files hsink⟩
  | flushFailed read flush =>
    have haccounts := Buffered.accounts_of_gave trail.gave (Buffered.accounts_flush last.sink)
    rw [flush] at haccounts
    exact absurd houtput haccounts.1
  | readFailed read =>
    simp [Source.reading_of_failed read] at hreading
  | @writeFailed line _ _ _ read write =>
    have haccounts := Buffered.accounts_of_gave trail.gave
      (Buffered.accounts_writeAll (rule.apply line).output last.sink)
    rw [write] at haccounts
    exact absurd houtput haccounts.1

/-- A directory cannot be read, not even its first line, and then nothing is written. -/
theorem passFile_of_directory (rule : Rule) (route : Route) (output : NodeId)
    (hinput : (files.directory? input).isSome) :
    (passFile rule route files input output).result =
        .error (.read route.input 1 (.system .isADirectory)) ∧
      (passFile rule route files input output).progress.sink.sink.files = files := by
  obtain ⟨⟨parent, entries⟩, hdirectory⟩ := Option.isSome_iff_exists.mp hinput
  have hsource : files.source input = .ofFills [.failure (.system .isADirectory)] := by
    simp only [FileSystem.source, FileSystem.directory?_eq_some_iff.mp hdirectory]
  let sink : Buffered OpenFile := { sink := { files, node := output } }
  have hstep : Progress.step rule route { source := .ofFills [.failure (.system .isADirectory)], sink } =
      .stop (.error (.read route.input 1 (.system .isADirectory))) { source := .ofFills [], sink } := rfl
  rw [passFile, hsource, run_of_step_stop hstep]
  exact ⟨rfl, rfl⟩

end

end LinePatch
