import LinePatch.FileSystem.Edit
import LinePatch.Proofs.FilePatch.Pass
import LinePatch.Proofs.FileSystem.Creation
import LinePatch.Proofs.Stream.Undisturbed

/-!
# What a patched file holds

Patching one regular file into another does to its contents what a pass over a stream does, whatever links
the paths take and whatever the output held before. A file that is patched into itself has been emptied when
its first line is read, and stays empty.

## Main definitions

* `FileSystem.Receives`: a path at which a patch can write without touching its input

## Main results

* `FileSystem.receives_iff_createOutput`: creating such a path gives an empty file, other than the input
* `patchFile_eq_patchStream`: the outcome of patching a regular file
-/

namespace LinePatch

namespace FileSystem

/-- The path leads to a regular file other than the input, or to a name at which one can be made. -/
inductive Receives (files : FileSystem) (input : NodeId) (path : String) : Prop
  | file {output contents} (hopen : files.openInput path = .ok output)
      (hfile : files.node? output = some (.file contents)) (hne : output ≠ input)
  | vacant {directory name} (hfollow : files.follow .create path = .ok (.vacant directory name))

variable {files created : FileSystem} {input output : NodeId} {path : String} {contents : Bytes}

/-- Creating such a path, and no other, gives an empty file that is not the input. -/
theorem receives_iff_createOutput (hinput : files.node? input = some (.file contents)) :
    files.Receives input path ↔
      ∃ output created, files.createOutput path = .ok (output, created) ∧
        created.node? output = some (.file []) ∧ output ≠ input := by
  constructor
  · rintro (⟨hopen, hfile, hne⟩ | @⟨directory, name, hfollow⟩)
    · exact ⟨_, _, createOutput_of_openInput hopen hfile, node?_setNode_self hfile (.file []), hne⟩
    · obtain ⟨parent, entries, hdirectory, -⟩ := exists_of_follow_vacant hfollow
      exact ⟨_, _, createOutput_of_vacant hfollow, node?_addNamed_self hdirectory name (.file []),
        (Nat.ne_of_lt (lt_size_of_node? hinput)).symm⟩
  · rintro ⟨output, created, hcreate, hfile, hne⟩
    cases createOutput_eq_ok_iff.mp hcreate with
    | emptied hfollow hold =>
      exact .file (openInput_eq_ok_iff.mpr (follow_use_of_create hfollow)) hold hne
    | device _ hdevice => simp [hdevice] at hfile
    | made hfollow _ _ => exact .vacant hfollow

theorem read?_eq_some (hopen : files.openInput path = .ok input)
    (hfile : files.node? input = some (.file contents)) : files.read? path = some contents := by
  simp only [read?, hopen, hfile]

end FileSystem

/-- From a file into one that has just been created, all lines are patched. -/
theorem patchFile_of_createOutput (rule : Rule) {route : Route} {files created : FileSystem}
    {input output : NodeId} {contents : Bytes} (hinput : files.openInput route.input = .ok input)
    (hcreate : files.createOutput route.output = .ok (output, created))
    (hcontents : created.node? input = some (.file contents))
    (hempty : created.node? output = some (.file [])) :
    (patchFile rule route files).result = .ok (rule.tally (Bytes.lines contents)) ∧
      (patchFile rule route files).files =
        created.extend output (rule.patched (Bytes.lines contents)) := by
  rw [patchFile_of_opened hinput hcreate]
  exact passFile_of_file rule route hcontents ⟨[], hempty⟩

/-- **Patching a file** does what patching a stream does. If the output is, or can be made, a regular file
other than the input, then the patch succeeds with the counts that a pass over the contents of the input
gives, however they arrive, and the output holds exactly the bytes that such a pass writes, while the
input is as it was. If both paths lead to the same file, the patch succeeds and counts nothing, and the
file is empty. -/
theorem patchFile_eq_patchStream (rule : Rule) (route : Route) (files : FileSystem) (input : NodeId)
    (contents : Bytes) (fills : List Fill) (answers : List WriteAnswer)
    (hinput : files.openInput route.input = .ok input)
    (hcontents : files.node? input = some (.file contents))
    (hstream : Undisturbed contents fills answers) :
    let outcome := patchFile rule route files
    let stream := patchStream rule (.ofFills fills) ({ answers } : ScriptedSink)
    (files.Receives input route.output →
      ∃ summary, stream.result = .ok summary ∧ outcome.result = .ok summary ∧
        outcome.files.read? route.output = some stream.progress.sink.taken ∧
        outcome.files.read? route.input = some contents) ∧
    (files.openInput route.output = .ok input →
      outcome.result = .ok {} ∧ outcome.files.read? route.output = some [] ∧
        outcome.files.read? route.input = some []) := by
  intro outcome stream
  obtain ⟨hstreamed, htaken⟩ := hstream.outcome_eq rule
  constructor
  · intro hreceives
    obtain ⟨output, created, hcreate, hempty, hne⟩ :=
      (FileSystem.receives_iff_createOutput hcontents).mp hreceives
    have hcreates := FileSystem.createOutput_eq_ok_iff.mp hcreate
    have hkept := hcreates.node?_of_ne hcontents hne.symm
    obtain ⟨hresult, hfiles⟩ := patchFile_of_createOutput rule hinput hcreate hkept hempty
    have hsame : outcome.files.node? input = some (.file contents) := by
      rw [hfiles, FileSystem.node?_extend, if_neg hne, hkept]
    have hopen : outcome.files.openInput route.input = .ok input := by
      rw [hfiles]
      exact (hcreates.keepsPaths_extend _).openInput hinput
    refine ⟨_, hstreamed, hresult, ?_, FileSystem.read?_eq_some hopen hsame⟩
    rw [hfiles, htaken]
    exact FileSystem.read?_eq_some (hcreates.openInput_extend _)
      (FileSystem.node?_extend_self hempty _)
  · intro hself
    have hcreate := FileSystem.createOutput_of_openInput hself hcontents
    have hempty := FileSystem.node?_setNode_self hcontents (.file [])
    obtain ⟨hresult, hfiles⟩ := patchFile_of_createOutput rule hinput hcreate hempty hempty
    have hemptied : outcome.files = files.setNode input (.file []) :=
      hfiles.trans (FileSystem.extend_nil _ _)
    have hkeeps := FileSystem.keepsPaths_setNode hcontents []
    rw [hemptied]
    exact ⟨hresult, FileSystem.read?_eq_some (hkeeps.openInput hself) hempty,
      FileSystem.read?_eq_some (hkeeps.openInput hinput) hempty⟩

/-- Through a link into a longer file, at a new name, and into the input itself under its other name. -/
theorem patchFile_eq_patchStream_links :
    let contents := utf8 "assert(false);\n"
    let files : FileSystem := {
      nodes := #[.directory 0 [("in", 1), ("again", 1), ("old", 2), ("link", 3)], .file contents,
        .file (utf8 "much longer than what is written to it\n"), .link "old"]
      root := 0
      working := 0 }
    let outcome (output : String) := patchFile .assertReturn ⟨"in", output⟩ files
    (files.openInput "in" = .ok 1 ∧ files.node? 1 = some (.file contents) ∧
        Undisturbed contents [.chunk contents] []) ∧
      (∀ output ∈ ["link", "new"],
        (outcome output).result = .ok { lines := 1, changedLines := 1, replacements := 1 } ∧
          (outcome output).files.read? output = some (utf8 "assert(false);return \"\";\n") ∧
          (outcome output).files.read? "in" = some contents) ∧
      (outcome "again").result = .ok {} ∧ (outcome "again").files.read? "again" = some [] ∧
        (outcome "again").files.read? "in" = some [] := by
  intro contents files outcome
  have hinput : files.openInput "in" = .ok 1 := by decide +kernel
  have hcontents : files.node? 1 = some (.file contents) := rfl
  have hstream : Undisturbed contents [.chunk contents] [] :=
    ⟨by decide, by decide, by decide, by decide⟩
  obtain ⟨hstreamed, htaken⟩ := hstream.outcome_eq .assertReturn
  refine ⟨⟨hinput, hcontents, hstream⟩, ?_, ?_⟩
  · intro output houtput
    have hreceives : files.Receives 1 output := by
      rcases List.mem_pair.mp houtput with rfl | rfl
      · exact .file (show files.openInput "link" = .ok 2 by decide +kernel) rfl (by decide)
      · exact .vacant (show files.follow .create "new" = .ok (.vacant 0 "new") by decide +kernel)
    obtain ⟨hpatched, -⟩ := patchFile_eq_patchStream .assertReturn ⟨"in", output⟩ files 1 contents
      [.chunk contents] [] hinput hcontents hstream
    obtain ⟨summary, hsummary, hresult, hread, hkept⟩ := hpatched hreceives
    rw [htaken] at hread
    refine ⟨?_, hread.trans ?_, hkept⟩
    · rw [hresult, ← hsummary, hstreamed]
      decide +kernel
    · decide +kernel
  · obtain ⟨-, hemptied⟩ := patchFile_eq_patchStream .assertReturn ⟨"in", "again"⟩ files 1 contents
      [.chunk contents] [] hinput hcontents hstream
    exact hemptied (by decide +kernel)

end LinePatch
