import LinePatch.Proofs.FilePatch.Pass
import LinePatch.Proofs.FileSystem.Creation

/-!
# What patching a file can touch

A patch that cannot open its input, or cannot create its output, changes nothing at all. Any other patch,
whether it succeeds or fails, changes the contents of the file to which the path of its output leads and
nothing else, unless it makes that file, and then the directory has one more name.

## Main definitions

* `FileSystem.AgreeExcept`: two file systems that differ at most at some nodes
* `FileSystem.WrittenAt`: all that writing to the file of a path can change
* `FileOutcome.Touches`: what a patch can have changed, by its result

## Main results

* `FileSystem.Creates.writtenAt`: what creating a file and writing to it changes
* `patchFile_touches`: what a patch changes
-/

namespace LinePatch

namespace FileSystem

/-- Two systems differ at most at some nodes. -/
structure AgreeExcept (nodes : List NodeId) (files next : FileSystem) : Prop where
  root_eq : next.root = files.root
  working_eq : next.working = files.working
  node?_eq : ∀ id, id ∉ nodes → next.node? id = files.node? id

/-- The file of a path has been written to, and nothing else has changed. -/
inductive WrittenAt (files : FileSystem) (path : String) (next : FileSystem) : Prop
  /-- The path leads to a node as before. If it is a file, its contents can have changed. -/
  | existing {id} (hbefore : files.openInput path = .ok id) (hafter : next.openInput path = .ok id)
      (hnode : next.node? id = files.node? id ∨ ∃ contents contents',
        files.node? id = some (.file contents) ∧ next.node? id = some (.file contents'))
      (hothers : AgreeExcept [id] files next)
  /-- The path leads to a new file, for which a directory has got one more name. -/
  | made {directory parent entries name id contents}
      (hbefore : files.openInput path = .error (.system .noSuchFile))
      (hafter : next.openInput path = .ok id)
      (hdirectory : files.directory? directory = some (parent, entries))
      (hvacant : entries.lookup name = none)
      (hnamed : next.directory? directory = some (parent, entries ++ [(name, id)]))
      (hfree : files.node? id = none) (hfile : next.node? id = some (.file contents))
      (hothers : AgreeExcept [directory, id] files next)

variable {files created : FileSystem} {path : String} {id : NodeId}

/-- Creating a file and writing to it changes nothing else. -/
theorem Creates.writtenAt (h : files.Creates path id created) (bytes : Bytes) :
    files.WrittenAt path (created.extend id bytes) := by
  have hafter := h.openInput_extend bytes
  have hkeeps := h.keepsPaths_extend bytes
  cases h with
  | @emptied id contents hfollow hfile =>
    have hfile' := node?_extend_self (node?_setNode_self hfile (.file [])) bytes
    refine .existing (openInput_eq_ok_iff.mpr (follow_use_of_create hfollow)) hafter
      (.inr ⟨contents, _, hfile, hfile'⟩) ⟨hkeeps.root_eq, hkeeps.working_eq, ?_⟩
    intro other hother
    have hne : id ≠ other := Ne.symm (List.ne_of_not_mem_cons hother)
    rw [node?_extend, if_neg hne, node?_setNode, if_neg hne]
  | device hfollow hdevice =>
    rw [extend_eq_self (by simp [hdevice])] at hafter ⊢
    exact .existing hafter hafter (.inl rfl) ⟨rfl, rfl, fun _ _ => rfl⟩
  | @made directory parent entries name hfollow hdirectory hlookup =>
    have hbefore : files.openInput path = .error (.system .noSuchFile) := by
      simp only [FileSystem.openInput, follow_use_of_create hfollow]
    have hfile := node?_extend_self (node?_addNamed_self hdirectory name (.file [])) bytes
    refine .made hbefore hafter hdirectory hlookup ?_ files.node?_size hfile
      ⟨hkeeps.root_eq, hkeeps.working_eq, ?_⟩
    · rw [directory?_eq_some_iff, node?_extend, if_neg (ne_size_of_directory? hdirectory).symm,
        ← directory?_eq_some_iff, directory?_addNamed hdirectory]
    · intro other hother
      simp only [List.mem_cons, List.not_mem_nil, or_false, not_or] at hother
      obtain ⟨hdirectory', hid⟩ := hother
      rw [node?_extend, if_neg (Ne.symm hid), node?_addNamed hdirectory, if_neg (Ne.symm hdirectory'),
        if_neg hid]

end FileSystem

/-- What a patch can have changed, by its result. -/
def FileOutcome.Touches (route : Route) (files : FileSystem) (outcome : FileOutcome) : Prop :=
  match outcome.result with
  | .error (.openInput path cause) =>
    path = route.input ∧ files.openInput route.input = .error cause ∧ outcome.files = files
  | .error (.createOutput path cause) =>
    path = route.output ∧ (∃ input, files.openInput route.input = .ok input) ∧
      files.createOutput route.output = .error cause ∧ outcome.files = files
  | _ => files.WrittenAt route.output outcome.files

/-- **What a patch touches.** A patch that cannot open its input changes nothing, and says so even if the
output could not have been created either. One that cannot create its output changes nothing either, and
has opened its input. Any other patch, however it ends, writes to the file of its output and changes
nothing else. A directory as input is found to be unreadable when the output has been created, which is
left empty. -/
theorem patchFile_touches (rule : Rule) (route : Route) (files : FileSystem) :
    let outcome := patchFile rule route files
    outcome.Touches route files ∧
      (∀ cause, files.openInput route.input = .error cause →
        outcome.result = .error (.openInput route.input cause)) ∧
      (∀ input output created, files.openInput route.input = .ok input →
        (files.directory? input).isSome → files.createOutput route.output = .ok (output, created) →
        outcome.result = .error (.read route.input 1 (.system .isADirectory)) ∧
          outcome.files.openInput route.output = .ok output ∧
          (outcome.files.node? output = some (.file []) ∨
            outcome.files = files ∧ ∃ device, files.node? output = some (.device device))) := by
  intro outcome
  refine ⟨?_, ?_, ?_⟩
  · cases hinput : files.openInput route.input with
    | error cause =>
      simp only [outcome, patchFile_of_openInput_error hinput, FileOutcome.Touches]
      exact ⟨trivial, hinput, trivial⟩
    | ok input =>
      cases houtput : files.createOutput route.output with
      | error cause =>
        simp only [outcome, patchFile_of_createOutput_error hinput houtput, FileOutcome.Touches]
        exact ⟨trivial, ⟨input, hinput⟩, houtput, trivial⟩
      | ok opened =>
        obtain ⟨output, created⟩ := opened
        obtain ⟨given, hgiven⟩ := exists_extend_passFile rule route created input output
        have hwritten := (FileSystem.createOutput_eq_ok_iff.mp houtput).writtenAt given
        simp only [outcome, patchFile_of_opened hinput houtput, FileOutcome.Touches, hgiven]
        rcases result_passFile rule route created input output with
          ⟨summary, hresult⟩ | ⟨line, cause, hresult⟩ | ⟨line, cause, hresult⟩
        all_goals
          rw [hresult]
          exact hwritten
  · intro cause hinput
    simp only [outcome, patchFile_of_openInput_error hinput]
  · intro input output created hinput hdirectory houtput
    have hcreates := FileSystem.createOutput_eq_ok_iff.mp houtput
    obtain ⟨hresult, hfiles⟩ := passFile_of_directory rule route output
      (hcreates.keepsPaths.isSome_directory? hdirectory)
    simp only [outcome, patchFile_of_opened hinput houtput, hresult, hfiles]
    exact ⟨trivial, hcreates.openInput, hcreates.node?⟩

/-- Neither file can be opened; and a directory is patched through a link to a name that is vacant. -/
theorem patchFile_touches_through_links :
    let files : FileSystem := {
      nodes := #[.directory 0 [("below", 1), ("circle", 2), ("dangling", 3)], .directory 0 [],
        .link "circle", .link "below/new"]
      root := 0
      working := 0 }
    let outcome (route : Route) := patchFile .assertReturn route files
    (files.openInput "missing" = .error (.system .noSuchFile) ∧
        (outcome ⟨"missing", "circle"⟩).result = .error (.openInput "missing" (.system .noSuchFile)) ∧
        (outcome ⟨"missing", "circle"⟩).files = files) ∧
      (files.openInput "below" = .ok 1 ∧ (files.directory? 1).isSome ∧
        files.createOutput "dangling" = .ok (files.addNamed 1 "new" (.file []))) ∧
      (outcome ⟨"below", "dangling"⟩).result = .error (.read "below" 1 (.system .isADirectory)) ∧
        (outcome ⟨"below", "dangling"⟩).files.openInput "dangling" = .ok 4 := by
  intro files outcome
  have hmissing : files.openInput "missing" = .error (.system .noSuchFile) := by decide +kernel
  have hbelow : files.openInput "below" = .ok 1 := by decide +kernel
  have hcreate : files.createOutput "dangling" = .ok (files.addNamed 1 "new" (.file [])) := by
    decide +kernel
  obtain ⟨htouches, hfailed, -⟩ := patchFile_touches .assertReturn ⟨"missing", "circle"⟩ files
  obtain ⟨-, -, hdirectory⟩ := patchFile_touches .assertReturn ⟨"below", "dangling"⟩ files
  have hresult := hfailed _ hmissing
  obtain ⟨hunread, hopen, -⟩ := hdirectory 1 4 _ hbelow rfl hcreate
  refine ⟨⟨hmissing, hresult, ?_⟩, ⟨hbelow, rfl, hcreate⟩, hunread, hopen⟩
  rw [FileOutcome.Touches, hresult] at htouches
  exact htouches.2.2

end LinePatch
