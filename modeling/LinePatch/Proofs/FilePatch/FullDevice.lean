import LinePatch.Proofs.FilePatch.Pass
import LinePatch.Proofs.FileSystem.Creation
import LinePatch.Proofs.Sink.Refusing
import Mathlib.Order.Bounds.Basic

/-!
# Patching into a device that is full

A pass that writes through a buffer to a sink that takes nothing notices so late: at the first patched line
that does not stay in the buffer, or else when it flushes what the buffer holds. If all the patched lines are
empty it never notices. The line that is reported therefore depends on the lengths of the patched lines alone.

## Main definitions

* `Rule.widths`: the lengths of lines to which a rule has been applied
* `Progress.RefusedResult`: what a pass to a sink that takes nothing ends with

## Main results

* `Progress.Trail.holds`: what such a pass has written is all in the buffer
* `Progress.refusedResult_run`: the result of such a pass
* `patchFile_to_full_device`: the result of patching a regular file into the full device
-/

namespace LinePatch

open Buffered

/-- The lengths of lines, after a rule has been applied to each of them. -/
def Rule.widths (rule : Rule) (lines : List Bytes) : List Nat :=
  lines.map fun line => (rule.apply line).output.length

@[simp] theorem Rule.length_widths (rule : Rule) (lines : List Bytes) :
    (rule.widths lines).length = lines.length :=
  List.length_map _

namespace Progress

variable {σ : Type} [Sink σ] {rule : Rule} {route : Route} {start last final : Progress (Buffered σ)}
  {sink : σ} {error : IoError} {lines : List Bytes} {result : Except PatchError Summary}

/-- The results of a pass over some lines, to a sink that refuses everything with an error. -/
inductive RefusedResult (rule : Rule) (route : Route) (error : IoError) (lines : List Bytes) :
    Except PatchError Summary → Prop
  /-- The first line that did not stay in the buffer is reported. -/
  | overflow {number} (hleast : IsLeast {number | Overflows (rule.widths lines) number} number) :
      RefusedResult rule route error lines (.error (.write route.output number error))
  /-- All lines were held back, and the last is reported. -/
  | held (hstay : ∀ number, ¬ Overflows (rule.widths lines) number) (hpos : 0 < (rule.widths lines).sum) :
      RefusedResult rule route error lines (.error (.write route.output lines.length error))
  /-- There was nothing to write. -/
  | nothing (hsum : (rule.widths lines).sum = 0) :
      RefusedResult rule route error lines (.ok (rule.tally lines))

/-- As long as a pass goes on, the buffer holds all the lines. -/
theorem Trail.holds (trail : Trail rule start lines last) (hrefuses : Refuses sink error)
    (hstart : start.sink = { sink }) : Holds sink (rule.widths lines) last.sink := by
  induction trail with
  | nil =>
    rw [hstart]
    exact .nil sink
  | @snoc _ middle line _ _ advances ih =>
    have hwrite := ih.writeTells hrefuses (rule.apply line).output
    rw [advances.write] at hwrite
    rw [Rule.widths, List.map_append]
    exact hwrite

/-- A pass to a sink that refuses everything. -/
theorem refusedResult_run (rule : Rule) (route : Route) (hrefuses : Refuses sink error)
    (hstart : start.sink = { sink }) (hsummary : start.summary = {})
    (hreading : start.source.reading = { lines, failure? := none }) :
    RefusedResult rule route error lines (start.run rule route).result := by
  obtain ⟨passed, last, result, final, trail, stops, hrun⟩ := exists_trail_stops rule route start
  have hholds := trail.holds hrefuses hstart
  have hlines := hreading.symm.trans trail.reading_eq
  have hcounts := trail.summary_eq hsummary
  have hnumber : last.summary.lines = passed.length := congrArg Summary.lines hcounts
  have hended {source : Source} (read : last.source.readLine = .ended source) : lines = passed := by
    simp only [Source.reading_of_ended read, List.append_nil, Reading.mk.injEq] at hlines
    exact hlines.1
  rw [hrun]
  cases stops with
  | finished read flush =>
    obtain rfl := hended read
    have hflush := hholds.flushTells hrefuses
    rw [flush] at hflush
    rw [hcounts]
    exact .nothing hflush
  | flushFailed read flush =>
    obtain rfl := hended read
    have hflush := hholds.flushTells hrefuses
    rw [flush] at hflush
    obtain ⟨rfl, hpos⟩ := hflush
    rw [hnumber]
    exact .held hholds.stay hpos
  | readFailed read =>
    simp [Source.reading_of_failed read] at hlines
  | @writeFailed line _ _ _ read write =>
    simp only [Source.reading_of_line read, Reading.mk.injEq] at hlines
    obtain ⟨rfl, -⟩ := hlines
    have hwrite := hholds.writeTells hrefuses (rule.apply line).output
    rw [write] at hwrite
    obtain ⟨rfl, hexceeds⟩ := hwrite
    rw [hnumber, ← rule.length_widths]
    refine .overflow ?_
    rw [Rule.widths, List.map_append]
    exact isLeast_overflows hholds.stay hexceeds _

end Progress

/-- The full device takes nothing. -/
theorem OpenFile.refuses_of_full {out : OpenFile} (h : out.files.node? out.node = some (.device .full)) :
    Refuses out (.system .noSpace) where
  writeAll {bytes} hne := by
    change OpenFile.writeAll bytes out = _
    rw [OpenFile.writeAll, if_neg (mt List.isEmpty_iff.mp hne)]
    simp only [OpenFile.append, h]
  flush := rfl

/-- **Patching into the full device**, through a buffer of 8192 bytes. If some patched line is as long as the
buffer, or makes the patched lines up to it longer than the buffer, then the first such line is reported,
with the error number of a device without space. If there is none but something is to be written, the last
line is reported. If nothing is to be written, the patch succeeds with all its counts. -/
theorem patchFile_to_full_device (rule : Rule) (route : Route) (files : FileSystem)
    (input output : NodeId) (contents : Bytes) (hinput : files.openInput route.input = .ok input)
    (hcontents : files.node? input = some (.file contents))
    (houtput : files.openInput route.output = .ok output)
    (hfull : files.node? output = some (.device .full)) :
    let lines := Bytes.lines contents
    let widths := rule.widths lines
    let result := (patchFile rule route files).result
    let failure (number : Nat) := PatchError.write route.output number (.system .noSpace)
    Errno.noSpace.code = 28 ∧
      ((∃ number, Overflows widths number) →
        ∃ number, IsLeast {number | Overflows widths number} number ∧ result = .error (failure number)) ∧
      ((¬ ∃ number, Overflows widths number) → 0 < widths.sum →
        result = .error (failure lines.length)) ∧
      (widths.sum = 0 → result = .ok (rule.tally lines)) := by
  intro lines widths result failure
  have hdirectory : files.directory? output = none := by simp [FileSystem.directory?, hfull]
  have hcreate : files.createOutput route.output = .ok (output, files) :=
    FileSystem.createOutput_eq_ok_iff.mpr
      (.device (FileSystem.follow_create_of_use (FileSystem.openInput_eq_ok_iff.mp houtput) hdirectory)
        hfull)
  have hsource : files.source input = .ofBytes contents := by simp only [FileSystem.source, hcontents]
  have hresult : Progress.RefusedResult rule route (.system .noSpace) lines result := by
    simp only [result, patchFile_of_opened hinput hcreate, passFile]
    refine Progress.refusedResult_run rule route (OpenFile.refuses_of_full hfull) rfl rfl ?_
    rw [hsource]
    exact Source.reading_ofBytes contents
  clear_value result
  cases hresult with
  | @overflow number hleast =>
    have hnumber : ∃ number, Overflows widths number := ⟨number, hleast.1⟩
    refine ⟨rfl, fun _ => ⟨number, hleast, rfl⟩, fun hnone => absurd hnumber hnone, ?_⟩
    exact fun hzero => absurd hzero hleast.1.sum_pos.ne'
  | held hstay hpos =>
    refine ⟨rfl, ?_, fun _ _ => rfl, fun hzero => absurd hzero hpos.ne'⟩
    rintro ⟨number, hnumber⟩
    exact absurd hnumber (hstay number)
  | nothing hzero =>
    refine ⟨rfl, ?_, fun _ hpos => absurd hzero hpos.ne', fun _ => rfl⟩
    rintro ⟨number, hnumber⟩
    exact absurd hzero hnumber.sum_pos.ne'

/-- Two lines fill the buffer exactly, and the third is reported. A short line is reported at the end, and one
that the rule erases is not. -/
theorem patchFile_to_full_device_border :
    let erase : Rule := ⟨"assert(false);", "", by decide⟩
    let long := List.replicate 8190 120 ++ [newline]
    let files : FileSystem := {
      nodes := #[.directory 0 [("long", 1), ("short", 2), ("erased", 3), ("full", 4)],
        .file (long ++ [newline, newline]), .file [newline], .file (utf8 "assert(false);"), .device .full]
      root := 0
      working := 0 }
    let result (input : String) := (patchFile erase ⟨input, "full"⟩ files).result
    (files.openInput "long" = .ok 1 ∧ files.openInput "short" = .ok 2 ∧
        files.openInput "erased" = .ok 3 ∧ files.openInput "full" = .ok 4 ∧
        files.node? 4 = some (.device .full)) ∧
      result "long" = .error (.write "full" 3 (.system .noSpace)) ∧
      result "short" = .error (.write "full" 1 (.system .noSpace)) ∧
      result "erased" = .ok { lines := 1, changedLines := 1, replacements := 1 } := by
  intro erase long files result
  have hlong : files.openInput "long" = .ok 1 := by decide +kernel
  have hshort : files.openInput "short" = .ok 2 := by decide +kernel
  have herased : files.openInput "erased" = .ok 3 := by decide +kernel
  have hfull : files.openInput "full" = .ok 4 := by decide +kernel
  refine ⟨⟨hlong, hshort, herased, hfull, rfl⟩, ?_, ?_, ?_⟩
  · obtain ⟨-, hoverflow, -, -⟩ := patchFile_to_full_device erase ⟨"long", "full"⟩ files 1 4
      (long ++ [newline, newline]) hlong rfl hfull rfl
    have hx {b : UInt8} (hb : b ∈ List.replicate 8190 120) : b = 120 := List.eq_of_mem_replicate hb
    have hlength : long.length = 8191 := by rw [List.length_append, List.length_replicate]; rfl
    have hlines : Bytes.lines (long ++ [newline, newline]) = [long, [newline], [newline]] :=
      Bytes.lines_cons_line (fun hb => absurd (hx hb) (by decide)) [newline, newline]
    have hkept : erase.apply long = { output := long, count := 0 } := by
      refine Rule.apply_eq_self ?_
      intro h
      have hpattern : 97 ∈ erase.onBytes.pattern := by decide +kernel
      rcases List.mem_append.mp (h.subset hpattern) with hb | hb
      · exact absurd (hx hb) (by decide)
      · exact absurd hb (by decide)
    have hblank : erase.apply [newline] = { output := [newline], count := 0 } := by decide +kernel
    have hwidths : erase.widths (Bytes.lines (long ++ [newline, newline])) = [8191, 1] ++ [1] := by
      simp only [hlines, Rule.widths, List.map_cons, List.map_nil, hkept, hblank, hlength]
      rfl
    have hfirst (number : Nat) : ¬ Overflows [8191] number := fun h => absurd h.capacity_le_sum (by decide)
    have hstay (number : Nat) : ¬ Overflows ([8191] ++ [1]) number :=
      not_overflows_concat hfirst (by decide) number
    have hleast : IsLeast {number | Overflows ([8191, 1] ++ [1]) number} 3 :=
      isLeast_overflows hstay (by decide) []
    rw [hwidths] at hoverflow
    obtain ⟨number, hnumber, hresult⟩ := hoverflow ⟨3, hleast.1⟩
    rw [hnumber.unique hleast] at hresult
    exact hresult
  · obtain ⟨-, -, hheld, -⟩ := patchFile_to_full_device erase ⟨"short", "full"⟩ files 2 4 [newline]
      hshort rfl hfull rfl
    have hwidths : erase.widths (Bytes.lines [newline]) = [1] := by decide +kernel
    rw [hwidths] at hheld
    refine hheld ?_ (by decide)
    rintro ⟨number, hnumber⟩
    exact absurd hnumber.capacity_le_sum (by decide)
  · obtain ⟨-, -, -, hnothing⟩ := patchFile_to_full_device erase ⟨"erased", "full"⟩ files 3 4
      (utf8 "assert(false);") herased rfl hfull rfl
    have hcounts : erase.tally (Bytes.lines (utf8 "assert(false);")) =
        { lines := 1, changedLines := 1, replacements := 1 } := by decide +kernel
    rw [hcounts] at hnothing
    exact hnothing (by decide +kernel)

end LinePatch
