import LinePatch.Proofs.Source.Consumption
import Mathlib.Data.List.TakeWhile

/-!
# Fills in groups

An empty chunk ends a line that has begun, but not always the input. What a source gives is seen best if
its fills are cut at the empty chunks into groups; the end of the fills counts as an empty chunk too, and
interrupted fills are left out. A line read is a line of the group at hand, or the rest of the group if
that has no line break; a failure for good inside a group comes before the empty chunk that would close it.

## Main definitions

* `Source.Group`, `Source.group`: what a source gives up to its next empty chunk
* `Source.FirstOfGroup`: what reading a line gives, in terms of the group at hand

## Main results

* `Source.firstOfGroup_readLine`: reading a line takes it from the group at hand
* `Source.Group.left_ofFills_eq_nil`: without an empty chunk there is one group
-/

namespace LinePatch

namespace Source

/-! ## The first line break -/

theorem newline_notMem_of_dropWhile {unread : Bytes} (h : unread.dropWhile (· ≠ newline) = []) :
    newline ∉ unread := by
  intro hmem
  simpa using List.dropWhile_eq_nil_iff.mp h newline hmem

/-- Where a line break has arrived, it is the first one. -/
theorem eq_newline_of_dropWhile {unread rest : Bytes} {b : UInt8}
    (h : unread.dropWhile (· ≠ newline) = b :: rest) :
    b = newline ∧ newline ∉ unread.takeWhile (· ≠ newline) ∧
      unread = unread.takeWhile (· ≠ newline) ++ newline :: rest := by
  have hb : b = newline := by
    have hhead := List.head?_dropWhile_not (fun b => decide (b ≠ newline)) unread
    rw [h] at hhead
    simpa using hhead
  refine ⟨hb, ?_, ?_⟩
  · intro hmem
    simpa using List.mem_takeWhile_imp hmem
  · rw [hb] at h
    rw [← h, List.takeWhile_append_dropWhile]

theorem newline_notMem_reverseAux {taken unread : Bytes} (htaken : newline ∉ taken)
    (hunread : newline ∉ unread) : newline ∉ unread.reverseAux taken := by
  simp [List.reverseAux_eq, htaken, hunread]

/-! ## Groups -/

/-- What a source gives up to its next empty chunk, or up to a failure for good in front of that. -/
structure Group where
  /-- The bytes of all chunks together. -/
  bytes : Bytes
  /-- The failure that ended the group, if it was no empty chunk. -/
  failure? : Option IoError
  /-- The fills behind the group. -/
  left : List Fill

namespace Group

/-- A group with further bytes in front. -/
def prepend (bytes : Bytes) (group : Group) : Group :=
  { group with bytes := bytes ++ group.bytes }

@[simp] theorem prepend_bytes (bytes : Bytes) (group : Group) :
    (group.prepend bytes).bytes = bytes ++ group.bytes := rfl

@[simp] theorem prepend_failure? (bytes : Bytes) (group : Group) :
    (group.prepend bytes).failure? = group.failure? := rfl

@[simp] theorem prepend_left (bytes : Bytes) (group : Group) :
    (group.prepend bytes).left = group.left := rfl

theorem prepend_prepend (head tail : Bytes) (group : Group) :
    (group.prepend tail).prepend head = group.prepend (head ++ tail) := by
  simp [prepend]

/-- The first group of some fills, which the end of the fills closes, or an empty chunk, or a failure for good. -/
def ofFills : List Fill → Group
  | [] => { bytes := [], failure? := none, left := [] }
  | .chunk [] :: fills => { bytes := [], failure? := none, left := fills }
  | .chunk bytes :: fills => (ofFills fills).prepend bytes
  | .failure error :: fills =>
    if error.isInterrupted then ofFills fills
    else { bytes := [], failure? := some error, left := fills }

/-- A group with bytes takes at least one fill. -/
theorem length_left_ofFills (fills : List Fill) :
    (ofFills fills).left.length ≤ fills.length ∧
      ((ofFills fills).bytes ≠ [] → (ofFills fills).left.length < fills.length) := by
  fun_induction ofFills fills with
  | case1 => simp
  | case2 fills => simp
  | case3 bytes fills _ ih =>
    simp only [prepend_left, List.length_cons]
    omega
  | case4 error fills _ ih =>
    obtain ⟨hle, -⟩ := ih
    simp only [List.length_cons]
    omega
  | case5 => simp

/-- Without an empty chunk a group ends at a failure or with the fills. -/
theorem left_ofFills_eq_nil {fills : List Fill} (hchunks : .chunk [] ∉ fills)
    (hnone : (ofFills fills).failure? = none) : (ofFills fills).left = [] := by
  fun_induction ofFills fills with
  | case1 => rfl
  | case2 => simp at hchunks
  | case3 bytes fills _ ih => exact ih (mt (List.mem_cons_of_mem _) hchunks) hnone
  | case4 error fills _ ih => exact ih (mt (List.mem_cons_of_mem _) hchunks) hnone
  | case5 => simp at hnone

end Group

/-- The group at hand: it begins with the bytes that have arrived. -/
def group (source : Source) : Group :=
  (Group.ofFills source.fills).prepend source.unread

/-! ## Lines of a group -/

/-- What reading a line gives, in terms of the group at hand. -/
def FirstOfGroup (group : Group) : LineRead → Prop
  | .line line rest =>
    (∃ head, newline ∉ head ∧ line = head ++ [newline] ∧ group = rest.group.prepend line) ∨
      newline ∉ line ∧ line ≠ [] ∧ group.bytes = line ∧ group.failure? = none ∧
        rest = ofFills group.left
  | .ended rest => group.bytes = [] ∧ group.failure? = none ∧ rest = ofFills group.left
  | .failed error rest =>
    newline ∉ group.bytes ∧ group.failure? = some error ∧ rest = ofFills group.left

/-- An empty chunk ends the line that has begun. -/
theorem firstOfGroup_endLine {taken : Bytes} (h : newline ∉ taken) (left : List Fill) :
    FirstOfGroup { bytes := taken.reverse, failure? := none, left } (endLine taken (ofFills left)) := by
  cases taken with
  | nil => exact ⟨rfl, rfl, rfl⟩
  | cons b taken =>
    have hline : newline ∉ (b :: taken).reverse := mt List.mem_reverse.mp h
    exact .inr ⟨hline, by simp, rfl, rfl, rfl⟩

theorem firstOfGroup_readLineFrom (taken unread : Bytes) (fills : List Fill) (htaken : newline ∉ taken) :
    FirstOfGroup ((Group.ofFills fills).prepend (taken.reverse ++ unread))
      (readLineFrom taken unread fills) := by
  fun_induction readLineFrom taken unread fills with
  | case1 fills taken unread lineBreak rest hdrop =>
    obtain ⟨rfl, hhead, hunread⟩ := eq_newline_of_dropWhile hdrop
    refine .inl ⟨taken.reverse ++ unread.takeWhile (· ≠ newline), ?_, ?_, ?_⟩
    · intro hmem
      rcases List.mem_append.mp hmem with hmem | hmem
      · exact htaken (List.mem_reverse.mp hmem)
      · exact hhead hmem
    · rw [List.append_assoc]
    · rw [group, Group.prepend_prepend]
      nth_rewrite 1 [hunread]
      simp only [List.append_assoc, List.singleton_append]
  | case2 taken unread hdrop taken' =>
    have hend := firstOfGroup_endLine
      (newline_notMem_reverseAux htaken (newline_notMem_of_dropWhile hdrop)) []
    simpa [taken', List.reverseAux_eq, Group.ofFills, Group.prepend] using hend
  | case3 taken unread hdrop taken' fills =>
    have hend := firstOfGroup_endLine
      (newline_notMem_reverseAux htaken (newline_notMem_of_dropWhile hdrop)) fills
    simpa [taken', List.reverseAux_eq, Group.ofFills, Group.prepend] using hend
  | case4 taken unread hdrop taken' chunk fills hchunk ih =>
    have hnext := ih (newline_notMem_reverseAux htaken (newline_notMem_of_dropWhile hdrop))
    simpa [taken', List.reverseAux_eq, Group.ofFills, hchunk, Group.prepend] using hnext
  | case5 taken unread hdrop taken' error fills hinterrupted ih =>
    have hnext := ih (newline_notMem_reverseAux htaken (newline_notMem_of_dropWhile hdrop))
    simpa [taken', List.reverseAux_eq, Group.ofFills, hinterrupted, Group.prepend] using hnext
  | case6 taken unread hdrop error fills hfailed =>
    have hunread := newline_notMem_of_dropWhile hdrop
    simp [FirstOfGroup, Group.ofFills, hfailed, Group.prepend, htaken, hunread]

theorem firstOfGroup_readLine (source : Source) : FirstOfGroup source.group source.readLine :=
  firstOfGroup_readLineFrom [] source.unread source.fills List.not_mem_nil

end Source

end LinePatch
