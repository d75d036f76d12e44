import LinePatch.Proofs.FileSystem.Growth
import LinePatch.Sink

/-!
# What a buffered file has been given

A buffer in front of an open file holds bytes back and gives them on in larger pieces. Whatever the lengths
of the pieces it takes, the file has got a start of all of them, in order, and the buffer holds the rest;
after a flush the file has got them all. Only what is no regular file can fail, and it keeps nothing.

## Main definitions

* `OpenFile.extend`, `OpenFile.IsFile`: an open node with bytes at its end, and one that takes them
* `Buffered.Gave`: the bytes taken are those given on and those held back
* `Buffered.Accounts`: what an operation of a buffered file has done

## Main results

* `Buffered.accounts_writeAll`, `Buffered.accounts_flush`: the two operations
* `Buffered.buffer_of_flush_ok`: nothing is held back after a flush
-/

namespace LinePatch

namespace OpenFile

/-- Adds bytes at the end of what is written to. -/
def extend (bytes : Bytes) (out : OpenFile) : OpenFile :=
  { out with files := out.files.extend out.node bytes }

@[simp] theorem extend_nil (out : OpenFile) : out.extend [] = out := by
  simp [extend]

@[simp] theorem extend_extend (out : OpenFile) (bytes more : Bytes) :
    (out.extend bytes).extend more = out.extend (bytes ++ more) := by
  simp [extend]

/-- What is written to is a regular file. -/
def IsFile (out : OpenFile) : Prop :=
  ∃ contents, out.files.node? out.node = some (.file contents)

theorem IsFile.extend {out : OpenFile} (h : out.IsFile) (bytes : Bytes) : (out.extend bytes).IsFile := by
  obtain ⟨contents, hfile⟩ := h
  exact ⟨contents ++ bytes, FileSystem.node?_extend_self hfile bytes⟩

/-- What writing some bytes has done. -/
def Accounts (bytes : Bytes) (out : OpenFile) : EStateM.Result IoError OpenFile Unit → Prop
  | .ok () next => next = out.extend bytes
  | .error _ next => next = out ∧ ¬ out.IsFile

theorem accounts_append (bytes : Bytes) (out : OpenFile) : Accounts bytes out (out.append bytes) := by
  unfold append
  split
  next contents hfile =>
    simp only [Accounts, extend, FileSystem.setNode_eq_extend hfile]
  next hnull =>
    have hfile : ∀ contents, out.files.node? out.node ≠ some (.file contents) := by simp [hnull]
    simp only [Accounts, extend, FileSystem.extend_eq_self hfile]
  next hfull =>
    refine ⟨rfl, ?_⟩
    rintro ⟨contents, hfile⟩
    simp [hfull] at hfile
  next hfile _ _ =>
    refine ⟨rfl, ?_⟩
    rintro ⟨contents, hcontents⟩
    exact hfile contents hcontents

theorem accounts_writeAll (bytes : Bytes) (out : OpenFile) :
    Accounts bytes out (Sink.writeAll bytes out) := by
  change Accounts bytes out (writeAll bytes out)
  unfold writeAll
  split
  next hnil =>
    rw [List.isEmpty_iff.mp hnil]
    exact (extend_nil out).symm
  next => exact accounts_append bytes out

end OpenFile

namespace Buffered

variable {out middle next : Buffered OpenFile} {bytes more : Bytes}
  {result : EStateM.Result IoError (Buffered OpenFile) Unit}

/-- Some bytes were taken, and those that were not given on are held back, behind what was held back. -/
def Gave (out next : Buffered OpenFile) (bytes : Bytes) : Prop :=
  ∃ given, next.sink = out.sink.extend given ∧
    given ++ next.buffer.toList = out.buffer.toList ++ bytes

theorem Gave.refl (out : Buffered OpenFile) : Gave out out [] :=
  ⟨[], (OpenFile.extend_nil out.sink).symm, (List.append_nil _).symm⟩

theorem Gave.trans (h : Gave out middle bytes) (h' : Gave middle next more) :
    Gave out next (bytes ++ more) := by
  obtain ⟨given, hsink, hbytes⟩ := h
  obtain ⟨given', hsink', hbytes'⟩ := h'
  refine ⟨given ++ given', ?_, ?_⟩
  · rw [hsink', hsink, OpenFile.extend_extend]
  · rw [List.append_assoc, hbytes', ← List.append_assoc, hbytes, List.append_assoc]

/-- What taking some bytes has done: it fails only if there is no file to write to. -/
def Accounts (bytes : Bytes) (out : Buffered OpenFile) :
    EStateM.Result IoError (Buffered OpenFile) Unit → Prop
  | .ok () next => Gave out next bytes
  | .error _ next => ¬ out.sink.IsFile ∧ ∃ given, next.sink = out.sink.extend given

theorem accounts_of_gave (h : Gave out middle bytes) (hresult : Accounts more middle result) :
    Accounts (bytes ++ more) out result := by
  cases result with
  | ok _ next => exact h.trans hresult
  | error error next =>
    obtain ⟨given, hsink, -⟩ := h
    obtain ⟨hfile, given', hsink'⟩ := hresult
    rw [hsink] at hfile hsink'
    refine ⟨?_, given ++ given', ?_⟩
    · intro hout
      exact hfile (hout.extend given)
    · rw [hsink', OpenFile.extend_extend]

theorem accounts_pass (bytes : Bytes) (hbuffer : out.buffer = #[]) :
    Accounts bytes out (out.pass bytes) := by
  have hsink := OpenFile.accounts_writeAll bytes out.sink
  unfold pass
  split
  next sink hwrite =>
    rw [hwrite] at hsink
    exact ⟨bytes, hsink, by simp [hbuffer]⟩
  next error sink hwrite =>
    rw [hwrite] at hsink
    obtain ⟨rfl, hfile⟩ := hsink
    exact ⟨hfile, [], (OpenFile.extend_nil out.sink).symm⟩

theorem accounts_empty (out : Buffered OpenFile) : Accounts [] out out.empty := by
  unfold empty
  split
  next => exact .refl out
  next =>
    have hpass : Accounts out.buffer.toList { out with buffer := #[] } _ :=
      accounts_pass out.buffer.toList rfl
    revert hpass
    cases pass out.buffer.toList { out with buffer := #[] } with
    | ok _ next =>
      rintro ⟨given, hsink, hbytes⟩
      exact ⟨given, hsink, by rw [hbytes, List.append_nil]; rfl⟩
    | error error next => exact id

theorem buffer_of_empty_ok (h : out.empty = .ok () next) : next.buffer = #[] := by
  unfold empty at h
  split at h
  next hempty =>
    cases h
    exact Array.isEmpty_iff.mp hempty
  next =>
    unfold pass at h
    split at h <;> cases h
    rfl

/-- The file has got all the bytes when nothing is held back. -/
theorem Gave.sink_eq (h : Gave out next bytes) (hout : out.buffer = #[]) (hnext : next.buffer = #[]) :
    next.sink = out.sink.extend bytes := by
  obtain ⟨given, hsink, hbytes⟩ := h
  simp only [hout, hnext, List.append_nil, List.nil_append] at hbytes
  rw [hsink, hbytes]

theorem accounts_put (hbuffer : capacity ≤ bytes.length → out.buffer = #[]) :
    Accounts bytes out (out.put bytes) := by
  unfold put
  split
  next hlong => exact accounts_pass bytes (hbuffer hlong)
  next => exact ⟨[], (OpenFile.extend_nil out.sink).symm, by simp⟩

theorem accounts_writeAll (bytes : Bytes) (out : Buffered OpenFile) :
    Accounts bytes out (Sink.writeAll bytes out) := by
  change Accounts bytes out (writeAll bytes out)
  unfold writeAll
  split
  next hfull =>
    have hempty := accounts_empty out
    split
    next middle hmiddle =>
      rw [hmiddle] at hempty
      exact accounts_of_gave hempty (accounts_put fun _ => buffer_of_empty_ok hmiddle)
    next error middle hmiddle =>
      rw [hmiddle] at hempty
      exact hempty
  next hfits =>
    refine accounts_put ?_
    intro hlong
    rw [← Array.size_eq_zero_iff]
    omega

theorem accounts_flush (out : Buffered OpenFile) : Accounts [] out (Sink.flush out) := by
  have hempty := accounts_empty out
  change Accounts [] out (flush out)
  unfold flush
  split
  next middle hmiddle =>
    rw [hmiddle] at hempty
    exact hempty
  next error middle hmiddle =>
    rw [hmiddle] at hempty
    exact hempty

theorem buffer_of_flush_ok (h : Sink.flush out = .ok () next) : next.buffer = #[] := by
  change flush out = _ at h
  unfold flush at h
  split at h
  next middle hmiddle =>
    cases h
    exact buffer_of_empty_ok hmiddle
  next => cases h

end Buffered

end LinePatch
