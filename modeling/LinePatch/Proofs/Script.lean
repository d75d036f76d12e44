import LinePatch.IoError
import Mathlib.Data.List.Basic

/-!
# What is taken from a script

The fills of a source and the answers of a sink are scripts. They are taken one entry after another, from
the front, and some entries bring an error that ends what takes them. `Took` relates a script to what is
left of it and to the errors in between, in order. Other entries only interrupt; `Omits` relates a script
to the same script without some of them.

## Main definitions

* `Took`: what was taken from a script
* `Omits`: a script and one that lacks some of its interruptions

## Main results

* `Took.trans`: what is taken adds up
* `Took.exists_of_mem`, `Took.errors_eq_nil`: only an entry brings an error
* `Omits.concat`, `Omits.concat_skip`: scripts that grow at their end
-/

namespace LinePatch

variable {α : Type} {error? : α → Option IoError} {script middle left : List α}
  {errors others : List IoError}

/-- Of `script` there is left `left`, and the entries that were taken brought `errors`. -/
def Took (error? : α → Option IoError) (script left : List α) (errors : List IoError) : Prop :=
  ∃ used, script = used ++ left ∧ used.filterMap error? = errors

namespace Took

theorem refl (error? : α → Option IoError) (script : List α) : Took error? script script [] :=
  ⟨[], rfl, rfl⟩

/-- One entry is taken. -/
theorem cons (error? : α → Option IoError) (entry : α) (left : List α) :
    Took error? (entry :: left) left (error? entry).toList := by
  refine ⟨[entry], rfl, ?_⟩
  cases h : error? entry <;> simp [h]

theorem trans (h : Took error? script middle errors) (h' : Took error? middle left others) :
    Took error? script left (errors ++ others) := by
  obtain ⟨used, rfl, rfl⟩ := h
  obtain ⟨used', rfl, rfl⟩ := h'
  refine ⟨used ++ used', ?_, ?_⟩
  · rw [List.append_assoc]
  · rw [List.filterMap_append]

/-- What is left was in the script. -/
theorem mem (h : Took error? script left errors) {entry : α} (hentry : entry ∈ left) :
    entry ∈ script := by
  obtain ⟨used, rfl, -⟩ := h
  exact List.mem_append_right used hentry

/-- Only an entry brings an error. -/
theorem errors_eq_nil (h : Took error? script left errors)
    (hscript : ∀ entry ∈ script, error? entry = none) : errors = [] := by
  obtain ⟨used, rfl, rfl⟩ := h
  rw [List.filterMap_eq_nil_iff]
  intro entry hentry
  exact hscript entry (List.mem_append_left left hentry)

/-- An error was brought by some entry. -/
theorem exists_of_mem (h : Took error? script left errors) {error : IoError} (herror : error ∈ errors) :
    ∃ entry ∈ script, error? entry = some error := by
  obtain ⟨used, rfl, rfl⟩ := h
  obtain ⟨entry, hentry, hsome⟩ := List.mem_filterMap.mp herror
  exact ⟨entry, List.mem_append_left left hentry, hsome⟩

end Took

/-! ## Interruptions -/

/-- `calm` is `script` without some of the entries that only interrupt. -/
inductive Omits (interrupts : α → Bool) : List α → List α → Prop
  | nil : Omits interrupts [] []
  | keep (entry : α) {script calm : List α} (h : Omits interrupts script calm) :
      Omits interrupts (entry :: script) (entry :: calm)
  | skip {entry : α} {script calm : List α} (hentry : interrupts entry)
      (h : Omits interrupts script calm) : Omits interrupts (entry :: script) calm

namespace Omits

variable {interrupts : α → Bool} {calm more calmMore : List α} {entry : α}

theorem refl (interrupts : α → Bool) (script : List α) : Omits interrupts script script := by
  induction script with
  | nil => exact .nil
  | cons entry script ih => exact .keep entry ih

theorem append (h : Omits interrupts script calm) (h' : Omits interrupts more calmMore) :
    Omits interrupts (script ++ more) (calm ++ calmMore) := by
  induction h with
  | nil => exact h'
  | keep entry _ ih => exact .keep entry ih
  | skip hentry _ ih => exact .skip hentry ih

/-- An entry is added to both. -/
theorem concat (h : Omits interrupts script calm) (entry : α) :
    Omits interrupts (script ++ [entry]) (calm ++ [entry]) :=
  h.append (.refl interrupts [entry])

/-- Only the longer one gets an entry, which interrupts. -/
theorem concat_skip (h : Omits interrupts script calm) (hentry : interrupts entry) :
    Omits interrupts (script ++ [entry]) calm := by
  have happend := h.append (.skip hentry .nil)
  rwa [List.append_nil] at happend

end Omits

end LinePatch
