import LinePatch.Proofs.AssertReturn
import LinePatch.Proofs.Reverse

/-!
# Taking the rule of the build back

The rule of the build loses nothing: a pass with the reverse rule gives back the input, also where it had
returns behind failed assertions before. So two inputs never have the same output.

## Main results

* `assertReturn_undone`: a second pass, with the reverse rule, gives back the input
-/

namespace LinePatch

namespace Rule

theorem replacement_assertReturn_ne_empty : assertReturn.replacement ≠ "" := by
  decide

end Rule

/-- **The patch loses nothing.** A pass with the rule of the build over any input, and then one with the
reverse rule over its whole output, give back the input, and both succeed with the same counts. Another
input with the same output is the same input. -/
theorem assertReturn_undone {input : Bytes} {fills : List Fill} {answers : List WriteAnswer}
    (stream : Undisturbed input fills answers) :
    let outcome := patchStream .assertReturn (.ofFills fills) ({ answers } : ScriptedSink)
    (∀ fills' answers', Undisturbed outcome.progress.sink.taken fills' answers' →
      let undone := patchStream (Rule.assertReturn.reverse Rule.replacement_assertReturn_ne_empty)
        (.ofFills fills') ({ answers := answers' } : ScriptedSink)
      undone.progress.sink.taken = input ∧
        ∃ summary, outcome.result = .ok summary ∧ undone.result = .ok summary) ∧
      ∀ input' fills' answers', Undisturbed input' fills' answers' →
        (patchStream .assertReturn (.ofFills fills')
          ({ answers := answers' } : ScriptedSink)).progress.sink.taken =
          outcome.progress.sink.taken → input' = input := by
  intro outcome
  obtain ⟨hresult, htaken⟩ := stream.outcome_eq .assertReturn
  have hbegins := Rule.pattern_prefix_replacement_assertReturn
  have hreplacement := Rule.newline_notMem_replacement_assertReturn
  refine ⟨?_, ?_⟩
  · intro fills' answers' stream' undone
    obtain ⟨hresult', htaken'⟩ :=
      stream'.outcome_eq (Rule.assertReturn.reverse Rule.replacement_assertReturn_ne_empty)
    rw [htaken, Rule.tally_reverse hbegins _ hreplacement] at hresult'
    rw [htaken, Rule.patched_reverse hbegins _ hreplacement] at htaken'
    exact ⟨htaken', _, hresult, hresult'⟩
  · intro input' fills' answers' stream' hequal
    rw [(stream'.outcome_eq .assertReturn).2, htaken] at hequal
    exact Rule.patched_injective hbegins hreplacement hequal

/-- An input that was patched before, has bytes that are no text and no line break at its end. -/
theorem assertReturn_undone_patched_before :
    let input := utf8 "assert(false);return \"\";\r\n" ++ 255 :: utf8 "assert(false);"
    let fills := [.chunk (input.take 20), .chunk (input.drop 20)]
    let once := utf8 "assert(false);return \"\";return \"\";\r\n" ++
      255 :: utf8 "assert(false);return \"\";"
    let reverse := Rule.assertReturn.reverse Rule.replacement_assertReturn_ne_empty
    Undisturbed input fills [] ∧
      (patchStream .assertReturn (.ofFills fills) ({} : ScriptedSink)).progress.sink.taken = once ∧
      (patchStream reverse (.ofFills [.chunk once])
        ({ answers := [.upTo 5] } : ScriptedSink)).progress.sink.taken = input := by
  intro input fills once reverse
  have stream : Undisturbed input fills [] := ⟨by decide, by decide, by decide, by decide⟩
  have htaken : (patchStream .assertReturn (.ofFills fills)
      ({} : ScriptedSink)).progress.sink.taken = once :=
    (stream.outcome_eq .assertReturn).2.trans (by decide +kernel)
  have stream' : Undisturbed (patchStream .assertReturn (.ofFills fills)
      ({} : ScriptedSink)).progress.sink.taken [.chunk once] [.upTo 5] := by
    rw [htaken]
    exact ⟨by decide, by decide, by decide, by decide⟩
  exact ⟨stream, htaken, ((assertReturn_undone stream).1 _ _ stream').1⟩

end LinePatch
