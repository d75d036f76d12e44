import LinePatch.Proofs.LineStructure
import LinePatch.Proofs.Stream.Undisturbed
import LinePatch.Proofs.Substitution.Foreign

/-!
# A second pass with the same rule

If the replacement of a rule is not empty and has no byte of the pattern, the rule leaves no occurrence of
its pattern in a line, neither in what it put in nor across a border of it. So it finds nothing when it is
applied again. For a whole pass this holds wherever a line break stands in the two texts, although the second
pass can then see other lines than the first: if the pattern can be found at all, the first pass patched the
input as a whole.

## Main definitions

* `Rule.HandsBack`: a rule finds nothing in a line

## Main results

* `Rule.handsBack_of_mem_lines_patched`: nothing is found in the lines of patched lines
* `second_pass_idle`: the output of a second pass is that of the first
-/

namespace LinePatch

namespace Rule

/-- A rule hands a line back as it came: nothing in it is replaced. -/
structure HandsBack (rule : Rule) (line : Bytes) : Prop where
  untouched : (rule.apply line).untouched
  output_eq : (rule.apply line).output = line

variable {rule : Rule}

theorem handsBack_iff {line : Bytes} : rule.HandsBack line ↔ ¬ rule.onBytes.pattern <:+: line := by
  constructor
  · intro h
    exact rule.count_apply_eq_zero_iff.mp (eq_of_beq h.untouched)
  · intro h
    have happly := apply_eq_self h
    exact ⟨by rw [happly]; rfl, congrArg Patched.output happly⟩

variable (h : rule.onBytes.replacement ≠ [])
  (hforeign : rule.onBytes.replacement.Disjoint rule.onBytes.pattern)

include h hforeign

/-- What a rule has made of a line it hands back. -/
theorem handsBack_output (line : Bytes) : rule.HandsBack (rule.apply line).output :=
  handsBack_iff.mpr (rule.onBytes.not_infix_output h hforeign line)

/-- In the lines of patched lines nothing is found. -/
theorem handsBack_of_mem_lines_patched {bytes line : Bytes}
    (hline : line ∈ Bytes.lines (rule.patched (Bytes.lines bytes))) : rule.HandsBack line := by
  rw [handsBack_iff]
  by_cases hnewline : newline ∈ rule.onBytes.pattern.dropLast
  · exact not_infix_of_newline_mem hnewline hline
  · have hwhole : rule.patched (Bytes.lines bytes) = (rule.apply bytes).output := by
      rw [apply_eq_of_newline_notMem hnewline]
    have hpart : line <:+: (rule.apply bytes).output := by
      rw [← hwhole, ← Bytes.flatten_lines (rule.patched (Bytes.lines bytes))]
      exact List.infix_of_mem_flatten hline
    intro hpattern
    exact rule.onBytes.not_infix_output h hforeign bytes (hpattern.trans hpart)

end Rule

/-- **A second pass is idle.** If the replacement of a rule is not empty and has no byte of the pattern, the
rule hands back every line that it has patched before. An undisturbed pass over the whole output of another
one gives the same output, hands back all its lines and counts no change and no replacement; without line
breaks in the two texts it also counts as many lines. -/
theorem second_pass_idle (rule : Rule) (h : rule.replacement ≠ "")
    (hforeign : (utf8 rule.replacement).Disjoint (utf8 rule.pattern)) :
    (∀ line, rule.HandsBack (rule.apply line).output) ∧
      ∀ input fills answers, Undisturbed input fills answers →
        let once := patchStream rule (.ofFills fills) ({ answers } : ScriptedSink)
        ∀ fills' answers', Undisturbed once.progress.sink.taken fills' answers' →
          let twice := patchStream rule (.ofFills fills') ({ answers := answers' } : ScriptedSink)
          twice.progress.sink.taken = once.progress.sink.taken ∧
            (∀ line ∈ Bytes.lines once.progress.sink.taken, rule.HandsBack line) ∧
            ∃ first second, once.result = .ok first ∧ twice.result = .ok second ∧
              second.changedLines = 0 ∧ second.replacements = 0 ∧
              (newline ∉ utf8 rule.pattern → newline ∉ utf8 rule.replacement →
                second.lines = first.lines) := by
  have hne : rule.onBytes.replacement ≠ [] := mt utf8_eq_nil_iff.mp h
  refine ⟨Rule.handsBack_output hne hforeign, ?_⟩
  intro input fills answers stream once fills' answers' stream' twice
  obtain ⟨hresult, htaken⟩ := stream.outcome_eq rule
  obtain ⟨hresult', htaken'⟩ := stream'.outcome_eq rule
  rw [htaken] at hresult' htaken'
  have hidle : ∀ line ∈ Bytes.lines (rule.patched (Bytes.lines input)), rule.HandsBack line :=
    fun line hline => Rule.handsBack_of_mem_lines_patched hne hforeign hline
  have hnone : ∀ line ∈ Bytes.lines (rule.patched (Bytes.lines input)),
      ¬ rule.onBytes.pattern <:+: line :=
    fun line hline => Rule.handsBack_iff.mp (hidle line hline)
  rw [Rule.tally_eq_length hnone] at hresult'
  rw [Rule.patched_eq_flatten hnone, Bytes.flatten_lines] at htaken'
  refine ⟨htaken'.trans htaken.symm, ?_, _, _, hresult, hresult', rfl, rfl, ?_⟩
  · intro line hline
    rw [htaken] at hline
    exact hidle line hline
  · intro hpattern hreplacement
    have hkept : ∀ line ∈ Bytes.lines input, ¬ rule.Erases line := fun _ _ herases => h herases.1
    have hlines := Rule.lines_patched_eq_map hpattern hreplacement hkept
    simp only [hlines, List.length_map, Rule.tally]

/-- The pattern and the replacement overlap themselves, and two replacements stand side by side in front of an
`a` that is left over. -/
theorem second_pass_idle_side_by_side :
    let rule : Rule := ⟨"aa", "bb", by decide⟩
    let fills := [.chunk (utf8 "aaa"), .chunk (utf8 "aa\naxaa")]
    let once := utf8 "bbbba\naxbb"
    let outcome (fills : List Fill) :=
      patchStream rule (.ofFills fills) ({ answers := [.upTo 2] } : ScriptedSink)
    (rule.replacement ≠ "" ∧ (utf8 rule.replacement).Disjoint (utf8 rule.pattern) ∧
        newline ∉ utf8 rule.pattern ∧ newline ∉ utf8 rule.replacement) ∧
      ((outcome fills).progress.sink.taken = once ∧
        (outcome fills).result = .ok { lines := 2, changedLines := 2, replacements := 3 }) ∧
      (outcome [.chunk once]).progress.sink.taken = once ∧
      (outcome [.chunk once]).result = .ok { lines := 2 } := by
  intro rule fills once outcome
  have h : rule.replacement ≠ "" := by decide
  have hforeign : (utf8 rule.replacement).Disjoint (utf8 rule.pattern) :=
    List.disjoint_left.mpr (by decide +kernel)
  have hpattern : newline ∉ utf8 rule.pattern := by decide
  have hreplacement : newline ∉ utf8 rule.replacement := by decide
  have stream : Undisturbed (utf8 "aaaaa\naxaa") fills [.upTo 2] :=
    ⟨by decide, by decide, by decide, by decide⟩
  have htaken : (outcome fills).progress.sink.taken = once :=
    (stream.outcome_eq rule).2.trans (by decide +kernel)
  have hresult : (outcome fills).result = .ok { lines := 2, changedLines := 2, replacements := 3 } :=
    (stream.outcome_eq rule).1.trans (congrArg _ (by decide +kernel))
  have stream' : Undisturbed (outcome fills).progress.sink.taken [.chunk once] [.upTo 2] := by
    rw [htaken]
    exact ⟨by decide, by decide, by decide, by decide⟩
  obtain ⟨-, hpasses⟩ := second_pass_idle rule h hforeign
  obtain ⟨htaken', -, first, second, hfirst, hsecond, hchanged, hreplaced, hlines⟩ :=
    hpasses _ fills _ stream _ _ stream'
  obtain rfl : first = { lines := 2, changedLines := 2, replacements := 3 } :=
    Except.ok.inj (hfirst.symm.trans hresult)
  obtain rfl : second = { lines := 2 } := by
    rcases second with ⟨lines, changedLines, replacements⟩
    rw [Summary.mk.injEq]
    exact ⟨hlines hpattern hreplacement, hchanged, hreplaced⟩
  exact ⟨⟨h, hforeign, hpattern, hreplacement⟩, ⟨htaken, hresult⟩, htaken'.trans htaken, hsecond⟩

end LinePatch
