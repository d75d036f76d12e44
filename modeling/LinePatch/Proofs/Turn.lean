import LinePatch.Proofs.Sink.Offer
import LinePatch.Source

/-!
# Turns of loops

A loop takes one turn after another until a turn is the last. If each turn makes some measure smaller, there
is a last one, and what no turn changes is known from the beginning. Reading a line is such a loop, and so is
writing some bytes as a whole. A turn of the one looks once at what has arrived, and takes a fill if that does
not end the line; a turn of the other makes one call, and takes an answer as long as there is one.

## Main definitions

* `Turn`, `EndsAfter`: what one turn of a loop comes to, and a loop that ends after some turns
* `Source.look`, `ScriptedSink.attempt`: a turn of reading a line, and one of writing some bytes

## Main results

* `exists_endsAfter_of_lt`, `EndsAfter.result_eq`: how long a loop can last, and what it ends with
* `Source.readLineFrom_eq_look`, `ScriptedSink.writeAll_eq_attempt`: reading and writing are made of turns
* `Source.exists_fill_of_look_again`, `ScriptedSink.exists_answer_of_attempt_again`: what another turn takes
-/

namespace LinePatch

/-! ## Turns of a loop -/

/-- What one turn of a loop comes to. -/
inductive Turn (ρ τ : Type) where
  /-- The loop is over. -/
  | done (result : ρ)
  /-- There is another turn. -/
  | again (state : τ)

/-- The result of a loop, if `rest` gives that of its later turns. -/
def Turn.result {ρ τ : Type} (rest : τ → ρ) : Turn ρ τ → ρ
  | .done result => result
  | .again state => rest state

/-- The loop ends after the given number of turns, with the given result. -/
inductive EndsAfter {ρ τ : Type} (turn : τ → Turn ρ τ) : τ → Nat → ρ → Prop
  | done {state result} (h : turn state = .done result) : EndsAfter turn state 1 result
  | again {state next turns result} (h : turn state = .again next) (later : EndsAfter turn next turns result) :
      EndsAfter turn state (turns + 1) result

section Loop

variable {ρ τ : Type} {turn : τ → Turn ρ τ}

/-- A loop ends if each turn makes a measure smaller; the measure bounds the number of turns. -/
theorem exists_endsAfter_of_lt {measure : τ → Nat} (hpos : ∀ state, 0 < measure state)
    (hlt : ∀ state next, turn state = .again next → measure next < measure state) (state : τ) :
    ∃ turns ≤ measure state, ∃ result, EndsAfter turn state turns result := by
  induction hn : measure state using Nat.strong_induction_on generalizing state with
  | h n ih =>
    cases hturn : turn state with
    | done result => exact ⟨1, hn ▸ hpos state, result, .done hturn⟩
    | again next =>
      have hnext := hlt state next hturn
      rw [hn] at hnext
      obtain ⟨turns, hturns, result, hends⟩ := ih _ hnext next rfl
      exact ⟨turns + 1, hturns.trans_lt hnext, result, .again hturn hends⟩

/-- A loop ends with the result that no turn of it changes. -/
theorem EndsAfter.result_eq {state : τ} {turns : Nat} {result : ρ} (h : EndsAfter turn state turns result)
    {value : τ → ρ} (hvalue : ∀ state, value state = (turn state).result value) : result = value state := by
  induction h with
  | @done state _ h =>
    rw [hvalue state, h]
    rfl
  | @again state _ _ _ h _ ih =>
    rw [ih, hvalue state, h]
    rfl

end Loop

/-! ## Turns of reading and writing -/

namespace Source

/-- One look at what has arrived, for a line of which `taken`, last byte first, has been read. If it does not
end the line, all of it is read and the source is filled again. -/
def look (taken : Bytes) (source : Source) : Turn LineRead (Bytes × Source) :=
  match source.unread.dropWhile (· ≠ newline) with
  | lineBreak :: rest =>
    .done (.line (taken.reverse ++ (source.unread.takeWhile (· ≠ newline) ++ [lineBreak]))
      { source with unread := rest })
  | [] =>
    let taken := source.unread.reverseAux taken
    match source.fills with
    | [] => .done (endLine taken (ofFills []))
    | .chunk [] :: fills => .done (endLine taken (ofFills fills))
    | .chunk unread :: fills => .again (taken, { unread, fills })
    | .failure error :: fills =>
      if error.isInterrupted then .again (taken, ofFills fills) else .done (.failed error (ofFills fills))

theorem readLineFrom_eq_look (taken : Bytes) (source : Source) :
    readLineFrom taken source.unread source.fills =
      (source.look taken).result fun state => readLineFrom state.1 state.2.unread state.2.fills := by
  obtain ⟨unread, fills⟩ := source
  rw [readLineFrom.eq_def]
  simp only [look]
  cases unread.dropWhile (· ≠ newline) with
  | cons lineBreak rest => rfl
  | nil =>
    cases fills with
    | nil => rfl
    | cons fill fills =>
      cases fill with
      | chunk bytes => cases bytes <;> rfl
      | failure error =>
        simp only
        split <;> rfl

section

variable {taken taken' : Bytes} {source next : Source} {read : LineRead}

theorem readLineFrom_of_look_done (h : source.look taken = .done read) :
    readLineFrom taken source.unread source.fills = read := by
  rw [readLineFrom_eq_look, h, Turn.result]

theorem readLineFrom_of_look_again (h : source.look taken = .again (taken', next)) :
    readLineFrom taken source.unread source.fills = readLineFrom taken' next.unread next.fills := by
  rw [readLineFrom_eq_look, h, Turn.result]

/-- Looking again takes a fill, and moves the bytes that had arrived. -/
theorem exists_fill_of_look_again (h : source.look taken = .again (taken', next)) :
    ∃ fill, source.fills = fill :: next.fills ∧ taken' = source.unread.reverseAux taken ∧
      next.unread = fill.bytes := by
  unfold look at h
  split at h
  next => cases h
  next =>
    simp only at h
    split at h
    next => cases h
    next => cases h
    next bytes fills hfills =>
      cases h
      exact ⟨_, hfills, rfl, rfl⟩
    next error fills hfills =>
      split at h
      next =>
        cases h
        exact ⟨_, hfills, rfl, rfl⟩
      next => cases h

end

end Source

namespace ScriptedSink

/-- One call that offers what is left of some bytes, if anything is left. -/
def attempt (bytes : Bytes) (sink : ScriptedSink) :
    Turn (EStateM.Result IoError ScriptedSink Unit) (Bytes × ScriptedSink) :=
  if bytes = [] then .done (.ok () sink)
  else
    match sink.write bytes with
    | .ok 0 next => .done (.error .wroteNothing next)
    | .ok (n + 1) next => .again (bytes.drop (n + 1), next)
    | .error error next => if error.isInterrupted then .again (bytes, next) else .done (.error error next)

theorem writeAll_eq_attempt (bytes : Bytes) (sink : ScriptedSink) :
    writeAll bytes sink = (sink.attempt bytes).result fun state => writeAll state.1 state.2 := by
  unfold attempt
  by_cases hne : bytes = []
  · rw [if_pos hne, hne, writeAll_nil]
    rfl
  · rw [if_neg hne]
    cases hwrite : sink.write bytes with
    | ok n next =>
      cases n with
      | zero => exact writeAll_of_write_zero hne hwrite
      | succ n => exact writeAll_of_write_succ hne hwrite
    | error error next =>
      by_cases herror : error.isInterrupted
      · simp only [herror, if_true]
        exact writeAll_of_write_interrupted hne hwrite herror
      · simp only [herror]
        exact writeAll_of_write_failed hne hwrite herror

section

variable {bytes left : Bytes} {sink next : ScriptedSink} {result : EStateM.Result IoError ScriptedSink Unit}

theorem writeAll_of_attempt_done (h : sink.attempt bytes = .done result) : writeAll bytes sink = result := by
  rw [writeAll_eq_attempt, h, Turn.result]

theorem writeAll_of_attempt_again (h : sink.attempt bytes = .again (left, next)) :
    writeAll bytes sink = writeAll left next := by
  rw [writeAll_eq_attempt, h, Turn.result]

/-- The writing is over when nothing is left. -/
theorem eq_nil_of_attempt_done_ok (h : sink.attempt bytes = .done (.ok () next)) :
    bytes = [] ∧ next = sink := by
  unfold attempt at h
  split at h
  next hnil =>
    cases h
    exact ⟨hnil, rfl⟩
  next =>
    split at h
    next => cases h
    next => cases h
    next => split at h <;> cases h

/-- A call takes an answer from the script. Behind the end of the script it takes all it is offered. -/
theorem exists_answer_of_attempt_again (h : sink.attempt bytes = .again (left, next)) :
    bytes ≠ [] ∧ ((∃ answer, sink.answers = answer :: next.answers) ∨
      sink.answers = [] ∧ next.answers = [] ∧ left = []) := by
  unfold attempt at h
  split at h
  next => cases h
  next hne =>
    refine ⟨hne, ?_⟩
    split at h
    next => cases h
    next n _ hwrite =>
      cases h
      obtain ⟨hmade, haccepted, -⟩ := made_of_write_ok hne hwrite
      rcases hmade.next_answer with hanswer | ⟨hscript, hnone, heverything⟩
      · exact .inl ⟨_, hanswer⟩
      · rw [Offer.accepted, heverything] at haccepted
        have hall : bytes.take (n + 1) = bytes := haccepted.symm
        exact .inr ⟨hscript, hnone, List.drop_eq_nil_of_le ((List.take_eq_self_iff bytes).mp hall)⟩
    next error _ hwrite =>
      split at h
      next =>
        cases h
        obtain ⟨hmade, hfailure⟩ := made_of_write_error hwrite
        rcases hmade.next_answer with hanswer | ⟨-, -, heverything⟩
        · exact .inl ⟨_, hanswer⟩
        · rw [hfailure] at heverything
          cases heverything
      next => cases h

end

end ScriptedSink

end LinePatch
