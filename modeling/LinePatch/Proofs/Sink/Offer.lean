import LinePatch.Proofs.Sink.Interruption

/-!
# What write calls offer

When some bytes are written as a whole, each call offers what the calls before have left of them. The record
of a sink keeps of each call how many bytes were offered; `ScriptedSink.offers` keeps the bytes themselves.
Every call takes an answer from the script as long as there is one, and the first answer that ends the
writing is the last that is taken.

## Main definitions

* `Offer`, `ScriptedSink.offers`: a write call with its bytes, and the calls that write some bytes as a whole
* `Offer.accepted`, `acceptedBytes`: the bytes that one call takes, and several calls together
* `AllPassed`, `EndsWith`: no answer ends the writing, or the last one does
* `ScriptedSink.Made`: some calls were made of a sink, and were answered by its script
* `ScriptedSink.Writing`: how some bytes are written as a whole

## Main results

* `ScriptedSink.Made.trans`: calls add up
* `ScriptedSink.writing_writeAll`: the offers are the calls that are made, and lead to the result
* `ScriptedSink.rest_of_offers_eq`: every call offers what the calls before have left
* `ScriptedSink.allPassed_of_writeAll_ok`, `endsWith_of_writeAll_error`: writing ends at the first answer that
  ends it, and else when all bytes have been taken
-/

namespace LinePatch

/-- A write call as it is made: the bytes that it offers, and the answer that it gets. -/
structure Offer where
  bytes : Bytes
  answer : WriteAnswer
deriving DecidableEq

namespace Offer

/-- The record of the call. -/
def call (offer : Offer) : WriteCall :=
  { offered := offer.bytes.length, answer := offer.answer }

/-- The bytes of the call that are taken. -/
def accepted (offer : Offer) : Bytes :=
  match offer.answer with
  | .upTo limit => offer.bytes.take limit
  | .everything => offer.bytes
  | .failure _ => []

theorem prefix_accepted (offer : Offer) : offer.accepted <+: offer.bytes := by
  unfold accepted
  split
  · exact List.take_prefix ..
  · exact List.prefix_refl offer.bytes
  · exact List.nil_prefix

/-- A call that does not fail ends the writing exactly if it takes nothing. -/
theorem error?_eq {offer : Offer} (hne : offer.bytes ≠ [])
    (hanswer : ∀ error, offer.answer ≠ .failure error) :
    offer.answer.error? = if offer.accepted = [] then some .wroteNothing else none := by
  cases h : offer.answer with
  | upTo limit => simp [accepted, h, WriteAnswer.error?, hne]
  | everything => simp [accepted, h, WriteAnswer.error?, hne]
  | failure error => exact absurd h (hanswer error)

end Offer

/-- The bytes that some calls take together. -/
def acceptedBytes (offers : List Offer) : Bytes :=
  offers.flatMap Offer.accepted

@[simp] theorem acceptedBytes_nil : acceptedBytes [] = [] := rfl

@[simp] theorem acceptedBytes_cons (offer : Offer) (offers : List Offer) :
    acceptedBytes (offer :: offers) = offer.accepted ++ acceptedBytes offers := rfl

@[simp] theorem acceptedBytes_append (offers more : List Offer) :
    acceptedBytes (offers ++ more) = acceptedBytes offers ++ acceptedBytes more :=
  List.flatMap_append

/-- None of the answers ends the writing. -/
def AllPassed (offers : List Offer) : Prop :=
  ∀ offer ∈ offers, offer.answer.error? = none

/-- The last of the answers, and no other, ends the writing, with the given error. -/
def EndsWith (offers : List Offer) (error : IoError) : Prop :=
  ∃ before last, offers = before ++ [last] ∧ AllPassed before ∧ last.answer.error? = some error

theorem AllPassed.append {offers more : List Offer} (h : AllPassed offers) (h' : AllPassed more) :
    AllPassed (offers ++ more) :=
  List.forall_mem_append.mpr ⟨h, h'⟩

theorem AllPassed.endsWith_append {offers more : List Offer} {error : IoError} (h : AllPassed offers)
    (h' : EndsWith more error) : EndsWith (offers ++ more) error := by
  obtain ⟨before, last, rfl, hbefore, hlast⟩ := h'
  exact ⟨offers ++ before, last, (List.append_assoc ..).symm, h.append hbefore, hlast⟩

theorem AllPassed.not_endsWith {offers : List Offer} {error : IoError} (h : AllPassed offers) :
    ¬ EndsWith offers error := by
  rintro ⟨before, last, rfl, -, hlast⟩
  rw [h last (by simp)] at hlast
  cases hlast

namespace ScriptedSink

/-- The call that offers some bytes next. -/
def nextOffer (sink : ScriptedSink) (bytes : Bytes) : Offer :=
  { bytes, answer := sink.answers.headD .everything }

/-- The calls that write some bytes as a whole. -/
def offers (bytes : Bytes) (sink : ScriptedSink) : List Offer :=
  if _hne : bytes = [] then []
  else
    sink.nextOffer bytes ::
      match _h : sink.write bytes with
      | .ok 0 _ => []
      | .ok (n + 1) next => next.offers (bytes.drop (n + 1))
      | .error error next => if error.isInterrupted then next.offers bytes else []
termination_by sink.answers.length + bytes.length
decreasing_by
  · have := length_answers_le_of_write_ok _h
    have := List.length_pos_iff.mpr _hne
    simp only [List.length_drop]
    omega
  · have := length_answers_lt_of_write_error _h
    omega

section Equations

variable {bytes : Bytes} {sink next : ScriptedSink} {n : Nat} {error : IoError}

/-- Nothing is offered of nothing. -/
@[simp] theorem offers_nil (sink : ScriptedSink) : sink.offers [] = [] := by
  rw [offers]
  simp

theorem offers_of_write_zero (hne : bytes ≠ []) (h : sink.write bytes = .ok 0 next) :
    sink.offers bytes = [sink.nextOffer bytes] := by
  rw [offers, dif_neg hne]
  split <;> simp_all

theorem offers_of_write_succ (hne : bytes ≠ []) (h : sink.write bytes = .ok (n + 1) next) :
    sink.offers bytes = sink.nextOffer bytes :: next.offers (bytes.drop (n + 1)) := by
  rw [offers, dif_neg hne]
  split <;> simp_all

theorem offers_of_write_interrupted (hne : bytes ≠ []) (h : sink.write bytes = .error error next)
    (herror : error.isInterrupted) :
    sink.offers bytes = sink.nextOffer bytes :: next.offers bytes := by
  rw [offers, dif_neg hne]
  split <;> simp_all

theorem offers_of_write_failed (hne : bytes ≠ []) (h : sink.write bytes = .error error next)
    (herror : ¬ error.isInterrupted) : sink.offers bytes = [sink.nextOffer bytes] := by
  rw [offers, dif_neg hne]
  split <;> simp_all

end Equations

/-! ## Calls that were made -/

/-- Of `sink` the given calls were made, which left `next`. -/
structure Made (sink : ScriptedSink) (offers : List Offer) (next : ScriptedSink) : Prop where
  calls_eq : next.calls.toList = sink.calls.toList ++ offers.map Offer.call
  /-- Each call took an answer from the script. -/
  answers_eq : next.answers = sink.answers.drop offers.length
  /-- Behind the end of the script everything is taken. -/
  answer_eq : offers.map Offer.answer =
    sink.answers.take offers.length ++ List.replicate (offers.length - sink.answers.length) .everything
  taken_eq : next.taken = sink.taken ++ acceptedBytes offers

theorem Made.refl (sink : ScriptedSink) : Made sink [] sink where
  calls_eq := (List.append_nil _).symm
  answers_eq := rfl
  answer_eq := by simp
  taken_eq := (List.append_nil _).symm

/-- A flush is no call. -/
theorem made_flushed (sink : ScriptedSink) : Made sink [] { sink with flushes := sink.flushes + 1 } where
  calls_eq := (List.append_nil _).symm
  answers_eq := rfl
  answer_eq := by simp
  taken_eq := (List.append_nil _).symm

theorem Made.trans {sink middle next : ScriptedSink} {offers more : List Offer}
    (h : Made sink offers middle) (h' : Made middle more next) : Made sink (offers ++ more) next where
  calls_eq := by rw [h'.calls_eq, h.calls_eq, List.append_assoc, List.map_append]
  answers_eq := by rw [h'.answers_eq, h.answers_eq, List.drop_drop, List.length_append]
  answer_eq := by
    rw [List.map_append, h.answer_eq, h'.answer_eq, h.answers_eq, List.length_drop, List.length_append]
    rcases Nat.le_total offers.length sink.answers.length with hwithin | hbehind
    · rw [Nat.sub_eq_zero_of_le hwithin, List.replicate_zero, List.append_nil, List.take_add,
        List.append_assoc]
      congr 3
      omega
    · rw [List.drop_eq_nil_of_le hbehind, List.take_nil, List.nil_append, List.take_of_length_le hbehind,
        List.take_of_length_le (by omega), List.append_assoc, ← List.replicate_add]
      congr 2
      omega
  taken_eq := by rw [h'.taken_eq, h.taken_eq, List.append_assoc, acceptedBytes_append]

section

variable {sink next : ScriptedSink} {offers : List Offer} {error : IoError}

/-- The answers that were taken from the script are those of the calls. -/
theorem Made.allPassed_iff (h : Made sink offers next) :
    AllPassed offers ↔ ∀ answer ∈ sink.answers.take offers.length, answer.error? = none := by
  have hmap : (∀ answer ∈ offers.map Offer.answer, answer.error? = none) ↔ AllPassed offers :=
    List.forall_mem_map
  rw [← hmap, h.answer_eq, List.forall_mem_append, and_iff_left_iff_imp]
  intro _ answer hanswer
  rw [List.eq_of_mem_replicate hanswer]
  rfl

theorem Made.exists_of_endsWith (h : Made sink offers next) (hends : EndsWith offers error) :
    ∃ before answer, sink.answers.take offers.length = before ++ [answer] ∧
      (∀ earlier ∈ before, earlier.error? = none) ∧ answer.error? = some error := by
  obtain ⟨before, last, rfl, hbefore, hlast⟩ := hends
  refine ⟨before.map Offer.answer, last.answer, ?_, List.forall_mem_map.mpr hbefore, hlast⟩
  have hanswers := h.answer_eq
  rw [List.map_append, List.map_singleton] at hanswers
  cases hmore : (before ++ [last]).length - sink.answers.length with
  | zero => rw [hanswers, hmore, List.replicate_zero, List.append_nil]
  | succ more =>
    rw [hmore, List.replicate_succ', ← List.append_assoc] at hanswers
    obtain ⟨-, heverything⟩ := List.append_inj' hanswers rfl
    rw [List.singleton_inj.mp heverything] at hlast
    cases hlast

/-- A call takes the next answer of the script, or has come behind its end. -/
theorem Made.next_answer {offer : Offer} (h : Made sink [offer] next) :
    sink.answers = offer.answer :: next.answers ∨
      sink.answers = [] ∧ next.answers = [] ∧ offer.answer = .everything := by
  have hanswers := h.answers_eq
  have hanswer := h.answer_eq
  cases hscript : sink.answers with
  | nil =>
    rw [hscript] at hanswers hanswer
    exact .inr ⟨rfl, hanswers, List.singleton_inj.mp hanswer⟩
  | cons answer answers =>
    rw [hscript] at hanswers hanswer
    obtain rfl : next.answers = answers := hanswers
    have hfirst : offer.answer = answer := by simpa using hanswer
    exact .inl (by rw [hfirst])

/-- With a sink that takes everything, each call is answered so. -/
theorem Made.answer_eq_everything (h : Made sink offers next)
    (hanswers : ∀ answer ∈ sink.answers, answer = .everything) :
    ∀ offer ∈ offers, offer.answer = .everything := by
  have hall : ∀ answer ∈ offers.map Offer.answer, answer = .everything := by
    rw [h.answer_eq]
    refine List.forall_mem_append.mpr ⟨?_, fun _ => List.eq_of_mem_replicate⟩
    intro answer hanswer
    exact hanswers answer (List.mem_of_mem_take hanswer)
  exact List.forall_mem_map.mp hall

end

/-- The sink after a call. -/
def record (sink : ScriptedSink) (offer : Offer) : ScriptedSink :=
  { sink with
    answers := sink.answers.tail
    contents := sink.contents ++ offer.accepted
    calls := sink.calls.push offer.call }

theorem made_record (sink : ScriptedSink) (bytes : Bytes) :
    Made sink [sink.nextOffer bytes] (sink.record (sink.nextOffer bytes)) where
  calls_eq := by simp [record]
  answers_eq := List.drop_one.symm
  answer_eq := by cases h : sink.answers <;> simp [nextOffer, h]
  taken_eq := by simp [record, taken]

theorem write_eq_record (bytes : Bytes) (sink : ScriptedSink) :
    sink.write bytes =
      match (sink.nextOffer bytes).answer with
      | .failure error => .error error (sink.record (sink.nextOffer bytes))
      | _ => .ok (sink.nextOffer bytes).accepted.length (sink.record (sink.nextOffer bytes)) := by
  unfold write nextOffer
  cases h : sink.answers.headD .everything <;> simp [record, Offer.accepted, Offer.call]

section

variable {bytes : Bytes} {sink next : ScriptedSink} {n : Nat} {error : IoError}

/-- A call that does not fail takes as many bytes as it says, and ends the writing if these are none. -/
theorem made_of_write_ok (hne : bytes ≠ []) (h : sink.write bytes = .ok n next) :
    Made sink [sink.nextOffer bytes] next ∧ (sink.nextOffer bytes).accepted = bytes.take n ∧
      (sink.nextOffer bytes).answer.error? = if n = 0 then some .wroteNothing else none := by
  rw [write_eq_record] at h
  split at h
  next => cases h
  next hanswer =>
    cases h
    refine ⟨made_record sink bytes, List.prefix_iff_eq_take.mp (sink.nextOffer bytes).prefix_accepted, ?_⟩
    rw [Offer.error?_eq hne hanswer]
    simp only [List.length_eq_zero_iff]

theorem made_of_write_error (h : sink.write bytes = .error error next) :
    Made sink [sink.nextOffer bytes] next ∧ (sink.nextOffer bytes).answer = .failure error := by
  rw [write_eq_record] at h
  split at h
  next hanswer =>
    cases h
    exact ⟨made_record sink bytes, hanswer⟩
  next => cases h

end

/-! ## The calls that write some bytes as a whole -/

/-- How some bytes are written as a whole: by which calls, and with what result. -/
inductive Writing : Bytes → ScriptedSink → List Offer → EStateM.Result IoError ScriptedSink Unit → Prop
  /-- Nothing is left, and no call is made. -/
  | done {sink} : Writing [] sink [] (.ok () sink)
  /-- The answer to a call ends the writing. -/
  | stopped {sink offer error next} (offered : offer.bytes ≠ []) (made : Made sink [offer] next)
      (ends : offer.answer.error? = some error) : Writing offer.bytes sink [offer] (.error error next)
  /-- What a call has left is offered next. -/
  | goesOn {sink offer rest middle offers result} (offered : offer.bytes ≠ [])
      (made : Made sink [offer] middle) (passed : offer.answer.error? = none)
      (left : offer.bytes = offer.accepted ++ rest) (later : Writing rest middle offers result) :
      Writing offer.bytes sink (offer :: offers) result

theorem writing_writeAll (bytes : Bytes) (sink : ScriptedSink) :
    Writing bytes sink (sink.offers bytes) (writeAll bytes sink) := by
  fun_induction writeAll bytes sink with
  | case1 sink =>
    rw [offers_nil]
    exact .done
  | case2 bytes sink hne next hwrite =>
    obtain ⟨hmade, -, hanswer⟩ := made_of_write_ok hne hwrite
    rw [offers_of_write_zero hne hwrite]
    exact .stopped hne hmade hanswer
  | case3 bytes sink hne n next hwrite ih =>
    obtain ⟨hmade, haccepted, hanswer⟩ := made_of_write_ok hne hwrite
    rw [offers_of_write_succ hne hwrite]
    refine .goesOn hne hmade hanswer ?_ ih
    rw [haccepted]
    exact (List.take_append_drop (n + 1) bytes).symm
  | case4 bytes sink hne error next hwrite hinterrupted ih =>
    obtain ⟨hmade, hanswer⟩ := made_of_write_error hwrite
    rw [offers_of_write_interrupted hne hwrite hinterrupted]
    refine .goesOn hne hmade ?_ ?_ ih
    · rw [hanswer, WriteAnswer.error?, if_pos hinterrupted]
    · simp only [Offer.accepted, hanswer, List.nil_append]
      rfl
  | case5 bytes sink hne error next hwrite hfailed =>
    obtain ⟨hmade, hanswer⟩ := made_of_write_error hwrite
    rw [offers_of_write_failed hne hwrite hfailed]
    exact .stopped hne hmade (by rw [hanswer, WriteAnswer.error?, if_neg hfailed])

/-- The sink that is left. -/
def afterwards : EStateM.Result IoError ScriptedSink Unit → ScriptedSink
  | .ok () next => next
  | .error _ next => next

/-- How writing some bytes as a whole ends. -/
def Ends (bytes : Bytes) (offers : List Offer) : EStateM.Result IoError ScriptedSink Unit → Prop
  | .ok () _ => AllPassed offers ∧ acceptedBytes offers = bytes
  | .error error _ => EndsWith offers error

namespace Writing

variable {bytes : Bytes} {sink : ScriptedSink} {offers : List Offer}
  {result : EStateM.Result IoError ScriptedSink Unit}

theorem made (h : Writing bytes sink offers result) : Made sink offers (afterwards result) := by
  induction h with
  | done => exact .refl _
  | stopped _ made _ => exact made
  | goesOn _ made _ _ _ ih => exact made.trans ih

theorem ends (h : Writing bytes sink offers result) : Ends bytes offers result := by
  induction h with
  | done => exact ⟨List.forall_mem_nil _, rfl⟩
  | stopped _ _ ends => exact ⟨[], _, rfl, List.forall_mem_nil _, ends⟩
  | @goesOn _ offer _ _ _ result _ _ passed left _ ih =>
    have hpassed : AllPassed [offer] := List.forall_mem_singleton.mpr passed
    cases result with
    | ok _ next =>
      obtain ⟨hoffers, haccepted⟩ := ih
      exact ⟨hpassed.append hoffers, by rw [acceptedBytes_cons, haccepted, ← left]⟩
    | error error next => exact hpassed.endsWith_append ih

/-- Every call offers what the calls before have left. -/
theorem rest (h : Writing bytes sink offers result) {before after : List Offer} {offer : Offer}
    (hoffers : offers = before ++ offer :: after) :
    bytes = acceptedBytes before ++ offer.bytes ∧ offer.bytes ≠ [] := by
  induction h generalizing before with
  | done => simp at hoffers
  | stopped offered _ _ =>
    rcases List.cons_eq_append_iff.mp hoffers with ⟨rfl, hfirst⟩ | ⟨_, _, hlater⟩
    · obtain ⟨rfl, -⟩ := List.cons.inj hfirst
      exact ⟨rfl, offered⟩
    · simp at hlater
  | goesOn offered _ _ left _ ih =>
    rcases List.cons_eq_append_iff.mp hoffers with ⟨rfl, hfirst⟩ | ⟨later, rfl, hlater⟩
    · obtain ⟨rfl, -⟩ := List.cons.inj hfirst
      exact ⟨rfl, offered⟩
    · obtain ⟨hrest, hne⟩ := ih hlater
      refine ⟨?_, hne⟩
      rw [left, hrest, acceptedBytes_cons, List.append_assoc]

end Writing

section

variable {bytes : Bytes} {sink next : ScriptedSink} {error : IoError}

theorem made_of_writeAll_ok (h : writeAll bytes sink = .ok () next) :
    Made sink (sink.offers bytes) next := by
  have hmade := (writing_writeAll bytes sink).made
  rwa [h] at hmade

theorem made_of_writeAll_error (h : writeAll bytes sink = .error error next) :
    Made sink (sink.offers bytes) next := by
  have hmade := (writing_writeAll bytes sink).made
  rwa [h] at hmade

/-- What is written is offered until all of it has been taken, and no answer has ended the writing. -/
theorem allPassed_of_writeAll_ok (h : writeAll bytes sink = .ok () next) :
    AllPassed (sink.offers bytes) ∧ acceptedBytes (sink.offers bytes) = bytes := by
  have hends := (writing_writeAll bytes sink).ends
  rwa [h] at hends

/-- Writing fails at the first answer that ends it. -/
theorem endsWith_of_writeAll_error (h : writeAll bytes sink = .error error next) :
    EndsWith (sink.offers bytes) error := by
  have hends := (writing_writeAll bytes sink).ends
  rwa [h] at hends

theorem rest_of_offers_eq {before after : List Offer} {offer : Offer}
    (h : sink.offers bytes = before ++ offer :: after) :
    bytes = acceptedBytes before ++ offer.bytes ∧ offer.bytes ≠ [] :=
  (writing_writeAll bytes sink).rest h

/-- What is taken as a whole is offered once, unless there is nothing to offer. -/
theorem offers_eq_of_everything (hne : bytes ≠ [])
    (h : ∀ offer ∈ sink.offers bytes, offer.answer = .everything) :
    sink.offers bytes = [{ bytes, answer := .everything }] := by
  obtain ⟨first, later, hoffers⟩ : ∃ first later, sink.offers bytes = first :: later := by
    rw [offers, dif_neg hne]
    exact ⟨_, _, rfl⟩
  rw [hoffers] at h
  obtain ⟨hfirst, -⟩ := List.forall_mem_cons.mp h
  have hnone : sink.offers bytes = [] ++ first :: later := hoffers
  obtain ⟨hbytes, -⟩ := rest_of_offers_eq hnone
  obtain ⟨firstBytes, firstAnswer⟩ := first
  obtain rfl : firstAnswer = .everything := hfirst
  obtain rfl : bytes = firstBytes := hbytes
  cases later with
  | nil => exact hoffers
  | cons second later =>
    have hone : sink.offers bytes = [{ bytes, answer := .everything }] ++ second :: later := hoffers
    obtain ⟨hrest, hsecond⟩ := rest_of_offers_eq hone
    rw [acceptedBytes_cons, acceptedBytes_nil, List.append_nil] at hrest
    exact absurd (List.self_eq_append_right.mp hrest) hsecond

end

end ScriptedSink

end LinePatch
