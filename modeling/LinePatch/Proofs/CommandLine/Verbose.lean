import LinePatch.Proofs.CommandLine.Language

/-!
# What the flag for more messages changes

The flag is taken up where it stands, and after that nothing is read differently, unless it is given again. So the
reading of a line with the flag and of the same line without it end alike, be it with a patch, with the help
text or the version, or with an error of the arguments.

There is one thing that a flag does besides: it completes the operand in front of it. So an empty operand is
found at the flag, and without the flag another error might come first. But nothing is asked for then either,
as an empty operand is not passed over by anything that ends the reading.

## Main definitions

* `Request.withVerbose`: a request with more messages, or without
* `CommandLine.givesVerbose`: the arguments that give the flag, alone or joined with others
* `CommandLine.EndsEmpty`: an empty operand in front of what follows

## Main results

* `CommandLine.addArgument_withVerbose`: one argument, whether the flag has been given or not
* `CommandLine.readOn_map_withVerbose`: the rest of a line, whether the flag has been given or not
* `CommandLine.exists_readOn_eq_error`: with an empty operand, nothing is asked for
* `CommandLine.parse_flag`: a line with the flag and without it
-/

namespace LinePatch

/-- The same request, with more messages or without. -/
def Request.withVerbose (verbose : Bool) : Request → Request
  | .patch route _ => .patch route verbose
  | request => request

namespace CommandLine

/-- The argument gives the flag for more messages, perhaps with other letters behind it. -/
def givesVerbose (argument : String) : Bool :=
  argument = "--verbose" || ['-', 'v'].isPrefixOf argument.toList

/-- The same line, with the flag or without. -/
def Taken.withVerbose (verbose : Bool) : Taken → Taken :=
  Sum.map ({ · with verbose }) id

/-! ## One argument -/

section Argument

variable (line : CommandLine) (verbose : Bool) {flag : Flag} {argument : String}

theorem addFlag_withVerbose (hflag : flag ≠ .verbose) :
    ({ line with verbose } : CommandLine).addFlag flag = (line.addFlag flag).map (Taken.withVerbose verbose) := by
  unfold addFlag
  rw [settle_withVerbose]
  cases line.settle with
  | error error => rfl
  | ok settled =>
    cases flag with
    | verbose => exact absurd rfl hflag
    | help => rfl
    | version => rfl

/-- Of joined flags the first decides, unless it is the one for more messages. -/
theorem addLetters_withVerbose {letter : Char} (hletter : letter ≠ 'v') (letters : List Char) :
    ({ line with verbose } : CommandLine).addLetters (letter :: letters) =
      (line.addLetters (letter :: letters)).map (Taken.withVerbose verbose) := by
  unfold addLetters
  split
  next => rfl
  next flag hflag =>
    have hverbose : flag ≠ .verbose := by
      rintro rfl
      exact hletter (eq_of_ofLetter? hflag)
    rw [addFlag_withVerbose line verbose hverbose]
    cases hadd : line.addFlag flag with
    | error error => rfl
    | ok taken =>
      cases taken with
      | inl next => exact absurd (addFlag_inl hadd).1 hverbose
      | inr request => rfl

theorem addLong_withVerbose {chars : List Char} (hchars : chars ≠ "verbose".toList) :
    ({ line with verbose } : CommandLine).addLong chars =
      (line.addLong chars).map (Taken.withVerbose verbose) := by
  unfold addLong
  simp only
  split
  next => rfl
  next flag hname hrest =>
    refine addFlag_withVerbose line verbose ?_
    rintro rfl
    exact hchars (eq_of_ofName?_takeWhile hname hrest)
  next => rfl

/-- An argument that does not give the flag is taken up in the same way, whether the flag has been given or
not. -/
theorem addArgument_withVerbose (h : line.operandsOnly ∨ givesVerbose argument = false) :
    ({ line with verbose } : CommandLine).addArgument argument =
      (line.addArgument argument).map (Taken.withVerbose verbose) := by
  have hoperand : (({ line with verbose } : CommandLine).addOperand argument).map Sum.inl =
      ((line.addOperand argument).map Sum.inl).map (Taken.withVerbose verbose) := by
    rw [addOperand_withVerbose]
    cases line.addOperand argument <;> rfl
  unfold addArgument
  simp only
  split
  next => exact hoperand
  next honly =>
    have hgives := h.resolve_left honly
    simp only [givesVerbose, Bool.or_eq_false_iff, decide_eq_false_iff_not] at hgives
    split
    next => rfl
    next chars _ hspelled =>
      refine addLong_withVerbose line verbose ?_
      rintro rfl
      exact hgives.1 (String.toList_inj.mp hspelled)
    next letter letters _ _ hspelled =>
      refine addLetters_withVerbose line verbose ?_ letters
      rintro rfl
      rw [hspelled] at hgives
      simp at hgives
    next => exact hoperand

end Argument

/-! ## The whole line -/

section

variable {line next : CommandLine} {argument flag : String} {arguments before after : List String}

theorem finish_withVerbose (line : CommandLine) (verbose : Bool) :
    ({ line with verbose } : CommandLine).finish = line.finish.map (Request.withVerbose verbose) := by
  unfold finish
  rw [settle_withVerbose]
  cases line.settle with
  | error error => rfl
  | ok settled =>
    obtain ⟨_, input?, output?, _⟩ := settled
    cases input? <;> cases output? <;> rfl

/-- Where flags are looked for behind an argument, they were looked for before. -/
theorem Adds.front_subset (hadds : Adds line argument next) (hline : line.InOrder) (arguments : List String) :
    next.front arguments ⊆ line.front (argument :: arguments) := by
  cases hadds with
  | operand plain added =>
    obtain ⟨-, -, honly⟩ := given_of_addOperand hline added
    unfold front
    rw [honly]
    split
    next => exact List.Subset.refl []
    next hnot =>
      rw [beforeDashes_cons (ne_dashes_of_isDashed_eq_false (plain.resolve_left hnot))]
      exact List.subset_cons_self argument _
  | dashes => exact List.nil_subset _
  | verbose only spelled _ _ =>
    rw [front_cons only (ne_dashes_of_isVerboseFlag (isVerboseFlag_iff.mpr spelled))]
    exact List.subset_cons_self argument _

/-- The rest of a line that does not give the flag is read in the same way, whether the flag has been given or
not. -/
theorem readOn_map_withVerbose (hline : line.InOrder) (verbose : Bool)
    (h : ∀ argument ∈ line.front arguments, givesVerbose argument = false) :
    ({ line with verbose } : CommandLine).readOn arguments =
      (line.readOn arguments).map (Request.withVerbose verbose) := by
  induction arguments generalizing line with
  | nil => exact finish_withVerbose line verbose
  | cons argument arguments ih =>
    have hargument : line.operandsOnly ∨ givesVerbose argument = false := by
      cases honly : line.operandsOnly with
      | true => exact .inl rfl
      | false =>
        by_cases hdashes : argument = "--"
        · rw [hdashes]
          exact .inr rfl
        · rw [front_cons honly hdashes] at h
          exact .inr (h argument List.mem_cons_self)
    rw [readOn, readOn, addArgument_withVerbose line verbose hargument]
    cases hadd : line.addArgument argument with
    | error error => rfl
    | ok taken =>
      cases taken with
      | inl next =>
        have hadds := adds_of_addArgument hadd
        have hnext := (hadds.given_append_coming hline arguments).2
        exact ih hnext fun other hother => h other (hadds.front_subset hline arguments hother)
      | inr request =>
        rcases (addArgument_inr hadd).1 with rfl | rfl <;> rfl

/-- What follows on an empty operand and is taken up does not make it complete. -/
theorem Adds.settle_ne (hadds : Adds line argument next) (hline : line.settle ≠ .ok line) :
    next.settle ≠ .ok next := by
  cases hadds with
  | operand plain added =>
    rcases eq_of_addOperand added with ⟨hinput, rfl⟩ | ⟨-, -, hsettle, -⟩
    · intro hnext
      refine hline (settle_eq_ok_iff.mpr ⟨(settle_eq_ok_iff.mp hnext).1, ?_⟩)
      rw [hinput]
      exact fun _ => nofun
    · exact absurd hsettle hline
  | dashes only spelled =>
    intro hnext
    have hsettled := settle_eq_ok_iff.mp hnext
    exact hline (settle_eq_ok_iff.mpr hsettled)
  | verbose _ _ hsettle _ => exact absurd hsettle hline

/-- With an empty operand nothing is asked for, whatever follows. -/
theorem exists_readOn_eq_error (hline : line.settle ≠ .ok line) (arguments : List String) :
    ∃ error, line.readOn arguments = .error error := by
  induction arguments generalizing line with
  | nil =>
    rw [readOn, finish]
    split
    next error _ => exact ⟨error, rfl⟩
    next settled hsettle =>
      obtain rfl := eq_of_settle hsettle
      exact absurd hsettle hline
  | cons argument arguments ih =>
    rw [readOn]
    cases hadd : line.addArgument argument with
    | error error => exact ⟨error, rfl⟩
    | ok taken =>
      cases taken with
      | inl next => exact ih ((adds_of_addArgument hadd).settle_ne hline)
      | inr request => exact absurd (addArgument_inr hadd).2 hline

/-- What is neither the flag nor `--` can only add an operand. -/
theorem Adds.addOperand_eq (hadds : Adds line argument next) (hdashes : argument ≠ "--")
    (hgives : givesVerbose argument = false) : line.addOperand argument = .ok next := by
  cases hadds with
  | operand plain added => exact added
  | dashes only spelled => exact absurd spelled hdashes
  | verbose only spelled _ _ => rcases spelled with rfl | rfl <;> cases hgives

/-- An operand that is not empty leaves the line complete. -/
theorem settle_of_addOperand (hline : line.InOrder) (h : line.addOperand argument = .ok next)
    (hargument : argument ≠ "") : next.settle = .ok next := by
  rcases eq_of_addOperand h with ⟨hinput, rfl⟩ | ⟨-, -, -, rfl⟩
  · simp [settle_eq_ok_iff, hline hinput, hargument]
  · simp [settle_eq_ok_iff, hargument]

/-- The flag in front of the rest of a line in which it is not given. -/
theorem readOn_flag_cons (hline : line.InOrder) (hsettle : line.settle = .ok line) (hverbose : line.verbose = false)
    (honly : line.operandsOnly = false) (hflag : isVerboseFlag flag)
    (h : ∀ argument ∈ beforeDashes arguments, givesVerbose argument = false) :
    line.readOn (flag :: arguments) = (line.readOn arguments).map (Request.withVerbose true) := by
  have hadds : Adds line flag { line with verbose := true } :=
    .verbose honly (isVerboseFlag_iff.mp hflag) hsettle hverbose
  rw [hadds.readOn_cons]
  refine readOn_map_withVerbose hline true ?_
  rwa [front, honly, if_neg Bool.false_ne_true]

/-- The operand in front of what follows on `before` is empty: the last of these arguments or, if there are none,
the one taken up last. -/
def EndsEmpty (line : CommandLine) (before : List String) : Prop :=
  (before = [] → line.settle ≠ .ok line) ∧ (before ≠ [] → before.getLast? = some "")

theorem endsEmpty_cons (hline : line.InOrder) (hadd : line.addOperand argument = .ok next)
    (h : next.EndsEmpty before) : line.EndsEmpty (argument :: before) := by
  refine ⟨nofun, fun _ => ?_⟩
  cases before with
  | nil =>
    by_cases hempty : argument = ""
    · rw [hempty, List.getLast?_singleton]
    · exact absurd (settle_of_addOperand hline hadd hempty) (h.1 rfl)
  | cons other before =>
    rw [List.getLast?_cons_cons]
    exact h.2 nofun

/-- The flag behind some arguments changes nothing else, unless it stands behind an empty operand: then nothing is
asked for with the flag, nor without it. -/
theorem readOn_append_flag (hline : line.InOrder) (hverbose : line.verbose = false)
    (honly : line.operandsOnly = false) (hbefore : "--" ∉ before) (hflag : isVerboseFlag flag)
    (h : ∀ argument ∈ before ++ beforeDashes after, givesVerbose argument = false) :
    line.readOn (before ++ flag :: after) =
        (line.readOn (before ++ after)).map (Request.withVerbose true) ∨
      line.EndsEmpty before ∧ (∃ error, line.readOn (before ++ flag :: after) = .error error) ∧
        ∃ error, line.readOn (before ++ after) = .error error := by
  induction before generalizing line with
  | nil =>
    by_cases hsettle : line.settle = .ok line
    · exact .inl (readOn_flag_cons hline hsettle hverbose honly hflag h)
    · exact .inr ⟨⟨fun _ => hsettle, absurd rfl⟩, exists_readOn_eq_error hsettle _,
        exists_readOn_eq_error hsettle _⟩
  | cons argument before ih =>
    obtain ⟨hdashes, hbefore⟩ := not_or.mp (mt List.mem_cons.mpr hbefore)
    obtain ⟨hargument, h⟩ := List.forall_mem_cons.mp h
    rw [List.cons_append, List.cons_append, readOn, readOn]
    cases hadd : line.addArgument argument with
    | error error => exact .inl rfl
    | ok taken =>
      cases taken with
      | inr request => rcases (addArgument_inr hadd).1 with rfl | rfl <;> exact .inl rfl
      | inl next =>
        have hoperand := (adds_of_addArgument hadd).addOperand_eq (Ne.symm hdashes) hargument
        obtain ⟨-, hnext, honly'⟩ := given_of_addOperand hline hoperand
        have hverbose' := (verbose_of_addOperand hoperand).trans hverbose
        exact (ih hnext hverbose' (honly'.trans honly) hbefore h).imp_right
          (And.imp_left (endsEmpty_cons hline hoperand))

/-- Wherever the flag stands in front of `--`, the reading is the one without it, with more messages. Only behind an
empty operand the arguments may make no sense for another reason, with the flag and without it. -/
theorem parse_flag (hbefore : "--" ∉ before) (hflag : isVerboseFlag flag)
    (h : ∀ argument ∈ before ++ beforeDashes after, givesVerbose argument = false) :
    parse (before ++ flag :: after) = (parse (before ++ after)).map (Request.withVerbose true) ∨
      before.getLast? = some "" ∧ (∃ error, parse (before ++ flag :: after) = .error error) ∧
        ∃ error, parse (before ++ after) = .error error := by
  refine (readOn_append_flag (fun _ => rfl) rfl rfl hbefore hflag h).imp_right (And.imp_left ?_)
  rintro ⟨hnil, hlast⟩
  exact hlast fun hempty => hnil hempty rfl

end

end CommandLine

end LinePatch
