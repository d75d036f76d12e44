import LinePatch.CommandLine

/-!
# What the command line gives

The arguments are read from left to right, and each that does not end the reading either adds an operand,
or sets a flag, or makes operands of the arguments behind it. `Adds` is everything that such an argument can
do. So a command line that asks for a patch gives the paths of the patch as its operands, in order, and the
flag for more messages changes nothing else.

## Main definitions

* `CommandLine.operands`: the operands among some arguments
* `CommandLine.Adds`: what an argument adds that does not end the reading

## Main results

* `CommandLine.adds_of_addArgument`, `CommandLine.Adds.addArgument_eq`: one argument
* `CommandLine.exists_adds_of_readOn_cons`, `CommandLine.Adds.readOn_cons`: the arguments in a row
* `CommandLine.operands_of_readOn`: the operands are the paths of the patch
* `CommandLine.parse_cons_verbose`: the flag for more messages changes nothing else
-/

namespace LinePatch

namespace CommandLine

/-- The argument begins with a dash, and is not a dash alone. -/
def isDashed (argument : String) : Bool :=
  match argument.toList with
  | '-' :: _ :: _ => true
  | _ => false

/-- The operands among some arguments: those without a dash, and all behind `--`. -/
def operands : List String → List String
  | [] => []
  | argument :: arguments =>
    if argument = "--" then arguments
    else if isDashed argument then operands arguments
    else argument :: operands arguments

/-- What an argument adds that does not end the reading. -/
inductive Adds (line : CommandLine) (argument : String) : CommandLine → Prop
  | operand {next} (plain : line.operandsOnly ∨ isDashed argument = false)
      (added : line.addOperand argument = .ok next) : Adds line argument next
  | dashes (only : line.operandsOnly = false) (spelled : argument = "--") :
      Adds line argument { line with operandsOnly := true }
  | verbose (only : line.operandsOnly = false) (spelled : argument = "-v" ∨ argument = "--verbose")
      (settled : line.settle = .ok line) (first : line.verbose = false) :
      Adds line argument { line with verbose := true }

/-! ## One argument -/

section Argument

variable {line next : CommandLine} {argument : String} {flag : Flag} {request : Request}

theorem eq_of_settle (h : line.settle = .ok next) : next = line := by
  unfold settle at h
  split at h
  next => cases h
  next =>
    split at h <;> cases h
    rfl

/-- A flag only adds something if it is the one for more messages, and comes first. -/
theorem addFlag_inl (h : line.addFlag flag = .ok (.inl next)) :
    flag = .verbose ∧ line.settle = .ok line ∧ line.verbose = false ∧
      next = { line with verbose := true } := by
  unfold addFlag at h
  split at h
  next => cases h
  next settled hsettle =>
    obtain rfl := eq_of_settle hsettle
    split at h
    next => cases h
    next => cases h
    next =>
      split at h
      next => cases h
      next hfirst =>
        cases h
        exact ⟨rfl, hsettle, Bool.eq_false_iff.mpr hfirst, rfl⟩

/-- The flags that end the reading do not ask for a patch, and what stands in front of them is complete. -/
theorem addFlag_inr (h : line.addFlag flag = .ok (.inr request)) :
    (request = .help ∨ request = .version) ∧ line.settle = .ok line := by
  unfold addFlag at h
  split at h
  next => cases h
  next settled hsettle =>
    obtain rfl := eq_of_settle hsettle
    split at h
    next => cases h; exact ⟨.inl rfl, hsettle⟩
    next => cases h; exact ⟨.inr rfl, hsettle⟩
    next => split at h <;> cases h

theorem eq_of_ofLetter? {letter : Char} (h : Flag.ofLetter? letter = some .verbose) : letter = 'v' := by
  unfold Flag.ofLetter? at h
  split at h
  next => rfl
  all_goals cases h

theorem eq_of_ofName? {name : String} (h : Flag.ofName? name = some .verbose) : name = "verbose" := by
  unfold Flag.ofName? at h
  split at h
  next => rfl
  all_goals cases h

/-- Of joined flags only one can add something, since it cannot come again. -/
theorem addLetters_inl {letters : List Char} (h : line.addLetters letters = .ok (.inl next)) :
    letters = [] ∧ next = line ∨
      letters = ['v'] ∧ line.settle = .ok line ∧ line.verbose = false ∧
        next = { line with verbose := true } := by
  fun_induction addLetters line letters with
  | case1 line =>
    cases h
    exact .inl ⟨rfl, rfl⟩
  | case2 => cases h
  | case3 line letter letters flag hflag middle hadd ih =>
    obtain ⟨rfl, hsettle, hfirst, rfl⟩ := addFlag_inl hadd
    rcases ih h with ⟨rfl, rfl⟩ | ⟨-, -, hagain, -⟩
    · exact .inr ⟨by rw [eq_of_ofLetter? hflag], hsettle, hfirst, rfl⟩
    · cases hagain
  | case4 line letter letters flag hflag hadd => exact absurd h (hadd next)

theorem addLetters_inr {letters : List Char} (h : line.addLetters letters = .ok (.inr request)) :
    (request = .help ∨ request = .version) ∧ line.settle = .ok line := by
  fun_induction addLetters line letters with
  | case1 => cases h
  | case2 => cases h
  | case3 line letter letters flag hflag middle hadd ih => exact ⟨(ih h).1, (addFlag_inl hadd).2.1⟩
  | case4 line letter letters flag hflag hadd => exact addFlag_inr h

/-- A long flag is its name if nothing is attached to it. -/
theorem eq_of_ofName?_takeWhile {chars : List Char}
    (hname : Flag.ofName? (String.ofList (chars.takeWhile (· ≠ '='))) = some .verbose)
    (hrest : chars.dropWhile (· ≠ '=') = []) : chars = "verbose".toList := by
  have hchars : chars.takeWhile (· ≠ '=') = chars := by
    have happend := List.takeWhile_append_dropWhile (p := (· ≠ '=')) (l := chars)
    rwa [hrest, List.append_nil] at happend
  rw [hchars] at hname
  rw [← eq_of_ofName? hname, String.toList_ofList]

theorem addLong_inl {chars : List Char} (h : line.addLong chars = .ok (.inl next)) :
    chars = "verbose".toList ∧ line.settle = .ok line ∧ line.verbose = false ∧
      next = { line with verbose := true } := by
  unfold addLong at h
  simp only at h
  split at h
  next => cases h
  next flag hname hrest =>
    obtain ⟨rfl, hsettle, hfirst, hnext⟩ := addFlag_inl h
    exact ⟨eq_of_ofName?_takeWhile hname hrest, hsettle, hfirst, hnext⟩
  next => cases h

theorem addLong_inr {chars : List Char} (h : line.addLong chars = .ok (.inr request)) :
    (request = .help ∨ request = .version) ∧ line.settle = .ok line := by
  unfold addLong at h
  simp only at h
  split at h
  next => cases h
  next => exact addFlag_inr h
  next => cases h

theorem addOperand_inl (h : (line.addOperand argument).map Sum.inl = .ok (.inl next : Taken)) :
    line.addOperand argument = .ok next := by
  cases hadd : line.addOperand argument with
  | error error =>
    rw [hadd] at h
    cases h
  | ok added =>
    rw [hadd] at h
    cases h
    rfl

/-- An operand takes the first place that is left; the second operand completes the first. -/
theorem eq_of_addOperand (h : line.addOperand argument = .ok next) :
    line.input? = none ∧ next = { line with input? := some argument } ∨
      (∃ input, line.input? = some input) ∧ line.output? = none ∧ line.settle = .ok line ∧
        next = { line with output? := some argument } := by
  unfold addOperand at h
  split at h
  next hinput =>
    cases h
    exact .inl ⟨hinput, rfl⟩
  next input hinput houtput =>
    cases hsettle : line.settle with
    | error error =>
      rw [hsettle] at h
      cases h
    | ok settled =>
      obtain rfl := eq_of_settle hsettle
      rw [hsettle] at h
      cases h
      exact .inr ⟨⟨input, hinput⟩, houtput, rfl, rfl⟩
  next => cases h

/-- Everything that an argument can do that does not end the reading. -/
theorem adds_of_addArgument (h : line.addArgument argument = .ok (.inl next)) :
    Adds line argument next := by
  unfold addArgument at h
  split at h
  next honly => exact .operand (.inl honly) (addOperand_inl h)
  next honly =>
    have honly : line.operandsOnly = false := Bool.eq_false_iff.mpr honly
    split at h
    next hspelled =>
      cases h
      exact .dashes honly (String.toList_inj.mp hspelled)
    next chars _ hspelled =>
      obtain ⟨rfl, hsettle, hfirst, rfl⟩ := addLong_inl h
      have hlong : argument = "--verbose" := String.toList_inj.mp hspelled
      exact .verbose honly (.inr hlong) hsettle hfirst
    next letter letters _ _ hspelled =>
      rcases addLetters_inl h with ⟨hnil, -⟩ | ⟨hletters, hsettle, hfirst, rfl⟩
      · cases hnil
      · rw [hletters] at hspelled
        have hshort : argument = "-v" := String.toList_inj.mp hspelled
        exact .verbose honly (.inl hshort) hsettle hfirst
    next hplain =>
      refine .operand (.inr ?_) (addOperand_inl h)
      unfold isDashed
      split
      next letter letters hspelled => exact absurd hspelled (hplain letter letters)
      next => rfl

theorem addFlag_verbose (hsettle : line.settle = .ok line) (hfirst : line.verbose = false) :
    line.addFlag .verbose = .ok (.inl { line with verbose := true }) := by
  simp only [addFlag, hsettle, hfirst, Bool.false_eq_true, if_false]

/-- Whatever is added is added by the reading. -/
theorem Adds.addArgument_eq (hadds : Adds line argument next) :
    line.addArgument argument = .ok (.inl next) := by
  unfold addArgument
  cases hadds with
  | operand plain added =>
    rw [added]
    split
    next => rfl
    next honly =>
      have hplain := plain.resolve_left honly
      unfold isDashed at hplain
      split
      next hspelled => simp [hspelled] at hplain
      next hspelled => simp [hspelled] at hplain
      next hspelled => simp [hspelled] at hplain
      next => rfl
  | dashes only spelled =>
    rw [if_neg (Bool.eq_false_iff.mp only), spelled]
    rfl
  | verbose only spelled settled first =>
    have hflag := addFlag_verbose settled first
    rw [if_neg (Bool.eq_false_iff.mp only)]
    rcases spelled with rfl | rfl
    · change line.addLetters ['v'] = _
      simp only [addLetters, Flag.ofLetter?, hflag]
    · exact hflag

/-- An argument that ends the reading does not ask for a patch, and what stands in front of it is complete. -/
theorem addArgument_inr (h : line.addArgument argument = .ok (.inr request)) :
    (request = .help ∨ request = .version) ∧ line.settle = .ok line := by
  have hoperand : (line.addOperand argument).map Sum.inl ≠ .ok (.inr request : Taken) := by
    cases line.addOperand argument <;> exact nofun
  unfold addArgument at h
  split at h
  next => exact absurd h hoperand
  next =>
    split at h
    next => cases h
    next => exact addLong_inr h
    next => exact addLetters_inr h
    next => exact absurd h hoperand

end Argument

/-! ## The whole line -/

section

variable {line next : CommandLine} {argument : String} {arguments : List String} {route : Route}
  {verbose : Bool}

/-- The operands taken up so far. -/
def given (line : CommandLine) : List String :=
  line.input?.toList ++ line.output?.toList

/-- The operands that come. -/
def coming (line : CommandLine) (arguments : List String) : List String :=
  if line.operandsOnly then arguments else operands arguments

theorem ne_dashes_of_isDashed_eq_false (h : isDashed argument = false) : argument ≠ "--" := by
  rintro rfl
  cases h

theorem coming_cons (plain : line.operandsOnly ∨ isDashed argument = false) (arguments : List String) :
    line.coming (argument :: arguments) = argument :: line.coming arguments := by
  unfold coming
  rcases plain with honly | hplain
  · rw [if_pos honly, if_pos honly]
  · have hdashes := ne_dashes_of_isDashed_eq_false hplain
    split
    next => rfl
    next => rw [operands, if_neg hdashes, if_neg (Bool.eq_false_iff.mp hplain)]

/-- The second operand is not taken up before the first. -/
def InOrder (line : CommandLine) : Prop :=
  line.input? = none → line.output? = none

/-- A line that asks for a patch is read to its end. -/
theorem exists_adds_of_readOn_cons
    (h : line.readOn (argument :: arguments) = .ok (.patch route verbose)) :
    ∃ next, Adds line argument next ∧ next.readOn arguments = .ok (.patch route verbose) := by
  unfold readOn at h
  split at h
  next => cases h
  next request hargument =>
    cases h
    rcases (addArgument_inr hargument).1 with hrequest | hrequest <;> cases hrequest
  next next hargument => exact ⟨next, adds_of_addArgument hargument, h⟩

theorem Adds.readOn_cons (hadds : Adds line argument next) (arguments : List String) :
    line.readOn (argument :: arguments) = next.readOn arguments := by
  rw [readOn, hadds.addArgument_eq]

theorem given_of_addOperand (hline : line.InOrder) (h : line.addOperand argument = .ok next) :
    next.given = line.given ++ [argument] ∧ next.InOrder ∧ next.operandsOnly = line.operandsOnly := by
  rcases eq_of_addOperand h with ⟨hinput, rfl⟩ | ⟨⟨input, hinput⟩, houtput, -, rfl⟩
  · refine ⟨?_, nofun, rfl⟩
    simp [given, hinput, hline hinput]
  · refine ⟨?_, ?_, rfl⟩
    · simp [given, hinput, houtput]
    · intro hnone
      rw [hinput] at hnone
      cases hnone

/-- An argument that adds an operand is the next operand, and any other is none. -/
theorem Adds.given_append_coming (hadds : Adds line argument next) (hline : line.InOrder)
    (arguments : List String) :
    next.given ++ next.coming arguments = line.given ++ line.coming (argument :: arguments) ∧
      next.InOrder := by
  cases hadds with
  | operand plain added =>
    obtain ⟨hgiven, hnext, honly⟩ := given_of_addOperand hline added
    refine ⟨?_, hnext⟩
    rw [coming_cons plain, hgiven, List.append_assoc, List.singleton_append]
    unfold coming
    rw [honly]
  | dashes only spelled =>
    refine ⟨?_, hline⟩
    simp [coming, only, spelled, operands, given]
  | verbose only spelled _ _ =>
    refine ⟨?_, hline⟩
    rcases spelled with rfl | rfl <;> simp [coming, only, operands, given, isDashed]

theorem finish_eq_patch_iff : line.finish = .ok (.patch route verbose) ↔
    line.settle = .ok line ∧ line.input? = some route.input ∧ line.output? = some route.output ∧
      verbose = line.verbose := by
  unfold finish
  constructor
  · intro h
    split at h
    next => cases h
    next settled hsettle =>
      obtain rfl := eq_of_settle hsettle
      split at h
      next input output hinput houtput =>
        cases h
        exact ⟨hsettle, hinput, houtput, rfl⟩
      next => cases h
  · rintro ⟨hsettle, hinput, houtput, rfl⟩
    simp only [hsettle, hinput, houtput]

/-- The operands of a command line that asks for a patch are the paths of the patch. -/
theorem operands_of_readOn (hline : line.InOrder)
    (h : line.readOn arguments = .ok (.patch route verbose)) :
    line.given ++ line.coming arguments = [route.input, route.output] := by
  induction arguments generalizing line with
  | nil =>
    obtain ⟨-, hinput, houtput, -⟩ := finish_eq_patch_iff.mp h
    simp [given, coming, operands, hinput, houtput]
  | cons argument arguments ih =>
    obtain ⟨next, hadds, hnext⟩ := exists_adds_of_readOn_cons h
    obtain ⟨hgiven, horder⟩ := hadds.given_append_coming hline arguments
    rw [← hgiven]
    exact ih horder hnext

theorem operands_of_parse (h : parse arguments = .ok (.patch route verbose)) :
    operands arguments = [route.input, route.output] :=
  operands_of_readOn (fun _ => rfl) h

/-! ## More messages -/

theorem settle_withVerbose (line : CommandLine) (verbose : Bool) :
    ({ line with verbose } : CommandLine).settle = line.settle.map ({ · with verbose }) := by
  unfold settle
  simp only
  split
  · rfl
  · split <;> rfl

theorem addOperand_withVerbose (line : CommandLine) (argument : String) (verbose : Bool) :
    ({ line with verbose } : CommandLine).addOperand argument =
      (line.addOperand argument).map ({ · with verbose }) := by
  unfold addOperand
  simp only
  split
  · rfl
  · rw [settle_withVerbose]
    cases line.settle <;> rfl
  · rfl

theorem verbose_of_addOperand (h : line.addOperand argument = .ok next) : next.verbose = line.verbose := by
  rcases eq_of_addOperand h with ⟨-, rfl⟩ | ⟨-, -, -, rfl⟩ <;> rfl

/-- Without the flag itself, the same is added whether there are to be more messages or not. -/
theorem Adds.withVerbose (hadds : Adds line argument next) (hnext : next.verbose = false) :
    Adds { line with verbose := true } argument { next with verbose := true } := by
  cases hadds with
  | operand plain added =>
    refine .operand plain ?_
    rw [addOperand_withVerbose, added]
    rfl
  | dashes only spelled => exact .dashes only spelled
  | verbose => cases hnext

theorem Adds.verbose_of_verbose (hadds : Adds line argument next) (hline : line.verbose = true) :
    next.verbose = true := by
  cases hadds with
  | operand plain added => exact (verbose_of_addOperand added).trans hline
  | dashes => exact hline
  | verbose => rfl

theorem verbose_of_readOn (hline : line.verbose = true)
    (h : line.readOn arguments = .ok (.patch route verbose)) : verbose = true := by
  induction arguments generalizing line with
  | nil =>
    obtain ⟨-, -, -, rfl⟩ := finish_eq_patch_iff.mp h
    exact hline
  | cons argument arguments ih =>
    obtain ⟨next, hadds, hnext⟩ := exists_adds_of_readOn_cons h
    exact ih (hadds.verbose_of_verbose hline) hnext

/-- The flag in front of what asks for a patch changes nothing but that there are more messages. -/
theorem readOn_withVerbose (h : line.readOn arguments = .ok (.patch route false)) :
    ({ line with verbose := true } : CommandLine).readOn arguments = .ok (.patch route true) := by
  induction arguments generalizing line with
  | nil =>
    obtain ⟨hsettle, hinput, houtput, -⟩ := finish_eq_patch_iff.mp h
    refine finish_eq_patch_iff.mpr ⟨?_, hinput, houtput, rfl⟩
    rw [settle_withVerbose, hsettle]
    rfl
  | cons argument arguments ih =>
    obtain ⟨next, hadds, hnext⟩ := exists_adds_of_readOn_cons h
    have hverbose : next.verbose = false := by
      rw [Bool.eq_false_iff]
      intro hverbose
      cases verbose_of_readOn hverbose hnext
    rw [(hadds.withVerbose hverbose).readOn_cons]
    exact ih hnext

theorem parse_cons_verbose (h : parse arguments = .ok (.patch route false))
    (hargument : argument = "-v" ∨ argument = "--verbose") :
    parse (argument :: arguments) = .ok (.patch route true) := by
  have hadds : Adds {} argument { verbose := true } := .verbose rfl hargument rfl rfl
  exact (hadds.readOn_cons arguments).trans (readOn_withVerbose h)

end

end CommandLine

end LinePatch
