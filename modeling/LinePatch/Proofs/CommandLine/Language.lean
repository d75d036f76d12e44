import LinePatch.Program
import LinePatch.Proofs.CommandLine

/-!
# The language of the command line

A command line asks for a patch exactly if two operands and at most one flag make it up. In front of the first
`--`, an argument that begins with a dash is the flag for more messages, in one of its two spellings, unless it
is a dash alone; behind it all are operands. No operand may be empty. The reading looks at one argument after
another, so this is shown for the rest of a line of which some has been taken up.

## Main definitions

* `CommandLine.Accepts`: the command lines that ask for a patch
* `CommandLine.MakesUp`: operands and flags that make up such a command line
* `CommandLine.Completes`: the arguments that complete a line to one that asks for a patch

## Main results

* `CommandLine.Adds.completes_iff`: one argument more or less
* `CommandLine.readOn_eq_patch_iff`, `CommandLine.parse_eq_patch_iff`: the rest of a line, and the whole line
* `CommandLine.accepts_flag_iff`: the place of the flag does not matter
* `run_patches_iff`: when the program patches, and what it does else
-/

namespace LinePatch

namespace CommandLine

/-- The argument is the flag for more messages. -/
def isVerboseFlag (argument : String) : Bool :=
  argument = "-v" || argument = "--verbose"

/-- The arguments in front of the first `--`. -/
def beforeDashes (arguments : List String) : List String :=
  arguments.takeWhile (· ≠ "--")

/-- The arguments behind the first `--`. -/
def behindDashes (arguments : List String) : List String :=
  (arguments.dropWhile (· ≠ "--")).tail

/-- The command lines that ask for a patch. -/
structure Accepts (arguments : List String) (route : Route) (verbose : Bool) : Prop where
  /-- In front of `--` stand the flag, and operands that do not look like one. -/
  before : ∀ argument ∈ beforeDashes arguments, isVerboseFlag argument ∨
    argument ≠ "" ∧ (argument = "-" ∨ argument.toList.head? ≠ some '-')
  flags : (beforeDashes arguments).countP isVerboseFlag ≤ 1
  /-- Behind `--` every argument is an operand, whatever it looks like. -/
  behind : ∀ argument ∈ behindDashes arguments, argument ≠ ""
  operands_eq : (beforeDashes arguments).filter (!isVerboseFlag ·) ++ behindDashes arguments =
    [route.input, route.output]
  verbose_iff : verbose ↔ ∃ argument ∈ beforeDashes arguments, isVerboseFlag argument

/-! ## The first `--` -/

section Dashes

variable {argument : String} {arguments before : List String}

theorem beforeDashes_dashes (arguments : List String) : beforeDashes ("--" :: arguments) = [] := rfl

theorem behindDashes_dashes (arguments : List String) : behindDashes ("--" :: arguments) = arguments := rfl

theorem beforeDashes_cons (h : argument ≠ "--") (arguments : List String) :
    beforeDashes (argument :: arguments) = argument :: beforeDashes arguments :=
  List.takeWhile_cons_of_pos (decide_eq_true h)

theorem behindDashes_cons (h : argument ≠ "--") (arguments : List String) :
    behindDashes (argument :: arguments) = behindDashes arguments :=
  congrArg List.tail (List.dropWhile_cons_of_pos (decide_eq_true h))

theorem forall_ne_dashes (h : "--" ∉ before) : ∀ argument ∈ before, decide (argument ≠ "--") := by
  intro argument hargument
  refine decide_eq_true ?_
  rintro rfl
  exact h hargument

theorem beforeDashes_append (h : "--" ∉ before) (rest : List String) :
    beforeDashes (before ++ rest) = before ++ beforeDashes rest :=
  List.takeWhile_append_of_pos (forall_ne_dashes h)

theorem behindDashes_append (h : "--" ∉ before) (rest : List String) :
    behindDashes (before ++ rest) = behindDashes rest :=
  congrArg List.tail (List.dropWhile_append_of_pos (forall_ne_dashes h))

theorem isDashed_iff : isDashed argument ↔ argument ≠ "-" ∧ argument.toList.head? = some '-' := by
  rw [ne_eq, ← String.toList_inj]
  unfold isDashed
  rcases argument.toList with _ | ⟨first, _ | ⟨second, rest⟩⟩
  · simp
  · simp
  · by_cases hfirst : first = '-' <;> simp [hfirst]

theorem isVerboseFlag_iff : isVerboseFlag argument ↔ argument = "-v" ∨ argument = "--verbose" := by
  simp [isVerboseFlag]

theorem ne_dashes_of_isVerboseFlag (h : isVerboseFlag argument) : argument ≠ "--" := by
  rintro rfl
  cases h

theorem isDashed_of_isVerboseFlag (h : isVerboseFlag argument) : isDashed argument := by
  rcases isVerboseFlag_iff.mp h with rfl | rfl <;> rfl

/-- The operands are those in front of `--` that do not look like flags, and all behind it. -/
theorem operands_eq_append (arguments : List String) :
    operands arguments = (beforeDashes arguments).filter (!isDashed ·) ++ behindDashes arguments := by
  induction arguments with
  | nil => rfl
  | cons argument arguments ih =>
    rw [operands]
    split
    next hdashes => rw [hdashes, beforeDashes_dashes, behindDashes_dashes, List.filter_nil, List.nil_append]
    next hdashes =>
      rw [beforeDashes_cons hdashes, behindDashes_cons hdashes, List.filter_cons, ih]
      split
      next hdashed => simp [hdashed]
      next hplain => simp [hplain]

end Dashes

/-! ## The rest of a line -/

/-- Operands, and arguments in which flags are looked for, that make up a command line for a patch; `flagged`
tells that the flag has been given before. -/
structure MakesUp (operands front : List String) (flagged : Bool) (route : Route) (verbose : Bool) : Prop where
  operands_eq : operands = [route.input, route.output]
  nonempty : ∀ operand ∈ operands, operand ≠ ""
  dashed : ∀ argument ∈ front, isDashed argument → isVerboseFlag argument
  flags : front.countP isVerboseFlag + flagged.toNat ≤ 1
  verbose_eq : verbose = (flagged || front.any isVerboseFlag)

/-- The arguments in which flags are looked for. -/
def front (line : CommandLine) (arguments : List String) : List String :=
  if line.operandsOnly then [] else beforeDashes arguments

/-- The arguments complete the line to one that asks for a patch. -/
def Completes (line : CommandLine) (arguments : List String) (route : Route) (verbose : Bool) : Prop :=
  MakesUp (line.given ++ line.coming arguments) (line.front arguments) line.verbose route verbose

/-- The first operand is taken up before the second, and then it is not empty. -/
structure Orderly (line : CommandLine) : Prop where
  inOrder : line.InOrder
  input_ne : line.output? ≠ none → line.input? ≠ some ""

section

variable {line next : CommandLine} {argument : String} {arguments operands front : List String}
  {route : Route} {verbose flagged : Bool}

theorem front_cons (honly : line.operandsOnly = false) (hdashes : argument ≠ "--")
    (arguments : List String) : line.front (argument :: arguments) = argument :: line.front arguments := by
  simp only [CommandLine.front, honly, Bool.false_eq_true, if_false, beforeDashes_cons hdashes]

/-- An argument that does not look like a flag is no concern of the flags. -/
theorem makesUp_plain_cons_iff (hplain : isDashed argument = false) :
    MakesUp operands (argument :: front) flagged route verbose ↔
      MakesUp operands front flagged route verbose := by
  have hflag : isVerboseFlag argument = false := by
    rw [Bool.eq_false_iff] at hplain ⊢
    exact mt isDashed_of_isVerboseFlag hplain
  constructor
  · rintro ⟨hoperands, hnonempty, hdashed, hflags, hverbose⟩
    refine ⟨hoperands, hnonempty, fun other hother => hdashed other (List.mem_cons_of_mem _ hother), ?_, ?_⟩
    · rwa [List.countP_cons_of_neg (Bool.eq_false_iff.mp hflag)] at hflags
    · rwa [List.any_cons, hflag, Bool.false_or] at hverbose
  · rintro ⟨hoperands, hnonempty, hdashed, hflags, hverbose⟩
    refine ⟨hoperands, hnonempty, List.forall_mem_cons.mpr ⟨?_, hdashed⟩, ?_, ?_⟩
    · exact fun hargument => absurd hargument (Bool.eq_false_iff.mp hplain)
    · rwa [List.countP_cons_of_neg (Bool.eq_false_iff.mp hflag)]
    · rwa [List.any_cons, hflag, Bool.false_or]

/-- The flag is given by an argument, or has been given before. -/
theorem makesUp_flag_cons_iff (hflag : isVerboseFlag argument) :
    MakesUp operands (argument :: front) false route verbose ↔ MakesUp operands front true route verbose := by
  constructor
  · rintro ⟨hoperands, hnonempty, hdashed, hflags, hverbose⟩
    refine ⟨hoperands, hnonempty, fun other hother => hdashed other (List.mem_cons_of_mem _ hother), ?_, ?_⟩
    · rwa [List.countP_cons_of_pos hflag] at hflags
    · rwa [List.any_cons, hflag, Bool.false_or] at hverbose
  · rintro ⟨hoperands, hnonempty, hdashed, hflags, hverbose⟩
    refine ⟨hoperands, hnonempty, List.forall_mem_cons.mpr ⟨fun _ => hflag, hdashed⟩, ?_, ?_⟩
    · rwa [List.countP_cons_of_pos hflag]
    · rwa [List.any_cons, hflag, Bool.false_or]

/-- It does not matter in which order the arguments come in which flags are looked for. -/
theorem MakesUp.perm {other : List String} (h : MakesUp operands front flagged route verbose)
    (hperm : front.Perm other) : MakesUp operands other flagged route verbose := by
  obtain ⟨hoperands, hnonempty, hdashed, hflags, hverbose⟩ := h
  have hany : front.any isVerboseFlag = other.any isVerboseFlag := by
    rw [Bool.eq_iff_iff, List.any_eq_true, List.any_eq_true]
    simp only [hperm.mem_iff]
  refine ⟨hoperands, hnonempty, fun argument hargument => hdashed argument (hperm.mem_iff.mpr hargument), ?_, ?_⟩
  · rwa [← hperm.countP_eq]
  · rwa [← hany]

/-- A flag given before is one that is not given later. -/
theorem makesUp_flagged_iff :
    MakesUp operands front true route true ↔ MakesUp operands front false route false := by
  constructor
  · rintro ⟨hoperands, hnonempty, hdashed, hflags, -⟩
    have hzero : front.countP isVerboseFlag = 0 := Nat.le_zero.mp (Nat.le_of_succ_le_succ hflags)
    refine ⟨hoperands, hnonempty, hdashed, ?_, ?_⟩
    · rw [hzero]
      decide
    · rw [Bool.false_or, eq_comm, List.any_eq_false]
      exact List.countP_eq_zero.mp hzero
  · rintro ⟨hoperands, hnonempty, hdashed, -, hverbose⟩
    rw [Bool.false_or, eq_comm, List.any_eq_false] at hverbose
    refine ⟨hoperands, hnonempty, hdashed, ?_, rfl⟩
    rw [List.countP_eq_zero.mpr hverbose]
    decide

theorem settle_eq_ok_iff : line.settle = .ok line ↔
    line.output? ≠ some "" ∧ (line.output? = none → line.input? ≠ some "") := by
  unfold settle
  split
  next h => simp [h]
  next h =>
    split
    next hinput => simp_all
    next hinput => simp_all

/-- Operands that are not empty are complete. -/
theorem settle_of_nonempty (h : ∀ operand ∈ line.given, operand ≠ "") : line.settle = .ok line := by
  refine settle_eq_ok_iff.mpr ⟨?_, ?_⟩
  · intro houtput
    exact h "" (by simp [given, houtput]) rfl
  · intro _ hinput
    exact h "" (by simp [given, hinput]) rfl

/-- A line is kept in order by what is added to it. -/
theorem Adds.orderly (hadds : Adds line argument next) (hline : line.Orderly) : next.Orderly := by
  cases hadds with
  | operand plain added =>
    refine ⟨(given_of_addOperand hline.inOrder added).2.1, ?_⟩
    rcases eq_of_addOperand added with ⟨hinput, rfl⟩ | ⟨-, houtput, hsettle, rfl⟩
    · exact fun houtput => absurd (hline.inOrder hinput) houtput
    · exact fun _ => (settle_eq_ok_iff.mp hsettle).2 houtput
  | dashes => exact ⟨hline.inOrder, hline.input_ne⟩
  | verbose => exact ⟨hline.inOrder, hline.input_ne⟩

/-- What is added makes the line longer and the arguments to come fewer. -/
theorem Adds.completes_iff (hadds : Adds line argument next) (hline : line.InOrder) :
    next.Completes arguments route verbose ↔ line.Completes (argument :: arguments) route verbose := by
  obtain ⟨hoperands, -⟩ := hadds.given_append_coming hline arguments
  unfold Completes
  rw [hoperands]
  cases hadds with
  | operand plain added =>
    obtain ⟨-, -, honly⟩ := given_of_addOperand hline added
    rw [verbose_of_addOperand added]
    unfold CommandLine.front
    rw [honly]
    split
    next => rfl
    next hnot =>
      have hplain := plain.resolve_left hnot
      have hdashes := ne_dashes_of_isDashed_eq_false hplain
      rw [beforeDashes_cons hdashes, makesUp_plain_cons_iff hplain]
  | dashes only spelled =>
    rw [spelled]
    unfold CommandLine.front
    rw [if_pos rfl, only, if_neg Bool.false_ne_true, beforeDashes_dashes]
  | verbose only spelled _ first =>
    have hflag := isVerboseFlag_iff.mpr spelled
    rw [front_cons only (ne_dashes_of_isVerboseFlag hflag), first, makesUp_flag_cons_iff hflag]
    rfl

/-- There is room for an operand, and the one before it is complete. -/
theorem exists_addOperand {more : List String} (hroom : (line.given ++ argument :: more).length ≤ 2)
    (hnonempty : ∀ operand ∈ line.given, operand ≠ "") : ∃ next, line.addOperand argument = .ok next := by
  unfold addOperand
  split
  next => exact ⟨_, rfl⟩
  next =>
    rw [settle_of_nonempty hnonempty]
    exact ⟨_, rfl⟩
  next input output hinput houtput =>
    simp [given, hinput, houtput] at hroom

theorem Completes.exists_adds (h : line.Completes (argument :: arguments) route verbose) :
    ∃ next, Adds line argument next := by
  have hnonempty : ∀ operand ∈ line.given, operand ≠ "" :=
    fun operand hoperand => h.nonempty operand (List.mem_append_left _ hoperand)
  by_cases hplain : line.operandsOnly ∨ isDashed argument = false
  · have hroom := Nat.le_of_eq (congrArg List.length h.operands_eq)
    rw [coming_cons hplain] at hroom
    obtain ⟨next, hadd⟩ := exists_addOperand hroom hnonempty
    exact ⟨next, .operand hplain hadd⟩
  · obtain ⟨honly, hdashed⟩ := not_or.mp hplain
    rw [Bool.not_eq_true] at honly
    rw [Bool.not_eq_false] at hdashed
    by_cases hdashes : argument = "--"
    · exact ⟨_, .dashes honly hdashes⟩
    · have hmem : argument ∈ line.front (argument :: arguments) := by
        rw [front_cons honly hdashes]
        exact List.mem_cons_self
      have hflag : isVerboseFlag argument := h.dashed argument hmem hdashed
      have hfirst : line.verbose = false := by
        have hflags := h.flags
        rw [front_cons honly hdashes, List.countP_cons_of_pos hflag] at hflags
        rw [Bool.eq_false_iff]
        intro hverbose
        rw [hverbose, Bool.toNat_true] at hflags
        omega
      exact ⟨_, .verbose honly (isVerboseFlag_iff.mp hflag) (settle_of_nonempty hnonempty) hfirst⟩

/-- The operands taken up are the two of a patch exactly if both places are filled. -/
theorem given_eq_pair_iff (hline : line.InOrder) {input output : String} :
    line.given = [input, output] ↔ line.input? = some input ∧ line.output? = some output := by
  unfold given
  constructor
  · intro h
    cases hinput : line.input? with
    | none => simp [hinput, hline hinput] at h
    | some first => cases houtput : line.output? <;> simp_all
  · rintro ⟨hinput, houtput⟩
    rw [hinput, houtput]
    rfl

theorem finish_eq_patch_iff_completes (hline : line.Orderly) :
    line.finish = .ok (.patch route verbose) ↔ line.Completes [] route verbose := by
  have hcoming : line.given ++ line.coming [] = line.given := by
    rw [coming]
    split <;> exact List.append_nil _
  have hfront : line.front [] = [] := by
    rw [CommandLine.front]
    split <;> rfl
  rw [finish_eq_patch_iff, Completes, hcoming, hfront]
  constructor
  · rintro ⟨hsettle, hinput, houtput, rfl⟩
    have hpair := (given_eq_pair_iff hline.inOrder).mpr ⟨hinput, houtput⟩
    refine ⟨hpair, ?_, by simp, by simp [Bool.toNat_le], by simp⟩
    have hne : line.input? ≠ some "" := hline.input_ne (by simp [houtput])
    have hne' := (settle_eq_ok_iff.mp hsettle).1
    rw [hpair]
    simp_all
  · intro h
    obtain ⟨hinput, houtput⟩ := (given_eq_pair_iff hline.inOrder).mp h.operands_eq
    exact ⟨settle_of_nonempty h.nonempty, hinput, houtput, by simpa using h.verbose_eq⟩

theorem readOn_eq_patch_iff (hline : line.Orderly) :
    line.readOn arguments = .ok (.patch route verbose) ↔ line.Completes arguments route verbose := by
  induction arguments generalizing line with
  | nil => exact finish_eq_patch_iff_completes hline
  | cons argument arguments ih =>
    constructor
    · intro h
      obtain ⟨next, hadds, hnext⟩ := exists_adds_of_readOn_cons h
      exact (hadds.completes_iff hline.inOrder).mp ((ih (hadds.orderly hline)).mp hnext)
    · intro h
      obtain ⟨next, hadds⟩ := h.exists_adds
      rw [hadds.readOn_cons]
      exact (ih (hadds.orderly hline)).mpr ((hadds.completes_iff hline.inOrder).mpr h)

end

/-! ## The whole line -/

section

variable {arguments before after : List String} {flag : String} {route : Route} {verbose : Bool}

/-- If in front of `--` only the flag looks like one, the other arguments there are operands. -/
theorem filter_isVerboseFlag_eq
    (h : ∀ argument ∈ before, isDashed argument → isVerboseFlag argument) :
    before.filter (!isVerboseFlag ·) = before.filter (!isDashed ·) := by
  refine List.filter_congr ?_
  intro argument hargument
  have hsame : isVerboseFlag argument = isDashed argument :=
    Bool.eq_iff_iff.mpr ⟨isDashed_of_isVerboseFlag, h argument hargument⟩
  rw [hsame]

theorem makesUp_iff_accepts :
    MakesUp (operands arguments) (beforeDashes arguments) false route verbose ↔
      Accepts arguments route verbose := by
  rw [operands_eq_append]
  constructor
  · rintro ⟨hpair, hnonempty, hdashed, hflags, hverbose⟩
    refine ⟨?_, hflags, ?_, ?_, ?_⟩
    · intro argument hargument
      by_cases hlooks : isDashed argument
      · exact .inl (hdashed argument hargument hlooks)
      · refine .inr ⟨?_, ?_⟩
        · refine hnonempty argument (List.mem_append_left _ (List.mem_filter.mpr ⟨hargument, ?_⟩))
          rw [Bool.not_eq_true']
          exact Bool.eq_false_iff.mpr hlooks
        · by_cases hdash : argument = "-"
          · exact .inl hdash
          · exact .inr fun hhead => hlooks (isDashed_iff.mpr ⟨hdash, hhead⟩)
    · exact fun argument hargument => hnonempty argument (List.mem_append_right _ hargument)
    · rw [filter_isVerboseFlag_eq hdashed, hpair]
    · rw [hverbose, Bool.false_or, List.any_eq_true]
  · rintro ⟨hbefore, hflags, hbehind, hpair, hverbose⟩
    have hdashed : ∀ argument ∈ beforeDashes arguments, isDashed argument → isVerboseFlag argument := by
      intro argument hargument hlooks
      refine (hbefore argument hargument).resolve_right ?_
      rintro ⟨-, hplain⟩
      rw [isDashed_iff] at hlooks
      exact hplain.elim hlooks.1 (absurd hlooks.2)
    refine ⟨?_, ?_, hdashed, hflags, ?_⟩
    · rw [← filter_isVerboseFlag_eq hdashed, hpair]
    · intro operand hoperand
      rcases List.mem_append.mp hoperand with hoperand | hoperand
      · obtain ⟨hmem, hplain⟩ := List.mem_filter.mp hoperand
        rw [Bool.not_eq_true', Bool.eq_false_iff] at hplain
        exact ((hbefore operand hmem).resolve_left (mt isDashed_of_isVerboseFlag hplain)).1
      · exact hbehind operand hoperand
    · rw [Bool.false_or, Bool.eq_iff_iff, hverbose, List.any_eq_true]

theorem parse_eq_patch_iff :
    parse arguments = .ok (.patch route verbose) ↔ Accepts arguments route verbose :=
  (readOn_eq_patch_iff ⟨fun _ => rfl, fun h => absurd rfl h⟩).trans makesUp_iff_accepts

example : parse ["-", "-v", "--", "--help"] = .ok (.patch ⟨"-", "--help"⟩ true) := rfl

/-- The flag is no operand. -/
theorem operands_append_flag (hbefore : "--" ∉ before) (hflag : isVerboseFlag flag) :
    operands (before ++ flag :: after) = operands (before ++ after) := by
  have hdashes := ne_dashes_of_isVerboseFlag hflag
  have hskip : (flag :: beforeDashes after).filter (!isDashed ·) = (beforeDashes after).filter (!isDashed ·) :=
    List.filter_cons_of_neg (by simp [isDashed_of_isVerboseFlag hflag])
  rw [operands_eq_append, operands_eq_append, beforeDashes_append hbefore, beforeDashes_append hbefore,
    behindDashes_append hbefore, behindDashes_append hbefore, beforeDashes_cons hdashes,
    behindDashes_cons hdashes, List.filter_append, List.filter_append, hskip]

/-- Wherever the flag stands in front of `--`, it does nothing but ask for more messages. -/
theorem accepts_flag_iff (hbefore : "--" ∉ before) (hflag : isVerboseFlag flag) :
    Accepts (before ++ flag :: after) route true ↔ Accepts (before ++ after) route false := by
  have hfront : beforeDashes (before ++ flag :: after) = before ++ flag :: beforeDashes after := by
    rw [beforeDashes_append hbefore, beforeDashes_cons (ne_dashes_of_isVerboseFlag hflag)]
  rw [← makesUp_iff_accepts, ← makesUp_iff_accepts, operands_append_flag hbefore hflag, hfront,
    beforeDashes_append hbefore]
  calc MakesUp (operands (before ++ after)) (before ++ flag :: beforeDashes after) false route true
    _ ↔ MakesUp (operands (before ++ after)) (flag :: (before ++ beforeDashes after)) false route true :=
      ⟨fun h => h.perm List.perm_middle, fun h => h.perm List.perm_middle.symm⟩
    _ ↔ MakesUp (operands (before ++ after)) (before ++ beforeDashes after) true route true :=
      makesUp_flag_cons_iff hflag
    _ ↔ MakesUp (operands (before ++ after)) (before ++ beforeDashes after) false route false :=
      makesUp_flagged_iff

end

end CommandLine

open CommandLine

/-- **When the program patches.** The program patches exactly if its arguments are accepted as a command line
for a patch: then it patches the first operand into the second, and logs more if the flag stands in front of
`--`, wherever it stands there. All other arguments end with the help text, the version or an error of the
arguments, and the files stay as they are. -/
theorem run_patches_iff (arguments : List String) (asked? : Option String) (files : FileSystem) :
    (∀ route verbose, parse arguments = .ok (.patch route verbose) ↔ Accepts arguments route verbose) ∧
      (∀ route verbose, Accepts arguments route verbose →
        let outcome := patchFile .assertReturn route files
        Program.run arguments asked? files =
          (Program.report route verbose asked? outcome.result outcome.events, outcome.files)) ∧
      ((¬ ∃ route verbose, Accepts arguments route verbose) →
        Program.run arguments asked? files = (Program.print Program.help, files) ∨
          Program.run arguments asked? files = (Program.print Program.versionText, files) ∨
          ∃ error, parse arguments = .error error ∧
            Program.run arguments asked? files = (Program.refuse error, files)) ∧
      ∀ before after flag, arguments = before ++ flag :: after → "--" ∉ before → isVerboseFlag flag →
        ∀ route, parse arguments = .ok (.patch route true) ↔
          parse (before ++ after) = .ok (.patch route false) := by
  refine ⟨fun route verbose => parse_eq_patch_iff, ?_, ?_, ?_⟩
  · intro route verbose haccepts outcome
    simp only [Program.run, parse_eq_patch_iff.mpr haccepts, outcome]
  · intro hnot
    cases hparse : parse arguments with
    | error error =>
      exact .inr (.inr ⟨error, rfl, Program.run_of_parse_error hparse asked? files⟩)
    | ok request =>
      cases request with
      | patch route verbose => exact absurd ⟨route, verbose, parse_eq_patch_iff.mp hparse⟩ hnot
      | help => exact .inl (by simp only [Program.run, hparse])
      | version => exact .inr (.inl (by simp only [Program.run, hparse]))
  · rintro before after flag rfl hbefore hflag route
    rw [parse_eq_patch_iff, parse_eq_patch_iff]
    exact accepts_flag_iff hbefore hflag

end LinePatch
