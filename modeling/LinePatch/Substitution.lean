/-!
# Literal substitution in lists

A substitution replaces the occurrences of one fixed list by another. A list is scanned once from
left to right: the first occurrence of the pattern in what is left is replaced, and the scan goes on
behind it. Occurrences that overlap a replaced one are passed over, and inserted elements are never
searched.

## Main definitions

* `cut?`: the two parts of a list around the first occurrence of another
* `Substitution`: a pattern that is not empty, and its replacement
* `Scan`: a list of which a first part has been processed
* `Substitution.advance?`, `Substitution.finish`: one replacement, and all that are left
* `Substitution.apply`: the whole scan

## Main results

* `isPrefixOf?_eq_some_iff`, `eq_append_of_cut?`: what is cut out is the pattern
* `length_rest_lt_of_advance?`: every replacement shortens what is left
-/

namespace LinePatch

variable {α : Type}

/-! ## The first occurrence of a list in another -/

section

variable [DecidableEq α]

theorem isPrefixOf?_eq_some_iff {p s rest : List α} :
    p.isPrefixOf? s = some rest ↔ s = p ++ rest := by
  induction p generalizing s with
  | nil => exact Option.some_inj
  | cons a p ih =>
    cases s with
    | nil => exact ⟨nofun, nofun⟩
    | cons b s =>
      change (if a == b then p.isPrefixOf? s else none) = some rest ↔ _
      by_cases h : a = b
      · simp [h, ih]
      · simp [h, Ne.symm h]

/-- The parts of `s` before and after the first occurrence of `p`. -/
def cut? (p s : List α) : Option (List α × List α) :=
  go [] s
where
  /-- Looks for `p` in what is left of the list; `before`, last element first, stood in front. -/
  go (before : List α) (s : List α) : Option (List α × List α) :=
    match p.isPrefixOf? s with
    | some after => some (before.reverse, after)
    | none =>
      match s with
      | [] => none
      | a :: s => go (a :: before) s

theorem eq_append_of_cut?_go {p before s gap rest : List α}
    (h : cut?.go p before s = some (gap, rest)) : before.reverse ++ s = gap ++ p ++ rest := by
  fun_induction cut?.go p before s with
  | case1 s before after hp =>
    obtain ⟨rfl, rfl⟩ : before.reverse = gap ∧ after = rest := by simpa using h
    rw [isPrefixOf?_eq_some_iff.1 hp, List.append_assoc]
  | case2 => simp at h
  | case3 before a s _ ih => simpa using ih h

theorem eq_append_of_cut? {p s gap rest : List α} (h : cut? p s = some (gap, rest)) :
    s = gap ++ p ++ rest := by
  simpa using eq_append_of_cut?_go h

theorem length_lt_of_cut? {p s gap rest : List α} (hp : p ≠ []) (h : cut? p s = some (gap, rest)) :
    rest.length < s.length := by
  have hpos := List.length_pos_iff.2 hp
  rw [eq_append_of_cut? h]
  simp only [List.length_append]
  omega

end

/-! ## Substitutions -/

/-- What is looked for, and what takes its place. -/
structure Substitution (α : Type) where
  pattern : List α
  replacement : List α
  /-- The empty list occurs everywhere, so it cannot be replaced. -/
  pattern_ne_nil : pattern ≠ []

/-- The result of a substitution: a list, and how many occurrences were replaced in it. -/
structure Patched (α : Type) where
  /-- The list after the replacements. -/
  output : List α
  /-- The number of occurrences replaced. -/
  count : Nat
deriving DecidableEq

/-- Nothing was replaced, so the list is handed back as it came. -/
def Patched.untouched (patched : Patched α) : Bool :=
  patched.count == 0

/-- A list on its way through a substitution. -/
structure Scan (α : Type) where
  /-- The output for the part behind the scan, last element first. -/
  passed : List α
  /-- The part that lies ahead. -/
  rest : List α
  /-- The number of occurrences replaced so far. -/
  count : Nat
deriving DecidableEq

/-- A scan that has not begun. -/
def Scan.start (list : List α) : Scan α :=
  { passed := [], rest := list, count := 0 }

/-- The result if nothing more is replaced. -/
def Scan.patched (scan : Scan α) : Patched α :=
  { output := scan.passed.reverseAux scan.rest, count := scan.count }

namespace Substitution

variable [DecidableEq α]

/-- Moves a scan behind the next occurrence of the pattern, which is replaced. -/
def advance? (sub : Substitution α) (scan : Scan α) : Option (Scan α) :=
  (cut? sub.pattern scan.rest).map fun (gap, rest) =>
    { passed := sub.replacement.reverseAux (gap.reverseAux scan.passed)
      rest
      count := scan.count + 1 }

theorem length_rest_lt_of_advance? {sub : Substitution α} {scan next : Scan α}
    (h : sub.advance? scan = some next) : next.rest.length < scan.rest.length := by
  obtain ⟨⟨gap, rest⟩, hcut, rfl⟩ := Option.map_eq_some_iff.1 h
  exact length_lt_of_cut? sub.pattern_ne_nil hcut

/-- Replaces every further occurrence of the pattern. -/
def finish (sub : Substitution α) (scan : Scan α) : Scan α :=
  match _h : sub.advance? scan with
  | none => scan
  | some next => sub.finish next
termination_by scan.rest.length
decreasing_by exact length_rest_lt_of_advance? _h

/-- Replaces the occurrences of the pattern in a list, leftmost first and without overlaps. -/
def apply (sub : Substitution α) (list : List α) : Patched α :=
  (sub.finish (.start list)).patched

end Substitution

end LinePatch
