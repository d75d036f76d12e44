import LinePatch.Report

/-!
# What a report looks like

A report is one text under its headline. The causes stand below one another, each behind its number, and
where the text of a cause breaks, the next line begins below its first.

## Main definitions

* `Report.indented`: a text with blanks behind each of its line breaks

## Main results

* `Report.intercalate_pieces`: the lines of a text, put together with blanks between them
* `Report.text_pair`: the report of a failure and its cause
-/

namespace LinePatch

namespace Report

/-- What is put between the elements of a list that are equal to `separator` takes their place. -/
theorem intercalate_splitOn_eq_flatMap {α : Type} [DecidableEq α] (separator : α) (between list : List α) :
    between.intercalate (list.splitOn separator) =
      list.flatMap fun a => if a = separator then between else [a] := by
  induction list with
  | nil => rfl
  | cons a list ih =>
    have hne := List.splitOn_ne_nil separator list
    rw [List.splitOn_cons_eq_if_modifyHead, List.flatMap_cons, ← ih]
    split
    next heq =>
      rw [if_pos (eq_of_beq heq), List.intercalate_cons_of_ne_nil hne, List.nil_append]
    next hseparator =>
      obtain ⟨first, later, hsplit⟩ := List.exists_cons_of_ne_nil hne
      rw [if_neg (fun heq => hseparator (beq_of_eq heq)), hsplit, List.modifyHead_cons,
        List.intercalate_cons_cons_left]
      rfl

/-- A text with some blanks behind each of its line breaks. -/
def indented (indent text : String) : String :=
  String.ofList (text.toList.flatMap fun c => if c = '\n' then '\n' :: indent.toList else [c])

/-- The lines of a text, put together with blanks between them. -/
theorem intercalate_pieces (indent text : String) :
    ("\n" ++ indent).intercalate (pieces '\n' text) = indented indent text := by
  have hpieces : (pieces '\n' text).map String.toList = text.toList.splitOn '\n' := by
    rw [pieces, List.map_map]
    exact List.map_id'' (fun _ => String.toList_ofList) _
  rw [← String.toList_inj, String.toList_intercalate, hpieces, intercalate_splitOn_eq_flatMap, indented,
    String.toList_ofList, String.toList_append]
  rfl

/-- The report of a failure and its cause. -/
theorem text_pair (headline failure cause : String) :
    text headline [failure, cause] =
      "Error: " ++ headline ++ "\n\nCaused by:\n" ++
        "    0: " ++ indented "       " failure ++ "\n" ++
        "    1: " ++ indented "       " cause ++ "\n" := by
  have hcause (label text : String) :
      Report.cause label "       " text = label ++ indented "       " text ++ "\n" := by
    rw [Report.cause, intercalate_pieces]
  have hfirst : padLeft 5 (toString 0) ++ ": " = "    0: " := by decide
  have hsecond : padLeft 5 (toString 1) ++ ": " = "    1: " := by decide
  have htitle : "\n\nCaused by:\n" = "\n" ++ "\nCaused by:\n" := by decide
  rw [htitle, ← hfirst, ← hsecond]
  simp only [Report.text, causes, hcause, List.isEmpty_cons, Bool.false_eq_true, if_false, List.zipIdx_cons,
    List.zipIdx_nil, List.map_cons, List.map_nil, String.join_cons, String.join_nil, String.append_assoc,
    Nat.zero_add, String.append_empty]

end Report

end LinePatch
