import LinePatch.PatchError
import LinePatch.Text

/-!
# Error reports

A report has a headline and a list of causes, each of which was brought about by the next. More than
one cause are numbered from zero, and the further lines of a cause are indented as its first.

## Main definitions

* `Report.text`: the report of a headline and its causes
* `PatchError.causes`: the causes in a failed patch
-/

namespace LinePatch

namespace Report

/-- A cause behind its label. -/
def cause (label indent text : String) : String :=
  label ++ ("\n" ++ indent).intercalate (pieces '\n' text) ++ "\n"

/-- The causes, numbered if there are several. -/
def causes : List String → String
  | [] => ""
  | [text] => cause "    " "    " text
  | texts =>
    String.join <| texts.zipIdx.map fun (text, number) =>
      cause (padLeft 5 (toString number) ++ ": ") "       " text

/-- A report. -/
def text (headline : String) (causeTexts : List String) : String :=
  "Error: " ++ headline ++ "\n" ++
    if causeTexts.isEmpty then "" else "\nCaused by:\n" ++ causes causeTexts

end Report

/-- The causes in a failed patch: the failure, and the error of the device. -/
def PatchError.causes (error : PatchError) : List String :=
  [error.message, error.cause.text]

end LinePatch
