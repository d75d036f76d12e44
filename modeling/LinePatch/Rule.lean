import LinePatch.Bytes
import LinePatch.Substitution

/-!
# Rules

A rule is a substitution written as two texts. It is applied to the bytes of one line at a time, so
lines that are not valid UTF-8 pass through it like all others.

## Main definitions

* `Rule`: a text that is not empty, and the text that takes its place
* `Rule.ofTexts`: the rule of two texts, refused when the first is empty
* `Rule.assertReturn`: the rule that makes a failed assertion return
* `Rule.apply`: a rule applied to a line
-/

namespace LinePatch

/-- A text that is not empty, and the text that takes its place in each line. -/
structure Rule where
  /-- The text that is looked for. -/
  pattern : String
  /-- The text that takes its place. -/
  replacement : String
  /-- The empty text occurs everywhere, so it cannot be replaced. -/
  pattern_ne_empty : pattern ≠ ""
deriving DecidableEq

/-- Why two texts make no rule. -/
inductive RuleError where
  | emptyPattern
deriving DecidableEq

/-- The wording of a refusal. -/
def RuleError.message : RuleError → String
  | .emptyPattern => "substitution pattern must not be empty"

namespace Rule

/-- The rule that replaces `pattern` by `replacement`. -/
def ofTexts (pattern replacement : String) : Except RuleError Rule :=
  if h : pattern = "" then .error .emptyPattern else .ok ⟨pattern, replacement, h⟩

/-- The rule of the build: a failed assertion is followed by a return, as a function with a result
needs one. -/
def assertReturn : Rule where
  pattern := "assert(false);"
  replacement := "assert(false);return \"\";"
  pattern_ne_empty := by decide

/-- The substitution of a rule in byte strings. -/
def onBytes (rule : Rule) : Substitution UInt8 where
  pattern := utf8 rule.pattern
  replacement := utf8 rule.replacement
  pattern_ne_nil := fun h => rule.pattern_ne_empty (utf8_eq_nil_iff.1 h)

/-- Applies a rule to one line. -/
def apply (rule : Rule) (line : Bytes) : Patched UInt8 :=
  rule.onBytes.apply line

end Rule

end LinePatch
