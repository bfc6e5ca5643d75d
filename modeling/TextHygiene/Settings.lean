import TextHygiene.Rule

/-!
# Settings

The limits that the rules measure against, the marker that starts a line comment, and the rules
that are turned off.
-/

namespace TextHygiene

/-- A set of rules. -/
abbrev RuleSet := Rule → Bool

namespace RuleSet

def empty : RuleSet :=
  fun _ => false

def insert (rules : RuleSet) (rule : Rule) : RuleSet :=
  fun r => r == rule || rules r

def erase (rules : RuleSet) (rule : Rule) : RuleSet :=
  fun r => r != rule && rules r

def ofList (rules : List Rule) : RuleSet :=
  fun r => rules.contains r

def toList (rules : RuleSet) : List Rule :=
  Rule.all.filter rules

@[simp] theorem mem_toList {rules : RuleSet} {rule : Rule} :
    rule ∈ rules.toList ↔ rules rule = true := by
  simp [toList, Rule.mem_all]

end RuleSet

/-- What the rules are measured against.  The four sizes are 64-bit numbers; those that options set
are never zero. -/
structure Settings where
  /-- The spaces of one indentation level. -/
  indentSize : UInt64 := 4
  /-- The longest line allowed, in characters. -/
  maxLineLength : UInt64 := 120
  /-- The exact length of a section header. -/
  headerLength : UInt64 := 100
  /-- The blank lines allowed in a row. -/
  maxBlankLines : UInt64 := 1
  /-- The text that starts a line comment.  Without one the comment rules are silent. -/
  lineComment : Option Text := none
  /-- The rules that are turned off. -/
  disabled : RuleSet := RuleSet.empty

namespace Settings

/-- The rule is not turned off. -/
def enables (settings : Settings) (rule : Rule) : Bool :=
  !settings.disabled rule

/-- No size is zero. -/
structure Positive (settings : Settings) : Prop where
  indentSize : 0 < settings.indentSize
  maxLineLength : 0 < settings.maxLineLength
  headerLength : 0 < settings.headerLength
  maxBlankLines : 0 < settings.maxBlankLines

end Settings

end TextHygiene
