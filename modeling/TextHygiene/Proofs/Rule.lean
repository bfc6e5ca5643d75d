import Mathlib.Data.List.Nodup
import Mathlib.Data.List.Pairwise
import TextHygiene.Rule

/-!
# The spellings of a rule

A rule goes by its code and by its name, in any ASCII letter case.  No two rules share a spelling,
so that a key stands for at most one rule.
-/

namespace TextHygiene

namespace Rule

/-- A key is the code or the name of a rule, in any ASCII letter case. -/
def goesBy (rule : Rule) (key : Text) : Bool :=
  Text.sameLetters rule.code key || Text.sameLetters rule.name key

/-- The code and the name of a rule in small letters. -/
def spellings (rule : Rule) : List Text :=
  [rule.code.map Char.toLower, rule.name.map Char.toLower]

theorem goesBy_iff {rule : Rule} {key : Text} :
    rule.goesBy key = true ↔ key.map Char.toLower ∈ rule.spellings := by
  simp only [goesBy, spellings, Text.sameLetters, Bool.or_eq_true, beq_iff_eq, List.mem_cons,
    List.not_mem_nil, or_false]
  exact or_congr eq_comm eq_comm

/-- No two rules share a spelling. -/
theorem nodup_spellings : (all.flatMap spellings).Nodup := by
  decide +kernel

/-- A key goes by one rule at most. -/
theorem goesBy_unique {a b : Rule} {key : Text} (ha : a.goesBy key = true)
    (hb : b.goesBy key = true) : a = b := by
  -- the spellings of different rules have nothing in common
  have hdisjoint := (List.nodup_flatMap.1 nodup_spellings).2
  have : Std.Symm (Function.onFun List.Disjoint spellings) :=
    ⟨fun _ _ h _ ha hb => h hb ha⟩
  by_contra hne
  exact hdisjoint.forall (mem_all a) (mem_all b) hne (goesBy_iff.1 ha) (goesBy_iff.1 hb)

/-- The rule that is found for a key is the one that goes by it. -/
theorem ofKey?_eq_some_iff {rule : Rule} {key : Text} :
    ofKey? key = some rule ↔ rule.goesBy key = true := by
  have hfound : ∀ {found}, ofKey? key = some found → found.goesBy key = true := by
    intro found h
    simpa only [goesBy] using List.find?_some h
  refine ⟨hfound, fun h => ?_⟩
  cases hkey : ofKey? key with
  | none => exact absurd h (List.find?_eq_none.1 hkey rule (mem_all rule))
  | some found => rw [goesBy_unique (hfound hkey) h]

end Rule

end TextHygiene
