import TextHygiene.Proofs.Dict
import TextHygiene.Proofs.Rule
import TextHygiene.Proofs.Stages
import TextHygiene.Settings.Resolve

/-!
# Settings from options

A key is one of five plain ones, or it turns the rule on and off that goes by it, or it means
nothing.  Resolving several extensions at once gives each of them the settings that resolving it
alone gives.
-/

namespace TextHygiene

namespace Settings

/-! ## Keys -/

def plainKeys : List Text :=
  ["indent_size".toList, "max_line_length".toList, "section_header_length".toList,
    "max_blank_lines".toList, "line_comment".toList]

/-- No rule goes by a plain key. -/
theorem not_goesBy_of_mem_plainKeys :
    ∀ key ∈ plainKeys, ∀ rule ∈ Rule.all, rule.goesBy key = false := by
  decide +kernel

/-- The keys with another meaning are told apart before the spellings of rules. -/
theorem Key.of?_of_not_mem_plainKeys {key : Text} (h : key ∉ plainKeys) :
    Key.of? key = (Rule.ofKey? key).map .toggle := by
  simp only [plainKeys, List.mem_cons, List.not_mem_nil, or_false, not_or] at h
  simp only [Key.of?, h, if_false]

/-- A key toggles the rule that goes by it. -/
theorem Key.of?_eq_toggle_iff {rule : Rule} {key : Text} :
    Key.of? key = some (.toggle rule) ↔ rule.goesBy key = true := by
  by_cases hkey : key ∈ plainKeys
  · -- a plain key comes before any rule, but no rule goes by it
    have hnot : rule.goesBy key = false :=
      not_goesBy_of_mem_plainKeys key hkey rule (Rule.mem_all rule)
    rw [hnot]
    simp only [plainKeys, List.mem_cons, List.not_mem_nil, or_false] at hkey
    rcases hkey with rfl | rfl | rfl | rfl | rfl
    · simp [Key.of?]
    · simp [Key.of?]
    · simp [Key.of?]
    · simp [Key.of?]
    · simp [Key.of?]
  · rw [Key.of?_of_not_mem_plainKeys hkey, ← Rule.ofKey?_eq_some_iff]
    cases Rule.ofKey? key with
    | none => simp
    | some found => simp

/-! ## Laying options over settings -/

/-- Turning a rule on or off leaves the other rules alone. -/
theorem setRule_disabled (settings : Settings) (changed : Rule) (on : Bool) (rule : Rule) :
    (settings.setRule changed on).disabled rule =
      if changed = rule then !on else settings.disabled rule := by
  by_cases h : changed = rule
  · subst h
    cases on with
    | true => simp [setRule, RuleSet.erase]
    | false => simp [setRule, RuleSet.insert]
  · have hne : rule ≠ changed := fun e => h e.symm
    cases on with
    | true => simp [setRule, RuleSet.erase, h, hne]
    | false => simp [setRule, RuleSet.insert, h, hne]

/-! ## Many extensions -/

/-- Extensions that are resolved at once are resolved one by one, in their order. -/
theorem pairs_of_mapM_resolve {sections : Sections} {extensions : List Text}
    {pairs : List (Text × Settings)}
    (h : (extensions.mapM fun e => (resolve sections e).map fun settings => (e, settings)) =
      .ok pairs) :
    pairs.map (·.1) = extensions ∧ ∀ pair ∈ pairs, resolve sections pair.1 = .ok pair.2 := by
  have hall := mapM_eq_ok_iff.1 h
  clear h
  induction hall with
  | nil => simp
  | cons hfirst _ ih =>
      rcases map_eq_ok_iff.1 hfirst with ⟨settings, hsettings, rfl⟩
      refine ⟨?_, List.forall_mem_cons.2 ⟨hsettings, ih.2⟩⟩
      rw [List.map_cons, ih.1]

/-- If all extensions can be resolved, each of them has its own settings. -/
theorem get?_of_resolveAll {sections : Sections} {extensions : List Text} {resolved : Dict Settings}
    (h : resolveAll sections extensions = .ok resolved) {e : Text} (he : e ∈ extensions) :
    ∃ settings, resolve sections e = .ok settings ∧ resolved.get? e = some settings := by
  rcases map_eq_ok_iff.1 h with ⟨pairs, hpairs, rfl⟩
  rcases pairs_of_mapM_resolve hpairs with ⟨hkeys, hvalues⟩
  rcases Dict.exists_get?_ofList (hkeys ▸ he) with ⟨settings, hmem, hget⟩
  exact ⟨settings, hvalues _ hmem, hget⟩

end Settings

end TextHygiene
