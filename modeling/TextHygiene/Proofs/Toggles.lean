import TextHygiene.Proofs.Entries

/-!
# Which line turns a rule off

A rule can be turned on and off under two spellings, and under each of them several times.  What
counts is not the last line that toggles the rule: options are laid over one another in the order in
which their keys first came up, so the spelling that came up last decides, with the value of its own
last line.  The two agree exactly if both lines turn the rule off or neither does.
-/

namespace TextHygiene

namespace Ini

open Settings

/-! ## Toggles -/

/-- The options of a section that toggle a rule, from top to bottom. -/
def togglesIn (content name : Text) (rule : Rule) : List (Text × Text) :=
  (assignmentsIn name (assignments content)).filter fun option => rule.goesBy option.1

/-- The options that toggle a rule for an extension: those of the section of that name, or else
those of the section `default`. -/
def togglesFor (content extension : Text) (rule : Rule) : List (Text × Text) :=
  if togglesIn content extension rule = [] then togglesIn content defaultSection rule
  else togglesIn content extension rule

/-- The last toggle turns the rule off. -/
def LastTurnsOff (toggles : List (Text × Text)) : Prop :=
  ∃ last, toggles.getLast? = some last ∧ toggle? last.2 = some false

/-- The last toggle under the spelling that came up last turns the rule off. -/
def DecidingTurnsOff (toggles : List (Text × Text)) : Prop :=
  ∃ deciding, Dict.DecidedBy toggles deciding ∧ toggle? deciding.2 = some false

theorem not_decidingTurnsOff_nil : ¬ DecidingTurnsOff [] := by
  rintro ⟨deciding, hdeciding, _⟩
  exact List.not_mem_nil hdeciding.mem

/-! ## One section -/

theorem applySection_eq (sections : Sections) (settings : Settings) (name : Text) :
    applySection sections settings name =
      applyOptions name settings (optionsOf sections name).entries := by
  cases h : sections.get? name with
  | none => simp [applySection, optionsOf, h, Dict.empty, applyOptions]
  | some options => simp [applySection, optionsOf, h]

/-- A section turns a rule off by its deciding toggle, and leaves it as it was if it has none. -/
theorem disabled_of_applySection {content name : Text} {sections : Sections}
    {settings final : Settings} (hread : read content = .ok sections)
    (h : applySection sections settings name = .ok final) (rule : Rule) :
    final.disabled rule = true ↔
      if togglesIn content name rule = [] then settings.disabled rule = true
      else DecidingTurnsOff (togglesIn content name rule) := by
  rw [applySection_eq] at h
  rw [disabled_of_applyOptions h, optionsOf_read hread, Dict.filter_entries_ofList]
  change ((Dict.ofList (togglesIn content name rule)).entries.getLast?.map _).getD _ = true ↔ _
  cases hlast : (Dict.ofList (togglesIn content name rule)).entries.getLast? with
  | none =>
      -- without an entry there was no toggle
      have hkeys : (Dict.ofList (togglesIn content name rule)).keys = [] := by
        rw [Dict.keys, List.getLast?_eq_none_iff.1 hlast, List.map_nil]
      have hnil : togglesIn content name rule = [] := by
        rw [List.eq_nil_iff_forall_not_mem]
        intro option hoption
        have hmem := Dict.mem_keys_ofList.2 (List.mem_map_of_mem hoption)
        rw [hkeys] at hmem
        exact List.not_mem_nil hmem
      rw [if_pos hnil, Option.map_none, Option.getD_none]
  | some last =>
      -- the entry that is laid on last is made by the deciding toggle
      have hdecided := Dict.getLast?_entries_ofList.1 hlast
      rw [if_neg (List.ne_nil_of_mem hdecided.mem), Option.map_some, Option.getD_some, beq_iff_eq]
      constructor
      · exact fun hoff => ⟨last, hdecided, hoff⟩
      · rintro ⟨deciding, hdeciding, hoff⟩
        rwa [hdecided.unique hdeciding]

/-! ## Both sections -/

/-- The deciding toggle of the section that counts decides whether a rule is off. -/
theorem disabled_iff_decidingTurnsOff {content extension : Text} {sections : Sections}
    {settings : Settings} (hread : read content = .ok sections)
    (h : resolve sections extension = .ok settings) (rule : Rule) :
    settings.disabled rule = true ↔ DecidingTurnsOff (togglesFor content extension rule) := by
  rcases bind_eq_ok_iff.1 h with ⟨base, hbase, h⟩
  have hdefault : base.disabled rule = true ↔
      DecidingTurnsOff (togglesIn content defaultSection rule) := by
    rw [disabled_of_applySection hread hbase]
    split_ifs with hnil
    · rw [hnil]
      exact iff_of_false Bool.false_ne_true not_decidingTurnsOff_nil
    · exact Iff.rfl
  by_cases hext : extension = defaultSection
  · -- the section `default` is not laid on twice
    rw [if_pos hext] at h
    cases h
    subst hext
    rw [hdefault, togglesFor, ite_self]
  · rw [if_neg hext] at h
    rw [disabled_of_applySection hread h, togglesFor]
    split_ifs
    · exact hdefault
    · exact Iff.rfl

/-- Where there are toggles, one of them decides. -/
theorem exists_decidedBy {toggles : List (Text × Text)} {last : Text × Text}
    (hlast : toggles.getLast? = some last) : ∃ deciding, Dict.DecidedBy toggles deciding := by
  cases h : (Dict.ofList toggles).entries.getLast? with
  | none =>
      have hkey : last.1 ∈ (Dict.ofList toggles).keys :=
        Dict.mem_keys_ofList.2 (List.mem_map_of_mem (List.mem_of_getLast? hlast))
      simp [Dict.keys, List.getLast?_eq_none_iff.1 h] at hkey
  | some deciding => exact ⟨deciding, Dict.getLast?_entries_ofList.1 h⟩

/-- What decides and what stands last agree exactly if both lines turn the rule off or neither
does. -/
theorem decidingTurnsOff_iff_lastTurnsOff {toggles : List (Text × Text)} :
    (DecidingTurnsOff toggles ↔ LastTurnsOff toggles) ↔
      ∀ deciding last, Dict.DecidedBy toggles deciding → toggles.getLast? = some last →
        (toggle? deciding.2 = some false ↔ toggle? last.2 = some false) := by
  constructor
  · -- both sides are about single lines, since only one line decides and only one is the last
    intro h deciding last hdeciding hlast
    have hoff : DecidingTurnsOff toggles ↔ toggle? deciding.2 = some false := by
      refine ⟨?_, fun hoff => ⟨deciding, hdeciding, hoff⟩⟩
      rintro ⟨other, hother, hoff⟩
      rwa [hdeciding.unique hother]
    have hoff' : LastTurnsOff toggles ↔ toggle? last.2 = some false := by
      simp [LastTurnsOff, hlast]
    rw [← hoff, ← hoff', h]
  · intro h
    constructor
    · rintro ⟨deciding, hdeciding, hoff⟩
      cases hlast : toggles.getLast? with
      | none =>
          rw [List.getLast?_eq_none_iff.1 hlast] at hdeciding
          exact absurd hdeciding.mem List.not_mem_nil
      | some last => exact ⟨last, hlast, (h deciding last hdeciding hlast).1 hoff⟩
    · rintro ⟨last, hlast, hoff⟩
      rcases exists_decidedBy hlast with ⟨deciding, hdeciding⟩
      exact ⟨deciding, hdeciding, (h deciding last hdeciding hlast).2 hoff⟩

/-- A rule is turned off exactly if the toggle that decides turns it off.  Hence the last toggle has
its way exactly if it and the deciding one both turn the rule off or both do not. -/
theorem disabled_exact {content extension : Text} {sections : Sections} {settings : Settings}
    (hread : read content = .ok sections) (h : resolve sections extension = .ok settings)
    (rule : Rule) :
    (settings.disabled rule = true ↔ DecidingTurnsOff (togglesFor content extension rule)) ∧
      ((settings.disabled rule = true ↔ LastTurnsOff (togglesFor content extension rule)) ↔
        ∀ deciding last, Dict.DecidedBy (togglesFor content extension rule) deciding →
          (togglesFor content extension rule).getLast? = some last →
          (toggle? deciding.2 = some false ↔ toggle? last.2 = some false)) := by
  have hdisabled := disabled_iff_decidingTurnsOff hread h rule
  refine ⟨hdisabled, ?_⟩
  rw [hdisabled]
  exact decidingTurnsOff_iff_lastTurnsOff

/-! ## A repeated toggle -/

/-- A rule turned off by its code, on by its name and off by its code again. -/
def repeated : Text :=
  "[py]\nCD0401 = off\nLineTooLong = on\nCD0401 = off\n".toList

/-- Whether a file turns the rule of `repeated` off for the extension of `repeated`. -/
def turnsOff (content : Text) : Option Bool :=
  ((read content).toOption.bind fun sections =>
    (resolve sections "py".toList).toOption).map (·.disabled .lineTooLong)

theorem exists_of_turnsOff {content : Text} {off : Bool} (h : turnsOff content = some off) :
    ∃ sections settings, read content = .ok sections ∧
      resolve sections "py".toList = .ok settings ∧
      settings.disabled .lineTooLong = off := by
  rcases Option.map_eq_some_iff.1 h with ⟨settings, h, hoff⟩
  rcases Option.bind_eq_some_iff.1 h with ⟨sections, hread, hresolve⟩
  exact ⟨sections, settings, toOption_eq_some_iff.1 hread, toOption_eq_some_iff.1 hresolve, hoff⟩

/-- A rule turned off for all extensions, beside a section that does not toggle it. -/
def inherited : Text :=
  "[py]\nx =\n[default]\nCD0401 = off\n".toList

/-- A rule that is turned off for all extensions is off for one that does not toggle it. -/
theorem disabled_exact_inherited :
    ∃ sections settings, read inherited = .ok sections ∧
      resolve sections "py".toList = .ok settings ∧
      settings.disabled .lineTooLong = true ∧
      DecidingTurnsOff (togglesFor inherited "py".toList .lineTooLong) ∧
      LastTurnsOff (togglesFor inherited "py".toList .lineTooLong) := by
  have hoff : turnsOff inherited = some true := by decide +kernel
  rcases exists_of_turnsOff hoff with ⟨sections, settings, hread, h, hdisabled⟩
  rcases disabled_exact hread h .lineTooLong with ⟨hdeciding, _⟩
  refine ⟨sections, settings, hread, h, hdisabled, hdeciding.1 hdisabled, ?_⟩
  exact ⟨("cd0401".toList, "off".toList), by decide +kernel, by decide +kernel⟩

/-- The last line turns the rule off, but the rule stays on. -/
theorem last_toggle_overruled :
    ∃ sections settings, read repeated = .ok sections ∧
      resolve sections "py".toList = .ok settings ∧
      ¬ (settings.disabled .lineTooLong = true ↔
        LastTurnsOff (togglesFor repeated "py".toList .lineTooLong)) := by
  have hoff : turnsOff repeated = some false := by decide +kernel
  rcases exists_of_turnsOff hoff with ⟨sections, settings, hread, h, hdisabled⟩
  refine ⟨sections, settings, hread, h, ?_⟩
  -- `LineTooLong = on` decides, because that spelling came up last
  have hlast : LastTurnsOff (togglesFor repeated "py".toList .lineTooLong) :=
    ⟨("cd0401".toList, "off".toList), by decide +kernel, by decide +kernel⟩
  rw [hdisabled]
  exact fun hiff => Bool.false_ne_true (hiff.2 hlast)

end Ini

end TextHygiene
