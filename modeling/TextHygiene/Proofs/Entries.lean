import TextHygiene.Proofs.Agreement
import TextHygiene.Proofs.Assignments

/-!
# What entries do to settings

An entry is an option together with the section that it stands in.  Laying an entry over settings
fails if its value means nothing for its key, and otherwise puts what the value stands for under the
key.  So after many entries each key holds what the last entry with that key says.
-/

namespace TextHygiene

namespace Settings

open Ini

variable {text value : Text} {key : Key} {settings next final : Settings} {a : Assignment}
  {entries : List Assignment}

/-! ## What a key stands for -/

def Key.names : Key → Text → Bool
  | .indentSize => (· == "indent_size".toList)
  | .maxLineLength => (· == "max_line_length".toList)
  | .headerLength => (· == "section_header_length".toList)
  | .maxBlankLines => (· == "max_blank_lines".toList)
  | .lineComment => (· == "line_comment".toList)
  | .toggle rule => rule.goesBy

def Key.isSize : Key → Bool
  | .lineComment => false
  | .toggle _ => false
  | _ => true

theorem Key.names_of_mem_plainKeys :
    ∀ text ∈ plainKeys, ∀ key ∈ [Key.indentSize, .maxLineLength, .headerLength, .maxBlankLines,
      .lineComment], (Key.of? text = some key ↔ key.names text = true) := by
  decide

/-- A text means a key exactly if it goes by it. -/
theorem Key.of?_eq_some_iff : Key.of? text = some key ↔ key.names text = true := by
  cases key with
  | toggle rule => exact Key.of?_eq_toggle_iff
  | _ =>
      by_cases htext : text ∈ plainKeys
      · exact Key.names_of_mem_plainKeys text htext _ (by decide)
      · -- the text is no spelling of the key, and means at most a rule
        refine iff_of_false ?_ ?_
        · rw [Key.of?_of_not_mem_plainKeys htext, Option.map_eq_some_iff]
          rintro ⟨rule, _, hrule⟩
          cases hrule
        · intro hnames
          rw [names, beq_iff_eq] at hnames
          subst hnames
          exact htext (by decide)

/-! ## One entry -/

def applyEntry (settings : Settings) (a : Assignment) : Except OptionError Settings :=
  applyOption a.sectionName settings a.pair

def Key.fault (key : Key) (a : Assignment) : OptionError :=
  if key.isSize then .badSize a.sectionName a.key a.value
  else .badToggle a.sectionName a.key a.value

theorem Key.content?_of_isSize (h : key.isSize = true) :
    key.content? value = (size? value).map fun n => .size n.val := by
  cases key with
  | lineComment => cases h
  | toggle rule => cases h
  | _ => rfl

/-- An entry whose value means nothing for its key fails, whatever it is laid over. -/
theorem applyEntry_of_content?_eq_none (settings : Settings) (hkey : Key.of? a.key = some key)
    (hvalue : key.content? a.value = none) : applyEntry settings a = .error (key.fault a) := by
  cases key with
  | lineComment => cases hvalue
  | toggle rule =>
      have htoggle : toggle? a.value = none := Option.map_eq_none_iff.1 hvalue
      simp only [applyEntry, Assignment.pair, applyOption, hkey, htoggle]
      rfl
  | _ =>
      -- the four sizes
      have hsize : size? a.value = none := Option.map_eq_none_iff.1 hvalue
      simp only [applyEntry, Assignment.pair, applyOption, hkey, hsize]
      rfl

/-- An entry that passes puts what its value stands for under its key and leaves the rest as it
was. -/
theorem content_of_applyEntry (h : applyEntry settings a = .ok next) (key : Key) :
    some (next.content key) =
      if key.names a.key = true then key.content? a.value else some (settings.content key) := by
  have hnames : key.names a.key = true ↔ Key.of? a.key = some key := Key.of?_eq_some_iff.symm
  -- the entry changes what stands under its own key, and no key has two meanings
  cases hown : Key.of? a.key with
  | none =>
      have hsame : applyEntry settings a = .ok settings := by
        simp only [applyEntry, Assignment.pair, applyOption, hown]
      have hother : ¬ key.names a.key = true := by
        rw [hnames, hown]
        intro hsome
        cases hsome
      cases hsame.symm.trans h
      rw [if_neg hother]
  | some own =>
      cases hvalue : own.content? a.value with
      | none =>
          rw [applyEntry_of_content?_eq_none settings hown hvalue] at h
          cases h
      | some content =>
          rcases applyOption_content a.sectionName settings hown hvalue with
            ⟨found, hfound, hcontent⟩
          cases hfound.symm.trans h
          rw [hcontent]
          by_cases hkey : key = own
          · subst hkey
            rw [if_pos rfl, if_pos (hnames.2 hown), hvalue]
          · have hother : ¬ key.names a.key = true := by
              rw [hnames, hown]
              exact fun hsome => hkey (Option.some.inj hsome).symm
            rw [if_neg hkey, if_neg hother]

/-! ## Many entries -/

/-- The value of the last entry whose key is of some kind. -/
def lastValue? (ofKind : Text → Bool) (entries : List Assignment) : Option Text :=
  ((entries.filter fun a => ofKind a.key).getLast?).map (·.value)

/-- The last entry counts if it has a key of the kind. -/
theorem lastValue?_concat (ofKind : Text → Bool) (entries : List Assignment) (a : Assignment) :
    lastValue? ofKind (entries ++ [a]) =
      if ofKind a.key = true then some a.value else lastValue? ofKind entries := by
  by_cases h : ofKind a.key = true
  · have hlast : [a].filter (fun a => ofKind a.key) = [a] := List.filter_cons_of_pos h
    rw [if_pos h, lastValue?, List.filter_append, hlast, List.getLast?_concat, Option.map_some]
  · have hnone : [a].filter (fun a => ofKind a.key) = [] := List.filter_cons_of_neg h
    rw [if_neg h, lastValue?, List.filter_append, hnone, List.append_nil, lastValue?]

/-- After all entries are laid on, the last one with a key decides what stands under it; without one
it is what stood there before. -/
theorem content_of_foldlM (h : entries.foldlM applyEntry settings = .ok final) (key : Key) :
    some (final.content key) =
      (lastValue? key.names entries).elim (some (settings.content key)) (key.content? ·) := by
  -- from the end, since it is the last entry with the key that counts
  induction entries using List.reverseRecOn generalizing final with
  | nil =>
      cases h
      rfl
  | append_singleton entries a ih =>
      rw [List.foldlM_append] at h
      rcases bind_eq_ok_iff.1 h with ⟨middle, hmiddle, hlast⟩
      rcases bind_eq_ok_iff.1 hlast with ⟨_, hstep, hdone⟩
      cases hdone
      rw [content_of_applyEntry hstep, lastValue?_concat, ih hmiddle]
      split_ifs
      · rfl
      · rfl

/-- Laying the options of a section over settings is laying them over as entries, one after the
other. -/
theorem applyOptions_eq_foldlM (name : Text) (settings : Settings) (options : List (Text × Text)) :
    applyOptions name settings options =
      (options.map fun (key, value) => (⟨name, key, value⟩ : Assignment)).foldlM applyEntry
        settings := by
  induction options generalizing settings with
  | nil => rfl
  | cons option rest ih =>
      rw [applyOptions, List.map_cons, List.foldlM_cons]
      have hfirst : applyEntry settings ⟨name, option.1, option.2⟩ =
          applyOption name settings option := rfl
      rw [hfirst]
      cases applyOption name settings option with
      | error error => rfl
      | ok next => exact ih next

/-! ## One rule -/

/-- A rule is off if the last toggle turns it off, and as it was if there is none. -/
theorem off_of_content {value? : Option Text} {off before : Bool} {rule : Rule}
    (h : some (Content.toggle off) =
      value?.elim (some (.toggle before)) fun value => (Key.toggle rule).content? value) :
    off = (value?.map fun value => toggle? value == some false).getD before := by
  cases value? with
  | none => exact Content.toggle.inj (Option.some.inj h)
  | some value =>
      rcases Option.map_eq_some_iff.1 h.symm with ⟨on, hon, htoggle⟩
      cases htoggle
      rw [Option.map_some, Option.getD_some, hon]
      cases on with
      | true => rfl
      | false => rfl

/-- The last option that goes by a spelling of a rule decides whether the rule is turned off. -/
theorem disabled_of_applyOptions {name : Text} {options : List (Text × Text)}
    (h : applyOptions name settings options = .ok final) (rule : Rule) :
    final.disabled rule =
      (((options.filter fun option => rule.goesBy option.1).getLast?).map
        fun last => toggle? last.2 == some false).getD (settings.disabled rule) := by
  rw [applyOptions_eq_foldlM] at h
  have hoff := off_of_content (content_of_foldlM h (.toggle rule))
  rw [hoff, Key.names, lastValue?, List.filter_map, List.getLast?_map]
  simp only [Option.map_map]
  rfl

end Settings

end TextHygiene
