import TextHygiene.Proofs.SettingsWritten

/-!
# Settings as layers of options

The settings for an extension are the built-in ones with two layers of options over them: those of
the section `default` and those of the section of the extension.  Option by option the last entry of
both layers counts.  An entry whose value cannot be used is a fault wherever it stands, whatever
other entries say, and the first such entry decides the error.
-/

namespace TextHygiene

namespace Settings

open Ini

/-! ## Keys and values -/

def sizeKeys : List Text :=
  ["indent_size".toList, "max_line_length".toList, "section_header_length".toList,
    "max_blank_lines".toList]

def isKnown (key : Text) : Bool :=
  plainKeys.contains key || Rule.all.any fun rule => rule.goesBy key

/-- A value spells out a size: in one or more digits, behind a plus sign or not. -/
def SpellsSize (value : Text) (n : UInt64) : Prop :=
  0 < n ∧ Text.Denotes value n.toNat

/-- The words that turn a rule on, or those that turn it off. -/
def wordsFor (on : Bool) : List Text :=
  if on then enablingWords else disablingWords

/-- A value turns a rule on or off: it is one of the words for this, in any ASCII letter case. -/
def Switches (on : Bool) (value : Text) : Prop :=
  ∃ word ∈ wordsFor on, Text.sameLetters word value = true

/-- What is wrong with an entry. -/
inductive OptionFault (a : Assignment) : OptionError → Prop
  | size : a.key ∈ sizeKeys → (∀ n, ¬ SpellsSize a.value n) →
      OptionFault a (.badSize a.sectionName a.key a.value)
  | toggle {rule : Rule} : rule.goesBy a.key = true → (∀ on, ¬ Switches on a.value) →
      OptionFault a (.badToggle a.sectionName a.key a.value)

/-- What a message says between the key and the value of an entry. -/
def complaint (key : Text) : Text :=
  if key ∈ sizeKeys then " must be a positive integer, got '".toList
  else " must be 'enable' or 'disable', got '".toList

/-! ## Entries -/

/-- The entries of a section in order, or none if there is no such section. -/
def entriesOf (sections : Sections) (name : Text) : List Assignment :=
  (optionsOf sections name).entries.map fun (key, value) => ⟨name, key, value⟩

/-- The entries that are laid over the built-in settings for an extension. -/
def laidOn (sections : Sections) (extension : Text) : List Assignment :=
  entriesOf sections defaultSection ++
    if extension = defaultSection then [] else entriesOf sections extension

def knownOptions (sections : Sections) (name : Text) : List (Text × Text) :=
  (optionsOf sections name).entries.filter fun option => isKnown option.1

/-- A size is the one that a value spells out, or the built-in one if there is no value. -/
def SizeFrom (value? : Option Text) (builtIn n : UInt64) : Prop :=
  match value? with
  | some value => SpellsSize value n
  | none => n = builtIn

/-- What the settings come to when entries are laid over the built-in ones. -/
structure LaidOver (entries : List Assignment) (settings : Settings) : Prop where
  indentSize : SizeFrom (lastValue? (· == "indent_size".toList) entries)
    ({} : Settings).indentSize settings.indentSize
  maxLineLength : SizeFrom (lastValue? (· == "max_line_length".toList) entries)
    ({} : Settings).maxLineLength settings.maxLineLength
  headerLength : SizeFrom (lastValue? (· == "section_header_length".toList) entries)
    ({} : Settings).headerLength settings.headerLength
  maxBlankLines : SizeFrom (lastValue? (· == "max_blank_lines".toList) entries)
    ({} : Settings).maxBlankLines settings.maxBlankLines
  lineComment : settings.lineComment =
    (lastValue? (· == "line_comment".toList) entries).filter fun value => !value.isEmpty
  disabled : ∀ rule, settings.disabled rule = true ↔
    ∃ value, lastValue? rule.goesBy entries = some value ∧ Switches false value

variable {text value : Text} {key : Key} {sections : Sections} {extension : Text}
  {settings next final : Settings} {a : Assignment} {entries : List Assignment}
  {error : OptionError}

/-! ## What a key stands for -/

/-- A key that is neither a plain one nor a spelling of a rule stands for nothing. -/
theorem of?_eq_none_of_not_isKnown (h : isKnown text = false) : Key.of? text = none := by
  rcases Bool.or_eq_false_iff.1 h with ⟨hplain, hrule⟩
  have hnot : text ∉ plainKeys := by
    intro hmem
    rw [List.contains_iff_mem.2 hmem] at hplain
    cases hplain
  have hnone : Rule.ofKey? text = none := by
    rw [Option.eq_none_iff_forall_ne_some]
    intro rule hfound
    have hby := List.any_eq_false.1 hrule rule (Rule.mem_all rule)
    exact hby (Rule.ofKey?_eq_some_iff.1 hfound)
  rw [Key.of?_of_not_mem_plainKeys hnot, hnone, Option.map_none]

/-- The keys for sizes are those whose meaning is a size. -/
theorem mem_sizeKeys_iff :
    text ∈ sizeKeys ↔ ∃ key, Key.of? text = some key ∧ key.isSize = true := by
  constructor
  · intro h
    simp only [sizeKeys, List.mem_cons, List.not_mem_nil, or_false] at h
    rcases h with rfl | rfl | rfl | rfl
    · exact ⟨.indentSize, by decide, rfl⟩
    · exact ⟨.maxLineLength, by decide, rfl⟩
    · exact ⟨.headerLength, by decide, rfl⟩
    · exact ⟨.maxBlankLines, by decide, rfl⟩
  · rintro ⟨key, hkey, hsize⟩
    -- a key of a size has one name, unlike those of rules
    have hnames := Key.of?_eq_some_iff.1 hkey
    cases key with
    | lineComment => cases hsize
    | toggle rule => cases hsize
    | _ =>
        rw [Key.names, beq_iff_eq] at hnames
        subst hnames
        decide

/-! ## What a value stands for -/

/-- A value is read as the size that it spells out. -/
theorem exists_size?_iff {n : UInt64} :
    (∃ hpos : 0 < n, size? value = some ⟨n, hpos⟩) ↔ SpellsSize value n := by
  simp only [size?, Option.bind_eq_some_iff, Text.word?_eq_some_iff]
  constructor
  · rintro ⟨hpos, m, hdenotes, hm⟩
    rw [Option.dite_none_right_eq_some] at hm
    rcases hm with ⟨_, hsame⟩
    cases hsame
    exact ⟨hpos, hdenotes⟩
  · rintro ⟨hpos, hdenotes⟩
    exact ⟨hpos, n, hdenotes, dif_pos hpos⟩

/-- A value is refused as a size exactly if it spells out none. -/
theorem size?_eq_none_iff : size? value = none ↔ ∀ n, ¬ SpellsSize value n := by
  rw [Option.eq_none_iff_forall_ne_some]
  constructor
  · intro hnone n hn
    rcases exists_size?_iff.2 hn with ⟨hpos, hsize⟩
    exact hnone ⟨n, hpos⟩ hsize
  · rintro hnone ⟨n, hpos⟩ hsize
    exact hnone n (exists_size?_iff.1 ⟨hpos, hsize⟩)

/-- The words that turn rules on and off are made of letters that come from ASCII letters only. -/
theorem wordsFor_asciiOnly {on : Bool} {word : Text} (h : word ∈ wordsFor on) :
    (∀ c ∈ word, c ∈ Text.asciiOnly) ∧ word.map Char.toLower = word := by
  have hall : ((wordsFor on).all fun word =>
      word.all Text.asciiOnly.contains && word.map Char.toLower == word) = true := by
    cases on with
    | true => decide
    | false => decide
  rcases Bool.and_eq_true_iff.1 (List.all_eq_true.1 hall word h) with ⟨hascii, hsmall⟩
  refine ⟨?_, beq_iff_eq.1 hsmall⟩
  intro c hc
  exact List.contains_iff_mem.1 (List.all_eq_true.1 hascii c hc)

theorem not_mem_wordsFor_false : ∀ word ∈ wordsFor true, word ∉ wordsFor false := by
  decide

/-- Putting a value into small letters makes one of the words exactly if it is one up to ASCII
letter case. -/
theorem lowercase_mem_wordsFor_iff {on : Bool} :
    Text.lowercase value ∈ wordsFor on ↔ Switches on value := by
  constructor
  · intro hmem
    rcases wordsFor_asciiOnly hmem with ⟨hascii, hsmall⟩
    have hletters : value.map Char.toLower = Text.lowercase value :=
      (Text.lowercase_eq_iff hascii).1 rfl
    refine ⟨Text.lowercase value, hmem, ?_⟩
    rw [Text.sameLetters, hsmall, hletters, beq_self_eq_true]
  · rintro ⟨word, hmem, hsame⟩
    rcases wordsFor_asciiOnly hmem with ⟨hascii, hsmall⟩
    rw [Text.sameLetters, hsmall, beq_iff_eq] at hsame
    rw [(Text.lowercase_eq_iff hascii).2 hsame.symm]
    exact hmem

/-- A value turns a rule on or off exactly if it is one of the words for this. -/
theorem toggle?_eq_some_iff {on : Bool} : toggle? value = some on ↔ Switches on value := by
  have htoggle : toggle? value =
      if Text.lowercase value ∈ wordsFor true then some true
      else if Text.lowercase value ∈ wordsFor false then some false
      else none := by
    simp only [toggle?, List.contains_iff_mem, wordsFor, if_true, Bool.false_eq_true, if_false]
  rw [htoggle, ← lowercase_mem_wordsFor_iff]
  by_cases hon : Text.lowercase value ∈ wordsFor true
  · -- no word is in both lists
    have hoff : Text.lowercase value ∉ wordsFor false := not_mem_wordsFor_false _ hon
    rw [if_pos hon]
    cases on with
    | true => exact iff_of_true rfl hon
    | false => exact iff_of_false (by decide) hoff
  · rw [if_neg hon]
    by_cases hoff : Text.lowercase value ∈ wordsFor false
    · rw [if_pos hoff]
      cases on with
      | true => exact iff_of_false (by decide) hon
      | false => exact iff_of_true rfl hoff
    · rw [if_neg hoff]
      cases on with
      | true => exact iff_of_false (by decide) hon
      | false => exact iff_of_false (by decide) hoff

/-! ## One entry -/

/-- An entry is at fault exactly if its key means something and its value means nothing for it. -/
theorem optionFault_iff :
    OptionFault a error ↔
      ∃ key, Key.of? a.key = some key ∧ key.content? a.value = none ∧ error = key.fault a := by
  constructor
  · intro h
    cases h with
    | size hmem hnone =>
        rcases mem_sizeKeys_iff.1 hmem with ⟨key, hkey, hsize⟩
        have hvalue : size? a.value = none := size?_eq_none_iff.2 hnone
        refine ⟨key, hkey, ?_, (if_pos hsize).symm⟩
        rw [Key.content?_of_isSize hsize, hvalue, Option.map_none]
    | toggle hby hnone =>
        have hvalue : toggle? a.value = none := by
          rw [Option.eq_none_iff_forall_ne_some]
          exact fun on hon => hnone on (toggle?_eq_some_iff.1 hon)
        refine ⟨.toggle _, Key.of?_eq_toggle_iff.2 hby, ?_, rfl⟩
        rw [Key.content?, hvalue, Option.map_none]
  · rintro ⟨key, hkey, hvalue, rfl⟩
    cases key with
    | lineComment => cases hvalue
    | toggle rule =>
        have htoggle : toggle? a.value = none := Option.map_eq_none_iff.1 hvalue
        refine OptionFault.toggle (Key.of?_eq_toggle_iff.1 hkey) fun on hon => ?_
        rw [toggle?_eq_some_iff.2 hon] at htoggle
        cases htoggle
    | _ =>
        -- the four sizes
        have hsize : size? a.value = none := Option.map_eq_none_iff.1 hvalue
        exact OptionFault.size (mem_sizeKeys_iff.2 ⟨_, hkey, rfl⟩) (size?_eq_none_iff.1 hsize)

/-- An entry fails exactly as it is at fault, whatever it is laid over. -/
theorem applyEntry_eq_error_iff : OptionFault a error ↔ applyEntry settings a = .error error := by
  rw [optionFault_iff]
  constructor
  · rintro ⟨key, hkey, hvalue, rfl⟩
    exact applyEntry_of_content?_eq_none settings hkey hvalue
  · intro h
    cases hkey : Key.of? a.key with
    | none =>
        -- a key that means nothing never fails
        simp only [applyEntry, Assignment.pair, applyOption, hkey] at h
        cases h
    | some key =>
        cases hvalue : key.content? a.value with
        | none =>
            cases (applyEntry_of_content?_eq_none settings hkey hvalue).symm.trans h
            exact ⟨key, rfl, hvalue, rfl⟩
        | some content =>
            rcases applyOption_content a.sectionName settings hkey hvalue with ⟨found, hfound, _⟩
            cases hfound.symm.trans h

theorem applyEntry_of_not_isKnown (settings : Settings) (h : isKnown a.key = false) :
    applyEntry settings a = .ok settings := by
  simp only [applyEntry, Assignment.pair, applyOption, of?_eq_none_of_not_isKnown h]

/-! ## Many entries -/

/-- A size is what the last value spells out, or the built-in one. -/
theorem sizeFrom_of_content {value? : Option Text} {builtIn n : UInt64}
    (h : some (Content.size n) =
      value?.elim (some (.size builtIn)) fun value => (size? value).map fun n => .size n.val) :
    SizeFrom value? builtIn n := by
  cases value? with
  | none =>
      cases h
      rfl
  | some value =>
      rcases Option.map_eq_some_iff.1 h.symm with ⟨found, hfound, hsize⟩
      cases hsize
      exact exists_size?_iff.1 ⟨found.2, hfound⟩

/-- The marker is the last value unless that is empty. -/
theorem marker_of_content {value? marker : Option Text}
    (h : some (Content.marker marker) =
      value?.elim (some (.marker none)) fun value => Key.lineComment.content? value) :
    marker = value?.filter fun value => !value.isEmpty := by
  cases value? with
  | none => exact Content.marker.inj (Option.some.inj h)
  | some value =>
      have hmarker : marker = if value.isEmpty then none else some value :=
        Content.marker.inj (Option.some.inj h)
      rw [hmarker]
      cases value with
      | nil => rfl
      | cons c rest => rfl

/-- A rule is off exactly if the last value turns it off. -/
theorem off_iff_of_content {value? : Option Text} {off : Bool} {rule : Rule}
    (h : some (Content.toggle off) =
      value?.elim (some (.toggle false)) fun value => (Key.toggle rule).content? value) :
    off = true ↔ ∃ value, value? = some value ∧ Switches false value := by
  rw [off_of_content h]
  cases value? with
  | none =>
      refine iff_of_false Bool.false_ne_true ?_
      rintro ⟨value, hvalue, _⟩
      cases hvalue
  | some value =>
      rw [Option.map_some, Option.getD_some, beq_iff_eq, toggle?_eq_some_iff]
      constructor
      · intro hvalue
        exact ⟨value, rfl, hvalue⟩
      · rintro ⟨other, hother, hvalue⟩
        cases hother
        exact hvalue

/-- Settings that entries have been laid over hold what the last entries say. -/
theorem laidOver_of_foldlM (h : entries.foldlM applyEntry {} = .ok settings) :
    LaidOver entries settings := by
  have hcontent := content_of_foldlM h
  exact {
    indentSize := sizeFrom_of_content (hcontent .indentSize)
    maxLineLength := sizeFrom_of_content (hcontent .maxLineLength)
    headerLength := sizeFrom_of_content (hcontent .headerLength)
    maxBlankLines := sizeFrom_of_content (hcontent .maxBlankLines)
    lineComment := marker_of_content (hcontent .lineComment)
    disabled := fun rule => off_iff_of_content (hcontent (.toggle rule)) }

/-- Sizes that options set are never zero, nor are the built-in ones. -/
theorem LaidOver.positive (h : LaidOver entries settings) : settings.Positive := by
  have hpos : ∀ {value? : Option Text} {builtIn n : UInt64}, 0 < builtIn →
      SizeFrom value? builtIn n → 0 < n := by
    intro value? builtIn n hbuiltIn hn
    cases value? with
    | none =>
        cases hn
        exact hbuiltIn
    | some value => exact hn.1
  exact {
    indentSize := hpos (by decide) h.indentSize
    maxLineLength := hpos (by decide) h.maxLineLength
    headerLength := hpos (by decide) h.headerLength
    maxBlankLines := hpos (by decide) h.maxBlankLines }

/-- Resolving is laying entries over the built-in settings, one after the other. -/
theorem resolve_eq_foldlM (sections : Sections) (extension : Text) :
    resolve sections extension = (laidOn sections extension).foldlM applyEntry {} := by
  have happly : ∀ name settings, applySection sections settings name =
      (entriesOf sections name).foldlM applyEntry settings := by
    intro name settings
    rw [applySection_eq, applyOptions_eq_foldlM, entriesOf]
  rw [resolve, laidOn, List.foldlM_append]
  simp only [happly]
  -- the section `default` is not laid on twice
  split_ifs
  · rfl
  · rfl

/-- No configuration makes settings with a size of zero. -/
theorem positive_of_resolve (h : resolve sections extension = .ok settings) :
    settings.Positive := by
  rw [resolve_eq_foldlM] at h
  exact (laidOver_of_foldlM h).positive

/-- Entries with unknown keys are passed over. -/
theorem foldlM_filter_isKnown (entries : List Assignment) (settings : Settings) :
    (entries.filter fun a => isKnown a.key).foldlM applyEntry settings =
      entries.foldlM applyEntry settings := by
  rw [List.foldlM_filter]
  congr 1
  funext settings a
  cases hknown : isKnown a.key with
  | true => rfl
  | false => exact (applyEntry_of_not_isKnown settings hknown).symm

theorem filter_entriesOf (sections : Sections) (name : Text) :
    ((entriesOf sections name).filter fun a => isKnown a.key) =
      (knownOptions sections name).map fun (key, value) => ⟨name, key, value⟩ := by
  rw [entriesOf, List.filter_map, knownOptions]
  rfl

theorem filter_laidOn (sections : Sections) (extension : Text) :
    ((laidOn sections extension).filter fun a => isKnown a.key) =
      ((knownOptions sections defaultSection).map fun (key, value) =>
        ⟨defaultSection, key, value⟩) ++
      if extension = defaultSection then []
      else (knownOptions sections extension).map fun (key, value) => ⟨extension, key, value⟩ := by
  rw [laidOn, List.filter_append, filter_entriesOf]
  split_ifs
  · rfl
  · rw [filter_entriesOf]

/-! ## Settings for an extension -/

/-- The first entry that is at fault makes the error. -/
theorem resolve_eq_error_iff :
    resolve sections extension = .error error ↔
      FirstFault OptionFault (laidOn sections extension) error := by
  rw [resolve_eq_foldlM]
  apply foldlM_eq_error_iff
  intro settings a error
  exact applyEntry_eq_error_iff

/-- Settings can be resolved if no entry is at fault. -/
theorem exists_resolve_iff :
    (∃ settings, resolve sections extension = .ok settings) ↔
      ∀ a ∈ laidOn sections extension, ∀ error, ¬ OptionFault a error := by
  simp only [exists_ok_iff, ne_eq, resolve_eq_error_iff, forall_not_firstFault_iff]

/-- What the two sections say under known keys decides all. -/
theorem resolve_congr {other : Sections}
    (hdefault : knownOptions other defaultSection = knownOptions sections defaultSection)
    (hown : knownOptions other extension = knownOptions sections extension) :
    resolve other extension = resolve sections extension := by
  rw [resolve_eq_foldlM, resolve_eq_foldlM, ← foldlM_filter_isKnown,
    ← foldlM_filter_isKnown (laidOn sections extension), filter_laidOn, filter_laidOn, hdefault,
    hown]

/-- The message names the section, the key and the value. -/
theorem message_of_optionFault (h : OptionFault a error) :
    error.message = "[".toList ++ a.sectionName ++ "] ".toList ++ a.key ++ complaint a.key ++
      a.value ++ "'".toList := by
  cases h with
  | size hmem _ =>
      have hcomplaint : complaint a.key = " must be a positive integer, got '".toList :=
        if_pos hmem
      rw [hcomplaint]
      rfl
  | toggle hby _ =>
      -- a spelling of a rule is no plain key, and so no size
      have hnot : a.key ∉ sizeKeys := by
        intro hmem
        rcases mem_sizeKeys_iff.1 hmem with ⟨key, hkey, hsize⟩
        cases hkey.symm.trans (Key.of?_eq_toggle_iff.2 hby)
        cases hsize
      have hcomplaint : complaint a.key = " must be 'enable' or 'disable', got '".toList :=
        if_neg hnot
      rw [hcomplaint]
      rfl

/-- Settings can be resolved unless an entry of the two layers is at fault, and the first such entry
makes the error.  Resolved settings hold what the last entry says, option by option.  Unknown keys
and other sections have no say. -/
theorem resolve_exact (sections : Sections) (extension : Text) :
    (∀ error, resolve sections extension = .error error ↔
        FirstFault OptionFault (laidOn sections extension) error) ∧
      (∀ a error, OptionFault a error →
        error.message = "[".toList ++ a.sectionName ++ "] ".toList ++ a.key ++ complaint a.key ++
          a.value ++ "'".toList) ∧
      ((∃ settings, resolve sections extension = .ok settings) ↔
        ∀ a ∈ laidOn sections extension, ∀ error, ¬ OptionFault a error) ∧
      (∀ settings, resolve sections extension = .ok settings →
        LaidOver (laidOn sections extension) settings) ∧
      ∀ other, knownOptions other defaultSection = knownOptions sections defaultSection →
        knownOptions other extension = knownOptions sections extension →
        resolve other extension = resolve sections extension := by
  refine ⟨fun error => resolve_eq_error_iff, fun a error => message_of_optionFault,
    exists_resolve_iff, ?_, fun other => resolve_congr⟩
  intro settings h
  rw [resolve_eq_foldlM] at h
  exact laidOver_of_foldlM h

/-- Two layers with the greatest size, a rule turned off and on again under another spelling, and an
unknown key, beside a section with two faults. -/
def layered : Sections :=
  Dict.ofList [
    ("default".toList, Dict.ofList [
      ("indent_size".toList, "+18446744073709551615".toList),
      ("line_comment".toList, "#".toList),
      ("CD0401".toList, "OFF".toList)]),
    ("py".toList, Dict.ofList [
      ("linetoolong".toList, "On".toList),
      ("tab_width".toList, "?".toList),
      ("line_comment".toList, [])]),
    ("c".toList, Dict.ofList [
      ("max_blank_lines".toList, "0".toList),
      ("CD0401".toList, "maybe".toList)])]

/-- The greatest size, a rule turned on again and an empty marker for one extension, and a fault for
the other. -/
theorem resolve_exact_layered :
    (∃ settings, resolve layered "py".toList = .ok settings ∧
      LaidOver (laidOn layered "py".toList) settings ∧
      settings.indentSize = 18446744073709551615 ∧ settings.lineComment = none ∧
      settings.disabled .lineTooLong = false) ∧
    FirstFault OptionFault (laidOn layered "c".toList)
      (.badSize "c".toList "max_blank_lines".toList "0".toList) := by
  -- settings hold functions, so what they hold is compared and not they themselves
  have hpython : (resolve layered "py".toList).toOption.map (fun settings =>
      (settings.indentSize, settings.lineComment, settings.disabled .lineTooLong)) =
      some (18446744073709551615, none, false) := by
    decide +kernel
  have hc : (resolve layered "c".toList).map (fun _ => ()) =
      .error (.badSize "c".toList "max_blank_lines".toList "0".toList) := by
    decide +kernel
  rcases Option.map_eq_some_iff.1 hpython with ⟨settings, hsettings, hvalues⟩
  have hok := toOption_eq_some_iff.1 hsettings
  rcases Prod.mk.inj hvalues with ⟨hindent, hrest⟩
  rcases Prod.mk.inj hrest with ⟨hmarker, hdisabled⟩
  rcases resolve_exact layered "py".toList with ⟨_, _, _, hlaid, _⟩
  rcases resolve_exact layered "c".toList with ⟨hfault, _⟩
  refine ⟨⟨settings, hok, hlaid settings hok, hindent, hmarker, hdisabled⟩, ?_⟩
  exact (hfault _).1 (map_eq_error_iff.1 hc)

end Settings

end TextHygiene
