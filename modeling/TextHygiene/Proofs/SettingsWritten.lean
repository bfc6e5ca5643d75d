import TextHygiene.Proofs.Agreement
import TextHygiene.Proofs.Toggles
import TextHygiene.Proofs.Token
import TextHygiene.Proofs.Written

/-!
# Settings written and read back

Settings are written as one section: the four sizes in digits, the comment marker, and a line for
every rule that is turned off, under its code or its name in any letter case.  Reading the section
and resolving it gives back the settings, in whatever order the options stand and whatever the
marker looks like.
-/

namespace TextHygiene

namespace Settings

open Ini

/-! ## Settings that can be written -/

/-- Settings that options can spell out. -/
structure Writable (settings : Settings) : Prop extends settings.Positive where
  lineComment : ∀ marker, settings.lineComment = some marker → marker ≠ [] ∧ IsValue marker

/-- The keys that settings are written under: all that are no toggles, and those of the rules that
are turned off. -/
def writtenKeys (settings : Settings) : List Key :=
  [.indentSize, .maxLineLength, .headerLength, .maxBlankLines, .lineComment] ++
    settings.disabled.toList.map .toggle

/-- The option that spells out what settings hold under a key, where a rule goes by its spelling and
is turned off. -/
def option (settings : Settings) (spelling : Rule → Text) : Key → Text × Text
  | .indentSize => ("indent_size".toList, Text.decimal settings.indentSize.toNat)
  | .maxLineLength => ("max_line_length".toList, Text.decimal settings.maxLineLength.toNat)
  | .headerLength => ("section_header_length".toList, Text.decimal settings.headerLength.toNat)
  | .maxBlankLines => ("max_blank_lines".toList, Text.decimal settings.maxBlankLines.toNat)
  | .lineComment => ("line_comment".toList, settings.lineComment.getD [])
  | .toggle rule => (spelling rule, "disable".toList)

def options (settings : Settings) (spelling : Rule → Text) : List (Text × Text) :=
  settings.writtenKeys.map (settings.option spelling)

/-! ## What the options say -/

/-- An option that is read as what settings hold under a key. -/
structure Spells (settings : Settings) (option : Text × Text) (key : Key) : Prop where
  token : Text.IsToken option.1
  value : IsValue option.2
  known : Key.of? (Text.lowercase option.1) = some key
  holds : key.content? option.2 = some (settings.content key)

variable {settings : Settings} {spelling : Rule → Text} {key : Key}

theorem Spells.agrees {option : Text × Text} (h : Spells settings option key) :
    Agrees settings (lowered option) := by
  intro other hother
  have hkey : Key.of? (lowered option).1 = some key := h.known
  rw [hkey] at hother
  cases hother
  exact h.holds

theorem isToken_plainKeys :
    ∀ key ∈ plainKeys, Text.IsToken key ∧ key.map Char.toLower = key := by
  decide

theorem spells_plain {text value : Text} (htext : text ∈ plainKeys)
    (hknown : Key.of? text = some key) (hvalue : IsValue value)
    (hholds : key.content? value = some (settings.content key)) :
    Spells settings (text, value) key := by
  rcases isToken_plainKeys text htext with ⟨htoken, hsmall⟩
  refine ⟨htoken, hvalue, ?_, hholds⟩
  rw [htoken.lowercase, hsmall]
  exact hknown

/-- A size is spelled out by its digits. -/
theorem spells_size {text : Text} {n : UInt64} (htext : text ∈ plainKeys)
    (hknown : Key.of? text = some key) (hn : 0 < n)
    (hread : ∀ value, key.content? value = (size? value).map fun n => .size n.val)
    (hcontent : settings.content key = .size n) :
    Spells settings (text, Text.decimal n.toNat) key := by
  have hsize : size? (Text.decimal n.toNat) = some ⟨n, hn⟩ := by
    rw [size?, Text.word?_decimal, Option.bind_some, dif_pos hn]
  apply spells_plain htext hknown (Text.isToken_decimal n.toNat).isValue
  rw [hread, hsize, hcontent]
  rfl

theorem toggle?_disable : toggle? "disable".toList = some false := by
  have hword : Text.IsToken "disable".toList := by decide
  rw [toggle?, hword.lowercase]
  decide

/-- The marker spells itself out, and an empty value spells out that there is none. -/
theorem spells_lineComment
    (h : ∀ marker, settings.lineComment = some marker → marker ≠ [] ∧ IsValue marker) :
    Spells settings ("line_comment".toList, settings.lineComment.getD []) .lineComment := by
  cases hmarker : settings.lineComment with
  | none =>
      -- no marker is written as an empty value
      have hvalue : IsValue [] := ⟨rfl, List.not_mem_nil⟩
      have hholds : Key.lineComment.content? [] = some (settings.content .lineComment) := by
        rw [content, hmarker]
        rfl
      exact spells_plain (by decide) (by decide) hvalue hholds
  | some marker =>
      rcases h marker hmarker with ⟨hne, hvalue⟩
      have hholds : Key.lineComment.content? marker = some (settings.content .lineComment) := by
        rw [content, hmarker, Key.content?, if_neg (mt List.isEmpty_iff.1 hne)]
      exact spells_plain (by decide) (by decide) hvalue hholds

/-- A rule is turned off under any of its spellings. -/
theorem spells_toggle {rule : Rule} {text : Text} (hoff : settings.disabled rule = true)
    (hby : rule.goesBy text = true) :
    Spells settings (text, "disable".toList) (.toggle rule) := by
  have hword : Text.IsToken "disable".toList := by decide
  have hknown : Key.of? (Text.lowercase text) = some (.toggle rule) :=
    Key.of?_eq_toggle_iff.2 (Rule.goesBy_lowercase hby)
  have hholds : (Key.toggle rule).content? "disable".toList =
      some (settings.content (.toggle rule)) := by
    rw [Key.content?, toggle?_disable, content, hoff]
    rfl
  exact ⟨Rule.isToken_of_goesBy hby, hword.isValue, hknown, hholds⟩

/-- Every option that is written spells out what settings hold under its key. -/
theorem spells_option (h : settings.Writable)
    (hspelling : ∀ rule, settings.disabled rule = true → rule.goesBy (spelling rule) = true)
    (hkey : key ∈ settings.writtenKeys) : Spells settings (settings.option spelling key) key := by
  cases key with
  | indentSize => exact spells_size (by decide) (by decide) h.indentSize (fun _ => rfl) rfl
  | maxLineLength => exact spells_size (by decide) (by decide) h.maxLineLength (fun _ => rfl) rfl
  | headerLength => exact spells_size (by decide) (by decide) h.headerLength (fun _ => rfl) rfl
  | maxBlankLines => exact spells_size (by decide) (by decide) h.maxBlankLines (fun _ => rfl) rfl
  | lineComment => exact spells_lineComment h.lineComment
  | toggle rule =>
      have hoff : settings.disabled rule = true := by
        simpa [writtenKeys] using hkey
      exact spells_toggle hoff (hspelling rule hoff)

/-- Under the keys that are not written, settings hold what they do without any option. -/
theorem content_of_not_mem_writtenKeys (h : key ∉ settings.writtenKeys) :
    ({} : Settings).content key = settings.content key := by
  cases key with
  | toggle rule =>
      have hon : settings.disabled rule = false := by
        simpa [writtenKeys] using h
      rw [content, content, hon]
      rfl
  | _ => exact absurd (List.mem_append_left _ (by decide)) h

/-! ## Reading back -/

variable {name : Text} {written : List (Text × Text)}

/-- With one section there is one layer of options. -/
theorem resolve_single (name : Text) (options : Options) :
    resolve (Dict.empty.set name options) name = applyOptions name {} options.entries := by
  have hown : ∀ settings, applySection (Dict.empty.set name options) settings name =
      applyOptions name settings options.entries := by
    intro settings
    rw [applySection, Dict.get?_set_self]
  rw [resolve]
  by_cases hdefault : name = defaultSection
  · simp only [if_pos hdefault, bind_pure]
    rw [← hdefault, hown]
  · -- there is no section that every extension starts from
    have hnone : applySection (Dict.empty.set name options) {} defaultSection = .ok {} := by
      rw [applySection, Dict.get?_set_of_ne _ _ (Ne.symm hdefault)]
      rfl
    rw [hnone]
    simp only [if_neg hdefault, ← hown]
    rfl

/-- The options that were written lead to the settings, in whatever order they stand. -/
theorem applyOptions_written (h : ∀ key ∈ settings.writtenKeys,
      Spells settings (settings.option spelling key) key)
    (horder : written.Perm (settings.options spelling)) :
    applyOptions name {} (Dict.ofList (written.map lowered)).entries = .ok settings := by
  have hmem : ∀ {option}, option ∈ written ↔
      ∃ key ∈ settings.writtenKeys, settings.option spelling key = option := by
    intro option
    rw [horder.mem_iff, options, List.mem_map]
  apply applyOptions_eq_ok
  · -- every entry comes from an option that was written
    intro entry hentry
    rcases List.mem_map.1 (Dict.mem_of_mem_entries_ofList hentry) with ⟨option, hoption, rfl⟩
    rcases hmem.1 hoption with ⟨key, hkey, rfl⟩
    exact (h key hkey).agrees
  · -- every key that is written comes up in some entry
    intro key hnot
    apply content_of_not_mem_writtenKeys
    intro hkey
    apply hnot
    have hpair : lowered (settings.option spelling key) ∈ written.map lowered :=
      List.mem_map_of_mem (hmem.2 ⟨key, hkey, rfl⟩)
    have hentry := Dict.mem_keys_ofList.2 (List.mem_map_of_mem hpair)
    rcases List.mem_map.1 hentry with ⟨entry, hentry, hsame⟩
    apply List.mem_filterMap.2
    refine ⟨entry, hentry, ?_⟩
    rw [hsame]
    exact (h key hkey).known

/-- Settings that are written as a section are what the section is read and resolved as. -/
theorem resolve_written (hsettings : settings.Writable) (hname : Ini.IsName name)
    (hspelling : ∀ rule, settings.disabled rule = true → rule.goesBy (spelling rule) = true)
    (horder : written.Perm (settings.options spelling)) (separator : Text → Separator) :
    ∃ sections, read (ofLines (sectionLines separator name written)) = .ok sections ∧
      resolve sections name = .ok settings := by
  have hspells : ∀ key ∈ settings.writtenKeys,
      Spells settings (settings.option spelling key) key :=
    fun key hkey => spells_option hsettings hspelling hkey
  have hlines : ∀ option ∈ written, IsKey option.1 ∧ IsValue option.2 := by
    intro option hoption
    rcases List.mem_map.1 (horder.mem_iff.1 hoption) with ⟨key, hkey, rfl⟩
    exact ⟨(hspells key hkey).token.isKey, (hspells key hkey).value⟩
  refine ⟨_, read_section separator hname hlines, ?_⟩
  rw [resolve_single]
  exact applyOptions_written hspells horder

/-- Sizes at both limits, a marker that looks like a separator, and two rules turned off. -/
def extreme : Settings where
  indentSize := 1
  maxLineLength := 18446744073709551615
  maxBlankLines := 2
  lineComment := some [':']
  disabled := RuleSet.ofList [.lineTooLong, .unreadableFile]

/-- A code for one rule of `extreme`, a name for the other one. -/
def extremeSpelling : Rule → Text
  | .lineTooLong => "cD0401".toList
  | rule => rule.name.map Char.toUpper

def extremeFile : Text :=
  "[;c#]\nindent_size = 1\nmax_line_length = 18446744073709551615\n".toList ++
    "section_header_length = 100\nmax_blank_lines = 2\nline_comment = :\n".toList ++
    "cD0401 = disable\nUNREADABLEFILE = disable\n".toList

theorem writable_extreme : extreme.Writable := by
  have hmarker : ∀ marker, some [':'] = some marker → marker ≠ [] ∧ IsValue marker := by
    rintro _ ⟨⟩
    exact ⟨List.cons_ne_nil _ _, by decide, by decide⟩
  exact ⟨⟨by decide, by decide, by decide, by decide⟩, hmarker⟩

/-- The settings `extreme` come back from the file that writes them down. -/
theorem resolve_written_extreme :
    ∃ sections, read extremeFile = .ok sections ∧ resolve sections ";c#".toList = .ok extreme := by
  have hname : Ini.IsName ";c#".toList := ⟨by decide, by decide, by decide, by decide⟩
  have hspelling : ∀ rule ∈ Rule.all, extreme.disabled rule = true →
      rule.goesBy (extremeSpelling rule) = true := by
    decide +kernel
  -- the file is what writing these settings makes
  have hfile : extremeFile = ofLines (sectionLines (fun _ => .spaced) ";c#".toList
      (extreme.options extremeSpelling)) := by
    decide +kernel
  rw [hfile]
  exact resolve_written writable_extreme hname (fun rule => hspelling rule (Rule.mem_all rule))
    (List.Perm.refl _) fun _ => .spaced

end Settings

end TextHygiene
