import TextHygiene.Proofs.Assignments
import TextHygiene.Proofs.Grammar
import TextHygiene.Proofs.Lowercase
import TextHygiene.Proofs.Reading

/-!
# What configuration files hold

Names, keys and values as a configuration file can spell them.  Every section that is read is of
this form: trimming leaves nothing at the ends of a name, a key or a value, the first separator of a
line ends its key, and putting a key into small letters adds no sign that the reader would take for
something else.  Reading keeps this up line by line.
-/

namespace TextHygiene

namespace Ini

open Line

/-! ## Names, keys and values -/

/-- A text that can stand between the brackets of a section header. -/
structure IsName (name : Text) : Prop where
  nonempty : name ≠ []
  trimmed : Text.trim name = name
  noBracket : '[' ∉ name ∧ ']' ∉ name
  oneLine : '\n' ∉ name

/-- A text that can stand in front of a separator. -/
structure IsKey (key : Text) : Prop where
  nonempty : key ≠ []
  trimmed : Text.trim key = key
  noSeparator : '=' ∉ key ∧ ':' ∉ key
  oneLine : '\n' ∉ key
  noComment : key.head? ≠ some '#' ∧ key.head? ≠ some ';'
  noHeader : key.head? ≠ some '['

/-- A text that can stand behind a separator. -/
structure IsValue (value : Text) : Prop where
  trimmed : Text.trim value = value
  oneLine : '\n' ∉ value

/-- An option whose key is in small letters. -/
structure IsOption (option : Text × Text) : Prop where
  key : IsKey option.1
  small : Text.lowercase option.1 = option.1
  value : IsValue option.2

/-- A section with its options. -/
structure IsSection (entry : Text × Options) : Prop where
  name : IsName entry.1
  options : ∀ option ∈ entry.2.entries, IsOption option

/-- Sections as a configuration file can spell them.  Names, and keys within a section, are distinct
since they are those of dictionaries. -/
def WellFormed (sections : Sections) : Prop :=
  ∀ entry ∈ sections.entries, IsSection entry

/-! ## Keys in small letters -/

/-- A key in small letters is a key. -/
theorem IsKey.lowercase {key : Text} (h : IsKey key) : IsKey (Text.lowercase key) := by
  have hlonely : ∀ c ∈ ['=', ':', '\n', '#', ';', '['], c ∈ Unicode.lonely :=
    Text.forall_mem_of_all (by decide +kernel)
  -- a sign of the small key is one of the key, and stands in the same place
  have hmem : ∀ c ∈ ['=', ':', '\n', '#', ';', '['], c ∉ key → c ∉ Text.lowercase key :=
    fun c hc hnot hin => hnot (Text.mem_of_mem_lowercase hin (hlonely c hc))
  have hhead : ∀ c ∈ ['=', ':', '\n', '#', ';', '['], key.head? ≠ some c →
      (Text.lowercase key).head? ≠ some c :=
    fun c hc hnot hin => hnot (Text.head?_of_lowercase hin (hlonely c hc))
  exact {
    nonempty := fun hnil => h.nonempty (Text.lowercase_eq_nil_iff.1 hnil)
    trimmed := Text.trim_eq_self_iff.2 (Text.trim_eq_self_iff.1 h.trimmed).lowercase
    noSeparator := ⟨hmem _ (by decide) h.noSeparator.1, hmem _ (by decide) h.noSeparator.2⟩
    oneLine := hmem _ (by decide) h.oneLine
    noComment := ⟨hhead _ (by decide) h.noComment.1, hhead _ (by decide) h.noComment.2⟩
    noHeader := hhead _ (by decide) h.noHeader }

theorem IsOption.ofLowercase {key value : Text} (hkey : IsKey key) (hvalue : IsValue value) :
    IsOption (Text.lowercase key, value) :=
  ⟨hkey.lowercase, Text.lowercase_lowercase key, hvalue⟩

/-! ## One line -/

variable {line : Text}

theorem lineFeed_not_mem_trim (h : '\n' ∉ line) {t : Text}
    (ht : ∀ c ∈ t, c ∈ Text.trim line) : '\n' ∉ Text.trim t := by
  intro hmem
  exact h (Text.mem_of_mem_trim (ht _ (Text.mem_of_mem_trim hmem)))

/-- What is read as a header is a name that can be written as one. -/
theorem isName_of_header {name : Text} (h : Item.ofLine line = .header name) (hline : '\n' ∉ line) :
    IsName name := by
  have hname : headerName? (Text.trim line) = some name := Item.ofTrimmed_eq_header_iff.1 h
  rcases headerName?_eq_some_iff.1 hname with ⟨inner, heq, rfl, hne, hbracket⟩
  have hinner : ∀ c ∈ inner, c ∈ Text.trim line := by
    intro c hc
    rw [heq]
    exact List.mem_cons_of_mem _ (List.mem_append_left _ hc)
  exact ⟨hne, Text.trim_trim inner, hbracket, lineFeed_not_mem_trim hline hinner⟩

/-- What is read as a pair is a key and a value that can be written as one. -/
theorem isKey_of_pair {key value : Text} (h : Item.ofLine line = .pair key value)
    (hline : '\n' ∉ line) : IsKey key ∧ IsValue value := by
  rcases Item.ofTrimmed_eq_pair_iff.1 h with ⟨hignorable, hstarts, hpair⟩
  rcases pair?_eq_some_iff.1 hpair with
    ⟨left, separator, right, heq, _, hequals, hcolon, rfl, rfl, hne⟩
  have hleft : ∀ c ∈ left, c ∈ Text.trim line := by
    intro c hc
    rw [heq]
    exact List.mem_append_left _ hc
  have hright : ∀ c ∈ right, c ∈ Text.trim line := by
    intro c hc
    rw [heq]
    exact List.mem_append_right _ (List.mem_cons_of_mem _ hc)
  -- the line is trimmed, so its key starts where the line does
  have hhead : ∀ c, (Text.trim left).head? = some c → (Text.trim line).head? = some c := by
    intro c hc
    have hbare : ∀ x, left.head? = some x → isBlank x = false := by
      intro x hx
      apply (Text.bare_trim line).start
      rw [heq, List.head?_append, hx]
      rfl
    rw [heq, List.head?_append, Text.head?_of_trim hbare hc]
    rfl
  refine ⟨?_, Text.trim_trim right, lineFeed_not_mem_trim hline hright⟩
  exact {
    nonempty := hne
    trimmed := Text.trim_trim left
    noSeparator := ⟨fun hmem => hequals (Text.mem_of_mem_trim hmem),
      fun hmem => hcolon (Text.mem_of_mem_trim hmem)⟩
    oneLine := lineFeed_not_mem_trim hline hleft
    noComment := ⟨fun hc => hignorable (Or.inr (Or.inl (hhead _ hc))),
      fun hc => hignorable (Or.inr (Or.inr (hhead _ hc)))⟩
    noHeader := fun hc => hstarts (hhead _ hc) }

/-! ## Reading -/

theorem WellFormed.isOption {sections : Sections} (h : WellFormed sections) (name : Text) :
    ∀ option ∈ (optionsOf sections name).entries, IsOption option := by
  rw [optionsOf]
  cases hget : sections.get? name with
  | none =>
      intro option hmem
      cases hmem
  | some options => exact (h (name, options) (Dict.get?_eq_some_iff.1 hget)).options

/-- What the reader holds: sections that a file can spell, and the name of one that is open. -/
structure State.Sound (state : State) : Prop where
  sections : WellFormed state.sections
  current : ∀ name, state.current = some name → IsName name

theorem State.sound_start : Sound {} :=
  ⟨nofun, nofun⟩

theorem wellFormed_update {sections : Sections} {name : Text} {f : Option Options → Options}
    (h : WellFormed sections) (hname : IsName name)
    (hoptions : ∀ option ∈ (f (sections.get? name)).entries, IsOption option) :
    WellFormed (sections.update name f) := by
  intro entry hmem
  rcases Dict.mem_entries_update hmem with hold | rfl
  · exact h entry hold
  · exact ⟨hname, hoptions⟩

/-- A line keeps the reader sound. -/
theorem State.Sound.step {state next : State} (h : state.Sound) (hline : '\n' ∉ line)
    (hstep : state.step (Item.ofLine line) = .ok next) : next.Sound := by
  rcases State.step_cases hstep with
    ⟨_, rfl⟩ | ⟨name, hitem, rfl⟩ | ⟨name, key, value, hitem, hopen, rfl⟩
  · exact h
  · have hname : IsName name := isName_of_header hitem hline
    refine ⟨wellFormed_update h.sections hname (h.sections.isOption name), ?_⟩
    rintro other ⟨⟩
    exact hname
  · have hname : IsName name := h.current name hopen
    refine ⟨wellFormed_update h.sections hname ?_, fun other hother => h.current other ?_⟩
    · -- an option stood there before, or the line set it
      intro option hmem
      rcases isKey_of_pair hitem hline with ⟨hkey, hvalue⟩
      rcases Dict.mem_entries_update hmem with hold | rfl
      · exact h.sections.isOption name option hold
      · exact IsOption.ofLowercase hkey hvalue
    · rw [hopen]
      exact hother

/-- The reader stays sound over all lines. -/
theorem State.Sound.run {state final : State} {number : Nat} {lines : List Text} (h : state.Sound)
    (hlines : ∀ line ∈ lines, '\n' ∉ line) (hrun : state.run number lines = .ok final) :
    final.Sound := by
  induction lines generalizing number state with
  | nil =>
      cases hrun
      exact h
  | cons line rest ih =>
      rcases List.forall_mem_cons.1 hlines with ⟨hline, hrest⟩
      rcases State.run_cons_eq_ok_iff.1 hrun with ⟨next, hstep, hlater⟩
      exact ih (h.step hline hstep) hrest hlater

/-- Whatever is read is well formed. -/
theorem wellFormed_of_read {content : Text} {sections : Sections}
    (h : read content = .ok sections) : WellFormed sections := by
  rcases read_eq_ok_iff.1 h with ⟨final, hrun, rfl⟩
  apply (State.sound_start.run ?_ hrun).sections
  intro text htext
  rcases List.mem_map.1 htext with ⟨line, hline, rfl⟩
  exact lineFeed_not_mem_of_mem_split hline

end Ini

end TextHygiene
