import TextHygiene.Proofs.WellFormed

/-!
# Configuration files written and read back

Sections are written line by line: a header, then its options, each with a separator of its own.
Reading gives back the sections that were written, in their order and with their options in order,
whatever stands in the values.  Since only well-formed sections are ever read, what was read once
can be written and read again without loss.
-/

namespace TextHygiene

namespace Ini

open Line

/-! ## Writing -/

/-- What stands between a key and its value: an equal sign or a colon, with blanks on either side.
-/
structure Separator where
  before : Text
  sign : Char
  after : Text
  isSign : sign = '=' ∨ sign = ':'
  blank : ∀ c ∈ before ++ after, isBlank c = true
  oneLine : '\n' ∉ before ++ after

def Separator.spaced : Separator :=
  ⟨[' '], '=', [' '], Or.inl rfl, Text.forall_mem_of_all (by decide), by decide⟩

def headerLine (name : Text) : Text :=
  '[' :: (name ++ [']'])

def optionLine (separator : Separator) (option : Text × Text) : Text :=
  option.1 ++ separator.before ++ separator.sign :: (separator.after ++ option.2)

/-- The lines of a section, where every key chooses its separator. -/
def sectionLines (separator : Text → Separator) (name : Text) (options : List (Text × Text)) :
    List Text :=
  headerLine name :: options.map fun option => optionLine (separator option.1) option

def ofLines (lines : List Text) : Text :=
  lines.flatMap (· ++ ['\n'])

def linesOf (separator : Text → Text → Separator) (entries : List (Text × Options)) : List Text :=
  entries.flatMap fun (name, options) => sectionLines (separator name) name options.entries

/-- Sections as a configuration file, where every key of every section chooses its separator. -/
def write (separator : Text → Text → Separator) (sections : Sections) : Text :=
  ofLines (linesOf separator sections.entries)

/-! ## One line -/

variable {name key value : Text}

/-- A header that is written is read as the header of that name. -/
theorem IsName.ofLine (h : IsName name) : Item.ofLine (headerLine name) = .header name := by
  have hbare : Text.Bare (headerLine name) := by
    constructor
    · rintro c ⟨⟩
      decide
    · intro c hc
      rw [headerLine, ← List.cons_append, List.getLast?_concat] at hc
      cases hc
      decide
  rw [Item.ofLine, Text.trim_eq_self_iff.2 hbare, Item.ofTrimmed_eq_header_iff,
    headerName?_eq_some_iff]
  exact ⟨name, rfl, h.trimmed, h.nonempty, h.noBracket⟩

theorem not_blank_of_isSign {c : Char} (h : c = '=' ∨ c = ':') : isBlank c = false := by
  rcases h with rfl | rfl
  · decide
  · decide

/-- A line that sets an option, once it is trimmed: if the value is empty, nothing stands behind the
separator any more. -/
theorem trim_optionLine (separator : Separator) (hkey : IsKey key) (hvalue : IsValue value) :
    ∃ right, Text.trim (optionLine separator (key, value)) =
      key ++ separator.before ++ separator.sign :: right ∧ Text.trim right = value := by
  rcases separator with ⟨before, sign, after, hsign, hblank, _⟩
  have hafter : ∀ c ∈ after, isBlank c = true := fun c hc => hblank c (List.mem_append_right _ hc)
  have hstart : ∀ right c, (key ++ before ++ sign :: right).head? = some c → isBlank c = false := by
    intro right c hc
    rw [List.append_assoc, List.head?_append_of_ne_nil _ hkey.nonempty] at hc
    exact (Text.trim_eq_self_iff.1 hkey.trimmed).start c hc
  cases hlast : value.getLast? with
  | none =>
      -- trimming takes off the blanks behind the sign, which ends the line then
      have hnil : value = [] := List.getLast?_eq_none_iff.1 hlast
      subst hnil
      have hbare : Text.Bare (key ++ before ++ [sign]) := by
        refine ⟨hstart [], fun c hc => ?_⟩
        rw [List.getLast?_concat] at hc
        cases hc
        exact not_blank_of_isSign hsign
      refine ⟨[], ?_, rfl⟩
      calc
        Text.trim (key ++ before ++ sign :: (after ++ []))
          = Text.trim (key ++ before ++ [sign] ++ after) := by simp
        _ = Text.trim (key ++ before ++ [sign]) := Text.trim_append_right hafter _
        _ = key ++ before ++ [sign] := Text.trim_eq_self_iff.2 hbare
  | some last =>
      have hbare : Text.Bare (key ++ before ++ sign :: (after ++ value)) := by
        refine ⟨hstart _, fun c hc => ?_⟩
        rw [← List.cons_append, ← List.append_assoc, List.getLast?_append, hlast] at hc
        cases hc
        exact (Text.trim_eq_self_iff.1 hvalue.trimmed).stop last hlast
      refine ⟨after ++ value, Text.trim_eq_self_iff.2 hbare, ?_⟩
      rw [Text.trim_append_left hafter, hvalue.trimmed]

/-- An option that is written is read as that option, whichever separator it is written with. -/
theorem IsKey.ofLine (separator : Separator) (hkey : IsKey key) (hvalue : IsValue value) :
    Item.ofLine (optionLine separator (key, value)) = .pair key value := by
  rcases trim_optionLine separator hkey hvalue with ⟨right, hline, hright⟩
  have hbefore : ∀ c ∈ separator.before, isBlank c = true :=
    fun c hc => separator.blank c (List.mem_append_left _ hc)
  -- the blanks in front of the sign end no key, and trimming takes them off
  have hfree : ∀ c, c = '=' ∨ c = ':' → c ∉ key → c ∉ key ++ separator.before := by
    intro c hc hnot hmem
    rcases List.mem_append.1 hmem with hin | hin
    · exact hnot hin
    · have hblank := hbefore c hin
      rw [not_blank_of_isSign hc] at hblank
      cases hblank
  have htrim : Text.trim (key ++ separator.before) = key := by
    rw [Text.trim_append_right hbefore, hkey.trimmed]
  have hhead : (key ++ separator.before ++ separator.sign :: right).head? = key.head? := by
    rw [List.append_assoc]
    exact List.head?_append_of_ne_nil _ hkey.nonempty
  rw [Item.ofLine, hline, Item.ofTrimmed_eq_pair_iff]
  refine ⟨?_, ?_, ?_⟩
  · rintro (hnil | hcomment | hcomment)
    · simp at hnil
    · exact hkey.noComment.1 (hhead ▸ hcomment)
    · exact hkey.noComment.2 (hhead ▸ hcomment)
  · intro hstarts
    exact hkey.noHeader (hhead ▸ hstarts)
  · apply pair?_eq_some_iff.2
    exact ⟨key ++ separator.before, separator.sign, right, rfl, separator.isSign,
      hfree _ (Or.inl rfl) hkey.noSeparator.1, hfree _ (Or.inr rfl) hkey.noSeparator.2, htrim,
      hright, hkey.nonempty⟩

theorem IsName.oneLine_headerLine (h : IsName name) : '\n' ∉ headerLine name := by
  simpa [headerLine] using h.oneLine

theorem IsKey.oneLine_optionLine (separator : Separator) (hkey : IsKey key)
    (hvalue : IsValue value) : '\n' ∉ optionLine separator (key, value) := by
  have hblanks : '\n' ∉ separator.before ∧ '\n' ∉ separator.after := by
    simpa using separator.oneLine
  have hsign : '\n' ≠ separator.sign := by
    intro h
    have hblank : isBlank '\n' = false := h ▸ not_blank_of_isSign separator.isSign
    cases hblank
  simp [optionLine, hkey.oneLine, hvalue.oneLine, hblanks, hsign]

/-! ## Lines below each other -/

variable {number : Nat} {state : State} {lines : List Text}

/-- Lines that are written one below the other are read one after the other. -/
theorem read_ofLines (h : ∀ line ∈ lines, '\n' ∉ line) :
    read (ofLines lines) = (State.run 1 {} lines).map (·.sections) := by
  have hmap : (split (ofLines lines)).map (·.text) =
      lines.map fun line => (dropReturn ⟨line, true⟩).text := by
    rw [ofLines, split_flatMap_lineFeed h, List.map_map]
    rfl
  -- a line that ends with a carriage return loses it, and trimming takes it off anyway
  rw [read, hmap, State.run_map fun line => Text.trim_dropReturn ⟨line, true⟩]

/-! ## One section -/

variable {separator : Text → Separator} {options : List (Text × Text)}

/-- An option as it is read: its key is put into small letters. -/
def lowered (option : Text × Text) : Text × Text :=
  (Text.lowercase option.1, option.2)

theorem lineFeed_not_mem_sectionLines (hname : IsName name)
    (h : ∀ option ∈ options, IsKey option.1 ∧ IsValue option.2) :
    ∀ line ∈ sectionLines separator name options, '\n' ∉ line := by
  intro line hline
  rcases List.mem_cons.1 hline with rfl | hline
  · exact hname.oneLine_headerLine
  · rcases List.mem_map.1 hline with ⟨option, hoption, rfl⟩
    rcases h option hoption with ⟨hkey, hvalue⟩
    exact hkey.oneLine_optionLine _ hvalue

/-- Options that are written in a section are set in that section, in their order. -/
theorem State.run_optionLines (h : ∀ option ∈ options, IsKey option.1 ∧ IsValue option.2)
    (sections : Sections) (held : Options) :
    State.run number ⟨sections.set name held, some name⟩
        (options.map fun option => optionLine (separator option.1) option) =
      .ok ⟨sections.set name ((options.map lowered).foldl
        (fun options (key, value) => options.set key value) held), some name⟩ := by
  induction options generalizing number held with
  | nil => rfl
  | cons option rest ih =>
      rcases List.forall_mem_cons.1 h with ⟨⟨hkey, hvalue⟩, hrest⟩
      have hline : Item.ofLine (optionLine (separator option.1) option) =
          .pair option.1 option.2 := hkey.ofLine _ hvalue
      have hset : setOption (sections.set name held) name (Text.lowercase option.1) option.2 =
          sections.set name (held.set (Text.lowercase option.1) option.2) :=
        Dict.update_set sections name held _
      -- the section is replaced as a whole, so the rest starts from the options held by now
      rw [List.map_cons, State.run, hline, State.step]
      simp only [hset]
      exact ih hrest _

/-- The lines of a section set its options one after the other, on top of those that a section of
that name has already. -/
theorem State.run_sectionLines (hname : IsName name)
    (h : ∀ option ∈ options, IsKey option.1 ∧ IsValue option.2) :
    state.run number (sectionLines separator name options) =
      .ok ⟨state.sections.set name ((options.map lowered).foldl
        (fun options (key, value) => options.set key value) (optionsOf state.sections name)),
        some name⟩ := by
  have hopen : openSection state.sections name =
      state.sections.set name (optionsOf state.sections name) :=
    Dict.update_eq_set _ _ _
  rw [sectionLines, State.run, hname.ofLine, State.step]
  simp only [hopen]
  exact State.run_optionLines h _ _

/-- A section on its own is read as its options, set one after the other. -/
theorem read_section (separator : Text → Separator) (hname : IsName name)
    (h : ∀ option ∈ options, IsKey option.1 ∧ IsValue option.2) :
    read (ofLines (sectionLines separator name options)) =
      .ok (Dict.empty.set name (Dict.ofList (options.map lowered))) := by
  rw [read_ofLines (lineFeed_not_mem_sectionLines hname h), State.run_sectionLines hname h]
  rfl

/-! ## All sections -/

variable {entries : List (Text × Options)} {choice : Text → Text → Separator}

theorem map_lowered (h : ∀ option ∈ options, IsOption option) : options.map lowered = options := by
  have hsame : ∀ option ∈ options, lowered option = option := by
    intro option hoption
    exact Prod.ext (h option hoption).small rfl
  rw [List.map_congr_left hsame, List.map_id']

theorem IsSection.keysAndValues {entry : Text × Options} (h : IsSection entry) :
    ∀ option ∈ entry.2.entries, IsKey option.1 ∧ IsValue option.2 := by
  intro option hoption
  exact ⟨(h.options option hoption).key, (h.options option hoption).value⟩

/-- A new section with its options in small letters is read as it was written. -/
theorem IsSection.run {entry : Text × Options} (h : IsSection entry)
    (hfresh : entry.1 ∉ state.sections.keys) :
    state.run number (sectionLines separator entry.1 entry.2.entries) =
      .ok ⟨state.sections.set entry.1 entry.2, some entry.1⟩ := by
  have hempty : optionsOf state.sections entry.1 = Dict.empty := by
    rw [optionsOf, Dict.get?_eq_none_iff.2 hfresh]
    rfl
  rw [State.run_sectionLines h.name h.keysAndValues, hempty, map_lowered h.options, ← Dict.ofList,
    Dict.ofList_entries]

theorem State.run_linesOf (h : ∀ entry ∈ entries, IsSection entry)
    (hnodup : (state.sections.keys ++ entries.map (·.1)).Nodup) :
    ∃ current, state.run number (linesOf choice entries) =
      .ok ⟨entries.foldl (fun sections (name, options) => sections.set name options)
        state.sections, current⟩ := by
  induction entries generalizing number state with
  | nil => exact ⟨state.current, rfl⟩
  | cons entry rest ih =>
      rcases List.forall_mem_cons.1 h with ⟨hentry, hrest⟩
      have hfresh : entry.1 ∉ state.sections.keys := by
        intro hmem
        exact (List.nodup_append.1 hnodup).2.2 _ hmem _ List.mem_cons_self rfl
      -- the names of the sections behind are still new
      have hlater : ((state.sections.set entry.1 entry.2).keys ++ rest.map (·.1)).Nodup := by
        rw [Dict.set, Dict.keys_update, if_neg hfresh, List.append_assoc]
        exact hnodup
      rw [linesOf, List.flatMap_cons, State.run_append, hentry.run hfresh]
      exact ih hrest hlater

/-! ## Writing and reading -/

theorem lineFeed_not_mem_linesOf (h : ∀ entry ∈ entries, IsSection entry) :
    ∀ line ∈ linesOf choice entries, '\n' ∉ line := by
  intro line hline
  rcases List.mem_flatMap.1 hline with ⟨entry, hentry, hline⟩
  exact lineFeed_not_mem_sectionLines (h entry hentry).name (h entry hentry).keysAndValues _ hline

theorem WellFormed.read_write {sections : Sections} (h : WellFormed sections)
    (choice : Text → Text → Separator) : read (write choice sections) = .ok sections := by
  have hnodup : (({} : State).sections.keys ++ sections.entries.map (·.1)).Nodup := sections.nodup
  have hrun : ∃ current, State.run 1 {} (linesOf choice sections.entries) =
      .ok ⟨Dict.ofList sections.entries, current⟩ :=
    State.run_linesOf h hnodup
  rcases hrun with ⟨current, hrun⟩
  rw [write, read_ofLines (lineFeed_not_mem_linesOf h), hrun, Dict.ofList_entries]
  rfl

/-- Well-formed sections are read as they were written, with any separators.  Everything that is
read is well formed, so it can be written and read again without loss. -/
theorem read_write_exact :
    (∀ sections choice, WellFormed sections → read (write choice sections) = .ok sections) ∧
      ∀ content sections, read content = .ok sections →
        WellFormed sections ∧ ∀ choice, read (write choice sections) = .ok sections := by
  constructor
  · intro sections choice h
    exact h.read_write choice
  · intro content sections hread
    have hwell : WellFormed sections := wellFormed_of_read hread
    exact ⟨hwell, hwell.read_write⟩

/-- Values that look like everything but values, and keys with capitals that have no single small
letter. -/
def tangled : Text :=
  "; x = y\n[ a;b ]\nΟΔΟΣ: = # [x]\n[c]\n x y=\r\nk = u\rv:\n[a;b]\nİ:=\n".toList

/-- Colons without blanks in one section, equal signs between spaces in the others. -/
def mixed (name _key : Text) : Separator :=
  if name = ['c'] then ⟨[], ':', [], Or.inr rfl, nofun, nofun⟩ else .spaced

theorem read_write_exact_tangled :
    ∃ sections, read tangled = .ok sections ∧ WellFormed sections ∧
      read (write mixed sections) = .ok sections ∧
      (optionsOf sections "a;b".toList).entries =
        [("οδος".toList, "= # [x]".toList), ("i\u0307".toList, "=".toList)] ∧
      (optionsOf sections "c".toList).entries =
        [("x y".toList, []), ("k".toList, "u\rv:".toList)] := by
  have hread : (read tangled).toOption.map (fun sections =>
      ((optionsOf sections "a;b".toList).entries, (optionsOf sections "c".toList).entries)) =
      some ([("οδος".toList, "= # [x]".toList), ("i\u0307".toList, "=".toList)],
        [("x y".toList, []), ("k".toList, "u\rv:".toList)]) := by
    decide +kernel
  rcases Option.map_eq_some_iff.1 hread with ⟨sections, hsections, hentries⟩
  rcases Prod.mk.inj hentries with ⟨hfirst, hsecond⟩
  have hsections := toOption_eq_some_iff.1 hsections
  -- what was read is well formed, and can be written with other separators
  have hwell := (read_write_exact.2 _ _ hsections).1
  have hagain := read_write_exact.1 sections mixed hwell
  exact ⟨sections, hsections, hwell, hagain, hfirst, hsecond⟩

end Ini

end TextHygiene
