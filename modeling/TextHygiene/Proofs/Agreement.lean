import TextHygiene.Proofs.Resolve

/-!
# Options that agree with settings

What one option does to settings, key by key: it changes what they hold under its own key and
nothing else.  So options that all agree with some settings lead to them, in whatever order they are
laid on and however often a key comes up, if they mention every key in which the settings at the
start are different.
-/

namespace TextHygiene

namespace Settings

/-! ## What settings hold -/

/-- What stands under one key. -/
inductive Content where
  | size (n : UInt64)
  | marker (text : Option Text)
  | toggle (off : Bool)
deriving DecidableEq, Repr

/-- What settings hold under a key. -/
def content (settings : Settings) : Key → Content
  | .indentSize => .size settings.indentSize
  | .maxLineLength => .size settings.maxLineLength
  | .headerLength => .size settings.headerLength
  | .maxBlankLines => .size settings.maxBlankLines
  | .lineComment => .marker settings.lineComment
  | .toggle rule => .toggle (settings.disabled rule)

def Key.content? (value : Text) : Key → Option Content
  | .lineComment => some (.marker (if value.isEmpty then none else some value))
  | .toggle _ => (toggle? value).map fun on => .toggle !on
  | _ => (size? value).map fun n => .size n.val

/-- Settings are the same if they hold the same under every key. -/
theorem ext_content {a b : Settings} (h : ∀ key, a.content key = b.content key) : a = b := by
  have hdisabled : a.disabled = b.disabled := by
    funext rule
    exact Content.toggle.inj (h (.toggle rule))
  rcases a with ⟨indent, length, header, blank, marker, disabled⟩
  cases Content.size.inj (h .indentSize)
  cases Content.size.inj (h .maxLineLength)
  cases Content.size.inj (h .headerLength)
  cases Content.size.inj (h .maxBlankLines)
  cases Content.marker.inj (h .lineComment)
  cases hdisabled
  rfl

/-! ## One option -/

variable {settings target : Settings} {name key value : Text} {own : Key} {content : Content}

/-- An option with a known key puts what its value stands for under that key. -/
theorem applyOption_content (name : Text) (settings : Settings) (hkey : Key.of? key = some own)
    (hvalue : own.content? value = some content) :
    ∃ next, applyOption name settings (key, value) = .ok next ∧
      ∀ other, next.content other = if other = own then content else settings.content other := by
  cases own with
  | lineComment =>
      cases hvalue
      refine ⟨{ settings with lineComment := if value.isEmpty then none else some value }, ?_, ?_⟩
      · simp only [applyOption, hkey]
      · intro other
        cases other with
        | _ => rfl
  | toggle rule =>
      rcases Option.map_eq_some_iff.1 hvalue with ⟨on, htoggle, rfl⟩
      refine ⟨settings.setRule rule on, ?_, ?_⟩
      · simp only [applyOption, hkey, htoggle]
      · intro other
        cases other with
        | toggle changed =>
            simp only [Settings.content, setRule_disabled, Key.toggle.injEq, eq_comm (a := rule)]
            split
            · rfl
            · rfl
        | _ => rfl
  | _ =>
      -- the four sizes
      rcases Option.map_eq_some_iff.1 hvalue with ⟨n, hsize, rfl⟩
      apply Exists.intro
      constructor
      · simp only [applyOption, hkey, hsize]
        rfl
      · intro other
        cases other with
        | _ => rfl

/-! ## Many options -/

/-- What an option says about its key is what the settings hold under it.  An option with an unknown
key says nothing. -/
def Agrees (target : Settings) (option : Text × Text) : Prop :=
  ∀ key, Key.of? option.1 = some key → key.content? option.2 = some (target.content key)

def knownKeys (options : List (Text × Text)) : List Key :=
  options.filterMap fun option => Key.of? option.1

/-- An option that agrees with settings brings its own key in line with them and leaves the other
keys alone. -/
theorem applyOption_of_agrees {option : Text × Text} (h : Agrees target option) (name : Text)
    (settings : Settings) :
    ∃ next, applyOption name settings option = .ok next ∧
      ∀ key, next.content key =
        if Key.of? option.1 = some key then target.content key else settings.content key := by
  cases hkey : Key.of? option.1 with
  | none =>
      -- an unknown key changes nothing
      refine ⟨settings, ?_, ?_⟩
      · simp only [applyOption, hkey]
      · intro key
        rfl
  | some own =>
      -- a known key takes its value, which is that of the target by agreement
      rcases applyOption_content name settings hkey (h own hkey) with ⟨next, hnext, hcontent⟩
      refine ⟨next, hnext, ?_⟩
      intro key
      rw [hcontent]
      by_cases hown : key = own
      · rw [if_pos hown, if_pos (congrArg some hown.symm), hown]
      · rw [if_neg hown, if_neg fun hsame => hown (Option.some.inj hsame).symm]

/-- After options that agree with settings all keys that they mention are in line with them. -/
theorem applyOptions_of_agrees {options : List (Text × Text)}
    (h : ∀ option ∈ options, Agrees target option) (name : Text) (settings : Settings) :
    ∃ final, applyOptions name settings options = .ok final ∧
      ∀ key, final.content key =
        if key ∈ knownKeys options then target.content key else settings.content key := by
  induction options generalizing settings with
  | nil => exact ⟨settings, rfl, fun key => rfl⟩
  | cons option rest ih =>
      rcases List.forall_mem_cons.1 h with ⟨hfirst, hrest⟩
      rcases applyOption_of_agrees hfirst name settings with ⟨next, hnext, hcontent⟩
      rcases ih hrest next with ⟨final, hfinal, hcontents⟩
      refine ⟨final, ?_, ?_⟩
      · rw [applyOptions, hnext]
        exact hfinal
      · intro key
        -- the option has a say unless a later one has, and both would say the same
        have hmem : key ∈ knownKeys (option :: rest) ↔
            Key.of? option.1 = some key ∨ key ∈ knownKeys rest := by
          simp [knownKeys, List.mem_filterMap]
        rw [hcontents, hcontent]
        by_cases hlater : key ∈ knownKeys rest
        · rw [if_pos hlater, if_pos (hmem.2 (Or.inr hlater))]
        · rw [if_neg hlater]
          by_cases hown : Key.of? option.1 = some key
          · rw [if_pos hown, if_pos (hmem.2 (Or.inl hown))]
          · rw [if_neg hown, if_neg fun hin => (hmem.1 hin).elim hown hlater]

/-- Options that agree with settings and mention every key in which the start is different lead to
those settings. -/
theorem applyOptions_eq_ok {options : List (Text × Text)}
    (h : ∀ option ∈ options, Agrees target option)
    (hstart : ∀ key, key ∉ knownKeys options → settings.content key = target.content key)
    (name : Text) : applyOptions name settings options = .ok target := by
  rcases applyOptions_of_agrees h name settings with ⟨final, hfinal, hcontents⟩
  have hsame : final = target := by
    apply ext_content
    intro key
    rw [hcontents]
    split
    · rfl
    · next hnot => exact hstart key hnot
  rw [hfinal, hsame]

end Settings

end TextHygiene
