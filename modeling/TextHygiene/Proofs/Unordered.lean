import TextHygiene.Proofs.Failing

/-!
# Order and repetition on a command line

Extensions and ignore patterns are lists on a command line and sets in what they mean.  Three stages
look at their order: extensions are put into a list without repetitions, settings into a dictionary
in that order, and a file is matched with the first extension and the first pattern that fit.  Each
of these stages only hands on what depends on the members, so that a report does not depend on the
order and on repetitions.  Which fault ends a run may depend on them, but not whether one does.
-/

namespace TextHygiene

/-- Two command lines that ask for the same: they differ at most in the order of their extensions
and ignore patterns and in how often each is given. -/
structure CommandLine.SameRequest (a b : CommandLine) : Prop where
  extensions : ∀ raw, raw ∈ a.extensions ↔ raw ∈ b.extensions
  ignore : ∀ raw, raw ∈ a.ignore ↔ raw ∈ b.ignore
  others : { a with extensions := b.extensions, ignore := b.ignore } = b

theorem CommandLine.SameRequest.symm {a b : CommandLine} (h : a.SameRequest b) :
    b.SameRequest a := by
  refine ⟨fun raw => (h.extensions raw).symm, fun raw => (h.ignore raw).symm, ?_⟩
  rw [← h.others]

/-! ## Extensions -/

theorem mem_addExtension_iff {extensions : List Text} {raw e : Text} :
    e ∈ addExtension extensions raw ↔ e ∈ extensions ∨ e ≠ [] ∧ bareExtension raw = e := by
  by_cases hempty : bareExtension raw = []
  · -- a text that stands for nothing, or for what is there already, adds nothing
    have hkept : addExtension extensions raw = extensions := by
      simp [addExtension, hempty]
    have hnot : ¬ (e ≠ [] ∧ bareExtension raw = e) := by
      rintro ⟨hne, rfl⟩
      exact hne hempty
    rw [hkept, or_iff_left hnot]
  · by_cases hmem : bareExtension raw ∈ extensions
    · have hkept : addExtension extensions raw = extensions := by
        simp [addExtension, hmem]
      have hold : e ≠ [] ∧ bareExtension raw = e → e ∈ extensions := by
        rintro ⟨_, rfl⟩
        exact hmem
      rw [hkept, or_iff_left_of_imp hold]
    · have hadded : addExtension extensions raw = extensions ++ [bareExtension raw] := by
        simp [addExtension, hempty, hmem]
      have hnew : e = bareExtension raw ↔ e ≠ [] ∧ bareExtension raw = e := by
        constructor
        · rintro rfl
          exact ⟨hempty, rfl⟩
        · rintro ⟨_, rfl⟩
          rfl
      rw [hadded, List.mem_append, List.mem_singleton, hnew]

/-- The extensions that are left are those that some text stands for. -/
theorem mem_foldl_addExtension_iff {raws extensions : List Text} {e : Text} :
    e ∈ raws.foldl addExtension extensions ↔
      e ∈ extensions ∨ e ≠ [] ∧ ∃ raw ∈ raws, bareExtension raw = e := by
  induction raws generalizing extensions with
  | nil => simp
  | cons raw rest ih =>
      rw [List.foldl_cons, ih, mem_addExtension_iff, or_assoc, ← and_or_left,
        List.exists_mem_cons_iff]

theorem normalizeExtensions_eq_ok_iff {raws extensions : List Text} :
    normalizeExtensions raws = .ok extensions ↔
      raws.foldl addExtension [] = extensions ∧ extensions ≠ [] := by
  rw [normalizeExtensions]
  cases hfold : raws.foldl addExtension [] with
  | nil => simp [eq_comm]
  | cons e rest =>
      simp only [Except.ok.injEq]
      refine (and_iff_left_of_imp ?_).symm
      rintro rfl
      exact List.cons_ne_nil e rest

/-- The extensions to inspect, as a set, are the bare ones that are not empty. -/
theorem mem_of_normalizeExtensions {raws extensions : List Text}
    (h : normalizeExtensions raws = .ok extensions) {e : Text} :
    e ∈ extensions ↔ e ≠ [] ∧ ∃ raw ∈ raws, bareExtension raw = e := by
  rw [← (normalizeExtensions_eq_ok_iff.1 h).1, mem_foldl_addExtension_iff]
  exact or_iff_right List.not_mem_nil

/-- Order and repetitions decide neither whether extensions are left nor which. -/
theorem exists_normalizeExtensions {raws raws' extensions : List Text}
    (hsame : ∀ raw, raw ∈ raws ↔ raw ∈ raws') (h : normalizeExtensions raws = .ok extensions) :
    ∃ extensions', normalizeExtensions raws' = .ok extensions' ∧
      ∀ e, e ∈ extensions ↔ e ∈ extensions' := by
  have hmem : ∀ e, e ∈ extensions ↔ e ∈ raws'.foldl addExtension [] := by
    intro e
    rw [mem_of_normalizeExtensions h, mem_foldl_addExtension_iff, or_iff_right List.not_mem_nil]
    simp only [hsame]
  -- something is left of the first texts, and so of the others
  have hne : raws'.foldl addExtension [] ≠ [] := by
    intro hnil
    apply (normalizeExtensions_eq_ok_iff.1 h).2
    rw [List.eq_nil_iff_forall_not_mem]
    intro e he
    have hin := (hmem e).1 he
    rw [hnil] at hin
    exact List.not_mem_nil hin
  exact ⟨_, normalizeExtensions_eq_ok_iff.2 ⟨rfl, hne⟩, hmem⟩

/-! ## Settings -/

namespace Settings

variable {sections : Sections} {extensions extensions' : List Text}

theorem exists_resolveAll_iff :
    (∃ resolved, resolveAll sections extensions = .ok resolved) ↔
      ∀ e ∈ extensions, ∃ settings, resolve sections e = .ok settings := by
  simp only [exists_ok_iff, ne_eq, resolveAll_eq_error_iff, forall_not_firstFault_iff]

/-- Every extension has the same settings, in whatever order they are resolved. -/
theorem exists_resolveAll (hsame : ∀ e, e ∈ extensions ↔ e ∈ extensions')
    {resolved : Dict Settings} (h : resolveAll sections extensions = .ok resolved) :
    ∃ resolved', resolveAll sections extensions' = .ok resolved' ∧
      ∀ e ∈ extensions, resolved.get? e = resolved'.get? e := by
  have hall : ∀ e ∈ extensions', ∃ settings, resolve sections e = .ok settings := by
    intro e he
    exact exists_resolveAll_iff.1 ⟨resolved, h⟩ e ((hsame e).2 he)
  rcases exists_resolveAll_iff.2 hall with ⟨resolved', h'⟩
  refine ⟨resolved', h', ?_⟩
  intro e he
  -- both hold what the extension resolves to on its own
  rcases get?_of_resolveAll h he with ⟨settings, hsettings, hget⟩
  rcases get?_of_resolveAll h' ((hsame e).1 he) with ⟨settings', hsettings', hget'⟩
  have heq : settings = settings' := Except.ok.inj (hsettings.symm.trans hsettings')
  rw [hget, hget', heq]

end Settings

/-! ## Filters -/

/-- Two filters that keep the same files and find the same extensions. -/
structure Filter.Alike (f g : Filter) : Prop where
  extension? : ∀ path, f.extension? path = g.extension? path
  includes : ∀ path, f.includes path = g.includes path

section Filters

variable {extensions extensions' ignore ignore' : List Text}

/-- Which paths are wanted depends on no order. -/
theorem wanted_congr (hextensions : ∀ e, e ∈ extensions ↔ e ∈ extensions')
    (hignore : ∀ raw, raw ∈ ignore ↔ raw ∈ ignore') {path : Path} :
    Wanted extensions ignore path ↔ Wanted extensions' ignore' path := by
  simp only [Wanted, hextensions, hignore]

/-- Extensions and patterns in another order make a filter that is alike. -/
theorem Filter.exists_compile (hextensions : ∀ e, e ∈ extensions ↔ e ∈ extensions')
    (hignore : ∀ raw, raw ∈ ignore ↔ raw ∈ ignore') {filter : Filter}
    (h : Filter.compile extensions ignore = .ok filter) :
    ∃ filter', Filter.compile extensions' ignore' = .ok filter' ∧ filter.Alike filter' := by
  have hvalid : ∀ raw ∈ ignore', ∃ pattern, Pattern.compile raw = .ok pattern := by
    intro raw hraw
    exact Filter.exists_compile_iff.1 ⟨filter, h⟩ raw ((hignore raw).2 hraw)
  rcases Filter.exists_compile_iff.2 hvalid with ⟨filter', h'⟩
  refine ⟨filter', h', ⟨?_, ?_⟩⟩
  · -- the extension that is found is the path's own
    intro path
    apply Option.ext
    intro e
    rw [Filter.extension?_eq_some_iff, Filter.extension?_eq_some_iff,
      (Filter.compile_eq_ok_iff.1 h).1, (Filter.compile_eq_ok_iff.1 h').1, hextensions]
  · intro path
    rw [Bool.eq_iff_iff, Filter.includes_iff_wanted h, Filter.includes_iff_wanted h']
    exact wanted_congr hextensions hignore

end Filters

/-! ## Selections -/

section Selections

variable {ws : Workspace} {f g : Filter}

/-- Filters that are alike find the same below a root. -/
theorem Filter.Alike.ofVisits (h : f.Alike g) (ws : Workspace) (visits : List Visit) :
    Scan.ofVisits ws f visits = Scan.ofVisits ws g visits := by
  have hfile : Scan.file? ws f = Scan.file? ws g := by
    funext visit
    cases visit with
    | entry path isLink => simp only [Scan.file?, h.includes]
    | unreadable path fault => rfl
  simp only [Scan.ofVisits, hfile]

theorem Filter.Alike.scansOf (h : f.Alike g) {paths : List Path} {scans : List Scan} :
    ScansOf ws f paths scans ↔ ScansOf ws g paths scans := by
  simp only [ScansOf, scan_outcome_eq_ok_iff, h.ofVisits]

theorem Filter.Alike.ofScans (h : f.Alike g) (scans : List Scan) :
    Selection.ofScans f scans = Selection.ofScans g scans := by
  simp only [Selection.ofScans, Selection.tagged, h.extension?]

/-- A selection does not depend on the order of extensions and patterns. -/
theorem select_of_sameMembers {paths extensions extensions' ignore ignore' : List Text}
    (hextensions : ∀ e, e ∈ extensions ↔ e ∈ extensions')
    (hignore : ∀ raw, raw ∈ ignore ↔ raw ∈ ignore') {selection : Selection}
    (h : (ws.select paths extensions ignore).outcome = .ok selection) :
    (ws.select paths extensions' ignore').outcome = .ok selection := by
  rcases select_outcome_eq_ok_iff.1 h with ⟨filter, scans, hfilter, hscans, rfl⟩
  rcases Filter.exists_compile hextensions hignore hfilter with ⟨filter', hfilter', halike⟩
  exact select_outcome_eq_ok_iff.2
    ⟨filter', scans, hfilter', halike.scansOf.1 hscans, halike.ofScans scans⟩

theorem extension_mem_of_select {paths extensions ignore : List Text} {selection : Selection}
    (h : (ws.select paths extensions ignore).outcome = .ok selection) {file : SelectedFile}
    (hfile : file ∈ selection.files) : file.extension ∈ extensions := by
  rcases (mem_files_of_select_iff h).1 hfile with ⟨_, _, ⟨⟨e, he, hextension⟩, _⟩, hown⟩
  rw [hown] at hextension
  cases hextension
  exact he

end Selections

/-! ## Reports -/

section Reports

variable {ws : Workspace} {a b : CommandLine}

/-- Dictionaries with the same settings for the extensions of some files make the same findings. -/
theorem findingsOfFiles_congr {resolved resolved' : Dict Settings} {files : List SelectedFile}
    (h : ∀ file ∈ files, resolved.get? file.extension = resolved'.get? file.extension) :
    ws.findingsOfFiles resolved files = ws.findingsOfFiles resolved' files := by
  apply List.map_congr_left
  intro file hfile
  rw [settingsFor, settingsFor, h file hfile]

/-- A run that comes to a report comes to the same one for the same request. -/
theorem inspectAll_of_sameRequest (h : a.SameRequest b) {report : Report}
    (hreport : (ws.inspectAll a).outcome = .ok report) :
    (ws.inspectAll b).outcome = .ok report := by
  rcases inspectAll_outcome_eq_ok_iff.1 hreport with
    ⟨extensions, config, resolved, selection, hextensions, hconfig, hresolved, hselection, rfl⟩
  rcases exists_normalizeExtensions h.extensions hextensions with
    ⟨extensions', hextensions', hsame⟩
  rcases Settings.exists_resolveAll hsame hresolved with ⟨resolved', hresolved', hget⟩
  have hselection' : (ws.select a.paths extensions' b.ignore).outcome = .ok selection :=
    select_of_sameMembers hsame h.ignore hselection
  -- every selected file has one of the extensions, and so the same settings
  have hfindings : ws.findingsOfFiles resolved selection.files =
      ws.findingsOfFiles resolved' selection.files := by
    apply findingsOfFiles_congr
    intro file hfile
    exact hget _ (extension_mem_of_select hselection hfile)
  rw [hfindings, ← h.others]
  exact inspectAll_outcome_eq_ok_iff.2
    ⟨extensions', config, resolved', selection, hextensions', hconfig, hresolved', hselection', rfl⟩

/-- Command lines that ask for the same have the same report, or none of them has one. -/
theorem inspectAll_sameRequest (ws : Workspace) (h : a.SameRequest b) (report : Report) :
    (ws.inspectAll a).outcome = .ok report ↔ (ws.inspectAll b).outcome = .ok report := by
  constructor
  · exact inspectAll_of_sameRequest h
  · exact inspectAll_of_sameRequest h.symm

end Reports

/-- Asks for the files of `twoLanguages` but for one of them. -/
def askedOnce : CommandLine where
  extensions := ["js".toList, ".py".toList]
  paths := ["b.js".toList, "a.py".toList]
  ignore := ["b".toList, "/docs/".toList]

def askedAgain : CommandLine :=
  { askedOnce with
    extensions := [".py".toList, "js".toList, ".py".toList]
    ignore := ["/docs/".toList, "b".toList, "/docs/".toList] }

/-- Two requests that differ in order and repetitions come to one report. -/
theorem inspectAll_sameRequest_askedAgain :
    askedOnce.SameRequest askedAgain ∧
      (twoLanguages.inspectAll askedOnce).outcome =
        .ok { findings := [faultOfPython], filesInspected := 1 } ∧
      (twoLanguages.inspectAll askedAgain).outcome =
        .ok { findings := [faultOfPython], filesInspected := 1 } := by
  have hsame : askedOnce.SameRequest askedAgain := by
    refine ⟨?_, ?_, rfl⟩
    · intro raw
      simp only [askedOnce, askedAgain, List.mem_cons, List.not_mem_nil, or_false]
      grind
    · intro raw
      simp only [askedOnce, askedAgain, List.mem_cons, List.not_mem_nil, or_false]
      grind
  have honce : (twoLanguages.inspectAll askedOnce).outcome =
      .ok { findings := [faultOfPython], filesInspected := 1 } := by
    decide +kernel
  exact ⟨hsame, honce, (inspectAll_sameRequest twoLanguages hsame _).1 honce⟩

end TextHygiene
