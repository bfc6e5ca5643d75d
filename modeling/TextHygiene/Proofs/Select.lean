import TextHygiene.Proofs.Stages
import TextHygiene.Selection

/-!
# What a selection is made of

A selection succeeds exactly if the ignore patterns can be used and every root can be scanned, and
then it is the scans of the roots one after the other.  Nothing that a scan has kept is lost when
files are tagged with their extensions.
-/

namespace TextHygiene

variable {ws : Workspace} {filter : Filter}

/-! ## Filters -/

/-- A filter has the extensions as they are, and every ignore pattern prepared. -/
theorem Filter.compile_eq_ok_iff {extensions ignore : List Text} :
    Filter.compile extensions ignore = .ok filter ↔
      filter.extensions = extensions ∧
        List.Forall₂ (fun raw pattern => Pattern.compile raw = .ok pattern) ignore
          filter.ignore := by
  rcases filter with ⟨extensions', ignore'⟩
  rw [Filter.compile, map_eq_ok_iff]
  simp only [mapM_eq_ok_iff, Filter.mk.injEq]
  constructor
  · rintro ⟨patterns, hpatterns, rfl, rfl⟩
    exact ⟨rfl, hpatterns⟩
  · rintro ⟨rfl, hpatterns⟩
    exact ⟨ignore', hpatterns, rfl, rfl⟩

theorem Filter.exists_compile_iff {extensions ignore : List Text} :
    (∃ filter, Filter.compile extensions ignore = .ok filter) ↔
      ∀ raw ∈ ignore, ∃ pattern, Pattern.compile raw = .ok pattern := by
  simp only [exists_ok_iff, ne_eq, Filter.compile, map_eq_error_iff, mapM_eq_error_iff,
    forall_not_firstFault_iff]

/-- The extension that a filter finds is the path's own, and is one of those to inspect. -/
theorem Filter.extension?_eq_some_iff {path : Path} {e : Text} :
    filter.extension? path = some e ↔ path.extension? = some e ∧ e ∈ filter.extensions := by
  simp only [Filter.extension?, Option.bind_eq_some_iff]
  constructor
  · rintro ⟨own, hown, hfound⟩
    have heq : e = own := by
      simpa using List.find?_some hfound
    subst heq
    exact ⟨hown, List.mem_of_find?_eq_some hfound⟩
  · rintro ⟨hown, hmem⟩
    refine ⟨e, hown, ?_⟩
    -- the first match is equal to it
    cases hfound : filter.extensions.find? (· == e) with
    | none => simpa using List.find?_eq_none.1 hfound e hmem
    | some found =>
        have heq : found = e := by
          simpa using List.find?_some hfound
        rw [heq]

/-! ## One root -/

/-- A root is walked if it leads to something other than a directory that cannot be listed. -/
theorem rootVisits_eq_ok_iff {path : Path} {visits : List Visit} :
    ws.rootVisits path = .ok visits ↔
      ∃ tree, ws.find path = .ok tree ∧
        (∀ enterable entries, tree ≠ .directory false enterable entries) ∧
        visits = tree.visits path true := by
  rw [Workspace.rootVisits]
  cases ws.find path with
  | error fault => simp
  | ok tree =>
      cases tree with
      | file => simp [eq_comm]
      | link => simp [eq_comm]
      | directory listable enterable entries =>
          cases listable with
          | true => simp [eq_comm]
          | false => simp

/-- A scan succeeds if its root can be visited, and amounts to what is met there. -/
theorem scan_outcome_eq_ok_iff {path : Path} {found : Scan} :
    (ws.scan filter path).outcome = .ok found ↔
      ∃ visits, ws.rootVisits path = .ok visits ∧ found = Scan.ofVisits ws filter visits := by
  simp only [Workspace.scan, Logged.outcome_bind, Logged.outcome_ofExcept, Logged.outcome_record,
    Logged.outcome_pure, bind_eq_ok_iff, Except.ok.injEq]
  constructor
  · rintro ⟨visits, hvisits, _, _, _, _, rfl⟩
    exact ⟨visits, hvisits, rfl⟩
  · rintro ⟨visits, hvisits, rfl⟩
    exact ⟨visits, hvisits, (), trivial, (), trivial, rfl⟩

/-- The files of a scan are the entries that are met, lead to files and pass the filter. -/
theorem Scan.mem_files_ofVisits_iff {visits : List Visit} {path : Path} :
    path ∈ (Scan.ofVisits ws filter visits).files ↔
      (∃ isLink, Visit.entry path isLink ∈ visits) ∧ ws.isFile path = true ∧
        filter.includes path = true := by
  simp only [Scan.ofVisits, List.mem_mergeSort, List.mem_filterMap]
  constructor
  · rintro ⟨visit, hvisit, hfile⟩
    cases visit with
    | entry path' isLink =>
        simp only [Scan.file?] at hfile
        split at hfile
        · next hkept =>
            cases hfile
            exact ⟨⟨isLink, hvisit⟩, Bool.and_eq_true_iff.1 hkept⟩
        · simp at hfile
    | unreadable path' fault => simp [Scan.file?] at hfile
  · rintro ⟨⟨isLink, hvisit⟩, hfile, hincludes⟩
    exact ⟨_, hvisit, by simp [Scan.file?, hfile, hincludes]⟩

/-- What a scan skips is what it meets without being able to read it. -/
theorem Scan.mem_skipped_ofVisits_iff {visits : List Visit} {path : Path} :
    path ∈ (Scan.ofVisits ws filter visits).skipped ↔
      ∃ fault, Visit.unreadable path fault ∈ visits := by
  simp only [Scan.ofVisits, List.mem_filterMap]
  constructor
  · rintro ⟨visit, hvisit, hskipped⟩
    cases visit with
    | entry path' isLink => simp [Scan.skipped?] at hskipped
    | unreadable path' fault =>
        cases hskipped
        exact ⟨fault, hvisit⟩
  · rintro ⟨fault, hvisit⟩
    exact ⟨_, hvisit, rfl⟩

/-! ## Tags -/

theorem Selection.mem_tagged_iff {files : List Path} {file : SelectedFile} :
    file ∈ Selection.tagged filter files ↔
      file.path ∈ files ∧ filter.extension? file.path = some file.extension := by
  rcases file with ⟨path, e⟩
  simp only [Selection.tagged, List.mem_filterMap, Option.map_eq_some_iff, SelectedFile.mk.injEq]
  constructor
  · rintro ⟨path', hmem, e', hext, rfl, rfl⟩
    exact ⟨hmem, hext⟩
  · rintro ⟨hmem, hext⟩
    exact ⟨path, hmem, e, hext, rfl, rfl⟩

/-- Tagging drops no file that the filter includes. -/
theorem Selection.map_path_tagged {files : List Path}
    (h : ∀ path ∈ files, filter.includes path = true) :
    (Selection.tagged filter files).map (·.path) = files := by
  induction files with
  | nil => rfl
  | cons path rest ih =>
      have hfirst := h path List.mem_cons_self
      rw [Filter.includes, Bool.and_eq_true_iff, Option.isSome_iff_exists] at hfirst
      rcases hfirst with ⟨⟨e, he⟩, _⟩
      have hrest := ih fun other hmem => h other (List.mem_cons_of_mem path hmem)
      rw [Selection.tagged, List.filterMap_cons, he]
      exact congrArg (path :: ·) hrest

/-! ## All roots -/

def ScansOf (ws : Workspace) (filter : Filter) (paths : List Path) (scans : List Scan) : Prop :=
  List.Forall₂ (fun path found => (ws.scan filter path).outcome = .ok found) paths scans

/-- What some scans amount to. -/
def Selection.ofScans (filter : Filter) (scans : List Scan) : Selection where
  files := scans.flatMap fun found => Selection.tagged filter found.files
  skipped := scans.flatMap (·.skipped)

/-- Scanning several roots adds what each of them holds, in order. -/
theorem scanAll_outcome_eq_ok_iff {paths : List Path} {before after : Selection} :
    (ws.scanAll filter before paths).outcome = .ok after ↔
      ∃ scans, ScansOf ws filter paths scans ∧
        after.files = before.files ++ (Selection.ofScans filter scans).files ∧
        after.skipped = before.skipped ++ (Selection.ofScans filter scans).skipped := by
  -- each root adds to the selection that the roots before it have left
  induction paths generalizing before with
  | nil =>
      rcases before with ⟨files, skipped⟩
      rcases after with ⟨files', skipped'⟩
      simp [Workspace.scanAll, ScansOf, Selection.ofScans, eq_comm]
  | cons path rest ih =>
      simp only [Workspace.scanAll, Logged.outcome_bind, bind_eq_ok_iff, ih]
      constructor
      · rintro ⟨found, hfound, scans, hscans, hfiles, hskipped⟩
        refine ⟨found :: scans, List.Forall₂.cons hfound hscans, ?_, ?_⟩
        · simpa [Selection.add, Selection.ofScans] using hfiles
        · simpa [Selection.add, Selection.ofScans] using hskipped
      · rintro ⟨scans, hscans, hfiles, hskipped⟩
        cases hscans with
        | @cons _ found _ scans hfound hscans =>
            refine ⟨found, hfound, scans, hscans, ?_, ?_⟩
            · simpa [Selection.add, Selection.ofScans] using hfiles
            · simpa [Selection.add, Selection.ofScans] using hskipped

/-- A selection succeeds exactly if the patterns can be used and the roots can be scanned. -/
theorem select_outcome_eq_ok_iff {paths extensions ignore : List Text} {selection : Selection} :
    (ws.select paths extensions ignore).outcome = .ok selection ↔
      ∃ filter scans, Filter.compile extensions ignore = .ok filter ∧
        ScansOf ws filter paths scans ∧ selection = Selection.ofScans filter scans := by
  simp only [Workspace.select, Logged.outcome_bind, Logged.outcome_ofExcept, bind_eq_ok_iff,
    mapError_eq_ok_iff, scanAll_outcome_eq_ok_iff, List.nil_append]
  constructor
  · rintro ⟨filter, hfilter, scans, hscans, hfiles, hskipped⟩
    refine ⟨filter, scans, hfilter, hscans, ?_⟩
    cases selection
    simp_all [Selection.ofScans]
  · rintro ⟨filter, scans, hfilter, hscans, rfl⟩
    exact ⟨filter, hfilter, scans, hscans, rfl, rfl⟩

/-! ## What is selected -/

/-- A path with one of the extensions to inspect, which none of the ignore patterns hits. -/
def Wanted (extensions ignore : List Text) (path : Path) : Prop :=
  (∃ e ∈ extensions, path.extension? = some e) ∧
    ∀ raw ∈ ignore, ∀ pattern, Pattern.compile raw = .ok pattern →
      pattern.hits path.normalized = false

/-- A path passes the filter exactly if it is wanted. -/
theorem Filter.includes_iff_wanted {extensions ignore : List Text} {path : Path}
    (h : Filter.compile extensions ignore = .ok filter) :
    filter.includes path = true ↔ Wanted extensions ignore path := by
  rcases Filter.compile_eq_ok_iff.1 h with ⟨rfl, hpatterns⟩
  have hignore : filter.ignores path = false ↔
      ∀ raw ∈ ignore, ∀ pattern, Pattern.compile raw = .ok pattern →
        pattern.hits path.normalized = false := by
    rw [Filter.ignores]
    -- the pattern that a raw pattern compiles to is the only one
    generalize filter.ignore = patterns at hpatterns
    clear h
    induction hpatterns with
    | nil => simp
    | cons hfirst _ ih =>
        rw [List.any_cons, Bool.or_eq_false_iff, ih, List.forall_mem_cons, hfirst]
        simp
  have hextension : (filter.extension? path).isSome = true ↔
      ∃ e ∈ filter.extensions, path.extension? = some e := by
    rw [Option.isSome_iff_exists]
    exact exists_congr fun e => Filter.extension?_eq_some_iff.trans and_comm
  rw [Filter.includes, Bool.and_eq_true_iff, hextension, Bool.not_eq_true', hignore, Wanted]

theorem ScansOf.mem_iff {paths : List Path} {scans : List Scan}
    (h : ScansOf ws filter paths scans) {found : Scan} :
    found ∈ scans ↔
      ∃ root ∈ paths, ∃ visits, ws.rootVisits root = .ok visits ∧
        found = Scan.ofVisits ws filter visits := by
  induction h with
  | nil => simp
  | cons hfirst _ ih =>
      rcases scan_outcome_eq_ok_iff.1 hfirst with ⟨visits, hvisits, rfl⟩
      rw [List.mem_cons, ih, List.exists_mem_cons_iff, hvisits]
      simp

/-- If a selection succeeds, every root could be visited. -/
theorem rootVisits_of_select {paths extensions ignore : List Text} {selection : Selection}
    (h : (ws.select paths extensions ignore).outcome = .ok selection) {root : Path}
    (hroot : root ∈ paths) : ∃ visits, ws.rootVisits root = .ok visits := by
  rcases select_outcome_eq_ok_iff.1 h with ⟨filter, scans, _, hscans, hselection⟩
  clear h hselection
  induction hscans with
  | nil => exact absurd hroot List.not_mem_nil
  | cons hfirst _ ih =>
      rcases List.mem_cons.1 hroot with rfl | hrest
      · rcases scan_outcome_eq_ok_iff.1 hfirst with ⟨visits, hvisits, _⟩
        exact ⟨visits, hvisits⟩
      · exact ih hrest

/-- The selected files are those that are met below a root, lead to a file and are wanted. -/
theorem mem_files_of_select_iff {paths extensions ignore : List Text} {selection : Selection}
    (h : (ws.select paths extensions ignore).outcome = .ok selection) {file : SelectedFile} :
    file ∈ selection.files ↔
      (∃ root ∈ paths, ∃ visits, ws.rootVisits root = .ok visits ∧
        ∃ isLink, Visit.entry file.path isLink ∈ visits) ∧
      ws.isFile file.path = true ∧ Wanted extensions ignore file.path ∧
        file.path.extension? = some file.extension := by
  rcases select_outcome_eq_ok_iff.1 h with ⟨filter, scans, hfilter, hscans, rfl⟩
  have hincludes : filter.includes file.path = true ↔ Wanted extensions ignore file.path :=
    Filter.includes_iff_wanted hfilter
  have hextensions : filter.extensions = extensions := (Filter.compile_eq_ok_iff.1 hfilter).1
  simp only [Selection.ofScans, List.mem_flatMap, hscans.mem_iff, Selection.mem_tagged_iff]
  constructor
  · rintro ⟨found, ⟨root, hroot, visits, hvisits, rfl⟩, hmem, htag⟩
    rcases Scan.mem_files_ofVisits_iff.1 hmem with ⟨hmet, hfile, hkept⟩
    exact ⟨⟨root, hroot, visits, hvisits, hmet⟩, hfile, hincludes.1 hkept,
      (Filter.extension?_eq_some_iff.1 htag).1⟩
  · rintro ⟨⟨root, hroot, visits, hvisits, hmet⟩, hfile, hwanted, hown⟩
    refine ⟨_, ⟨root, hroot, visits, hvisits, rfl⟩, ?_, ?_⟩
    · exact Scan.mem_files_ofVisits_iff.2 ⟨hmet, hfile, hincludes.2 hwanted⟩
    · -- the extension that makes the file wanted is its own
      rcases hwanted.1 with ⟨e, he, hextension⟩
      rw [hown] at hextension
      cases hextension
      exact Filter.extension?_eq_some_iff.2 ⟨hown, hextensions ▸ he⟩

/-- The skipped paths are those of the directories below a root that could not be listed. -/
theorem mem_skipped_of_select_iff {paths extensions ignore : List Text} {selection : Selection}
    (h : (ws.select paths extensions ignore).outcome = .ok selection) {path : Path} :
    path ∈ selection.skipped ↔
      ∃ root ∈ paths, ∃ visits, ws.rootVisits root = .ok visits ∧
        ∃ fault, Visit.unreadable path fault ∈ visits := by
  rcases select_outcome_eq_ok_iff.1 h with ⟨filter, scans, _, hscans, rfl⟩
  simp only [Selection.ofScans, List.mem_flatMap, hscans.mem_iff]
  constructor
  · rintro ⟨found, ⟨root, hroot, visits, hvisits, rfl⟩, hmem⟩
    exact ⟨root, hroot, visits, hvisits, Scan.mem_skipped_ofVisits_iff.1 hmem⟩
  · rintro ⟨root, hroot, visits, hvisits, hmet⟩
    exact ⟨_, ⟨root, hroot, visits, hvisits, rfl⟩, Scan.mem_skipped_ofVisits_iff.2 hmet⟩

end TextHygiene
