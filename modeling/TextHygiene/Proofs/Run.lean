import TextHygiene.Proofs.Resolve
import TextHygiene.Proofs.Select
import TextHygiene.Run

/-!
# What a run reports

A run that gets as far as a report has inspected every selected file, in the order of selection,
under the settings of that file's own extension.  The stages agree on extensions: the one that a
file is tagged with is its own, it is one of those that were resolved, and its settings are found,
so that no file is passed over and none falls back to the built-in settings.
-/

namespace TextHygiene

variable {ws : Workspace} {cli : CommandLine}

/-! ## The findings of a file -/

/-- A finding of a file comes from an issue of its text, or is the one about a file without a
text. -/
theorem cases_of_mem_inspectFile {settings : Settings} {path : Path} {finding : Finding}
    (h : finding ∈ ws.inspectFile settings path) :
    (∃ contents, ∃ issue ∈ inspect settings contents, finding = Finding.ofIssue path issue) ∨
      ∃ reason : Unreadable, finding = ⟨path, 1, .unreadableFile, reason.message⟩ := by
  rw [Workspace.inspectFile] at h
  cases htext : ws.text path with
  | ok contents =>
      rw [htext, findingsOf] at h
      rcases List.mem_map.1 h with ⟨issue, hissue, rfl⟩
      exact Or.inl ⟨contents, issue, hissue, rfl⟩
  | error reason =>
      rw [htext, findingsOf] at h
      split at h
      · exact Or.inr ⟨reason, List.mem_singleton.1 h⟩
      · cases h

/-! ## The stages of a run -/

theorem Report.ofFiles_eq (files : List (List Finding)) :
    Report.ofFiles files = { findings := files.flatten, filesInspected := files.length } := by
  have hfold : ∀ (report : Report), files.foldl Report.addFile report =
      { report with
        findings := report.findings ++ files.flatten
        filesInspected := report.filesInspected + files.length } := by
    induction files with
    | nil => simp
    | cons findings rest ih =>
        intro report
        simp [ih, Report.addFile, Nat.add_assoc, Nat.add_comm 1]
  simp [Report.ofFiles, hfold]

/-- The findings of the selected files, one list for each file. -/
def Workspace.findingsOfFiles (ws : Workspace) (resolved : Dict Settings)
    (files : List SelectedFile) : List (List Finding) :=
  files.map fun file => ws.inspectFile (settingsFor resolved file) file.path

/-- Apart from its records a run is five stages, one after the other, and the report that they lead
to. -/
theorem inspectAll_outcome (ws : Workspace) (cli : CommandLine) :
    (ws.inspectAll cli).outcome = do
      let extensions ← normalizeExtensions cli.extensions
      let config ← (ws.configStore.load cli.config cli.noConfig).outcome
      let resolved ←
        (Settings.resolveAll config.sections extensions).mapError Failure.badOption
      let selection ← (ws.select cli.paths extensions cli.ignore).outcome
      return (Report.ofFiles (ws.findingsOfFiles resolved selection.files)).addSkipped
        selection.skipped := by
  simp only [Workspace.inspectAll, Logged.outcome_bind, Logged.outcome_ofExcept]
  congr 1
  funext extensions
  congr 1
  funext config
  -- the file of the configuration only adds a record
  cases config.source with
  | none =>
      simp only [Logged.outcome_bind, Logged.outcome_ofExcept, Logged.outcome_record]
      rfl
  | some source =>
      simp only [Logged.outcome_bind, Logged.outcome_ofExcept, Logged.outcome_record]
      rfl

/-- A run comes to a report exactly if all its stages succeed, each with what the ones before have
handed on. -/
theorem inspectAll_outcome_eq_ok_iff {report : Report} :
    (ws.inspectAll cli).outcome = .ok report ↔
      ∃ extensions config resolved selection,
        normalizeExtensions cli.extensions = .ok extensions ∧
        (ws.configStore.load cli.config cli.noConfig).outcome = .ok config ∧
        Settings.resolveAll config.sections extensions = .ok resolved ∧
        (ws.select cli.paths extensions cli.ignore).outcome = .ok selection ∧
        report =
          (Report.ofFiles (ws.findingsOfFiles resolved selection.files)).addSkipped
            selection.skipped := by
  simp only [inspectAll_outcome, bind_eq_ok_iff, mapError_eq_ok_iff]
  constructor
  · rintro ⟨extensions, hextensions, config, hconfig, resolved, hresolved, selection,
      hselection, hreport⟩
    cases hreport
    exact ⟨extensions, config, resolved, selection, hextensions, hconfig, hresolved, hselection,
      rfl⟩
  · rintro ⟨extensions, config, resolved, selection, hextensions, hconfig, hresolved, hselection,
      rfl⟩
    exact ⟨extensions, hextensions, config, hconfig, resolved, hresolved, selection, hselection,
      rfl⟩

/-! ## The files of a run -/

/-- What the stages of a run hand on to one another. -/
structure RunStages where
  extensions : List Text
  config : Config
  resolved : Dict Settings
  filter : Filter
  /-- One scan for each root. -/
  scans : List Scan
  selection : Selection
  /-- The findings of each selected file. -/
  perFile : List (List Finding)

/-- A file was inspected under the settings of its own extension, which were found among those
resolved before. -/
def RunStages.InspectedAs (ws : Workspace) (stages : RunStages) (file : SelectedFile)
    (findings : List Finding) : Prop :=
  file.path.extension? = some file.extension ∧
    ∃ settings, Settings.resolve stages.config.sections file.extension = .ok settings ∧
      stages.resolved.get? file.extension = some settings ∧
      findings = ws.inspectFile settings file.path

/-- The stages that lead from a command line to a report. -/
structure RunStages.LeadTo (ws : Workspace) (cli : CommandLine) (stages : RunStages)
    (report : Report) : Prop where
  extensions : normalizeExtensions cli.extensions = .ok stages.extensions
  config : (ws.configStore.load cli.config cli.noConfig).outcome = .ok stages.config
  resolved : Settings.resolveAll stages.config.sections stages.extensions = .ok stages.resolved
  filter : Filter.compile stages.extensions cli.ignore = .ok stages.filter
  scans : ScansOf ws stages.filter cli.paths stages.scans
  selection : (ws.select cli.paths stages.extensions cli.ignore).outcome = .ok stages.selection
  /-- Every file of a scan is selected, in the order of the scans. -/
  kept : stages.selection.files.map (·.path) = stages.scans.flatMap (·.files)
  inspected : List.Forall₂ (stages.InspectedAs ws) stages.selection.files stages.perFile
  findings : report.findings = stages.perFile.flatten
  filesInspected : report.filesInspected = stages.selection.files.length
  skipped : report.skipped = stages.selection.skipped

/-- The files selected are those of the scans in order, none left out. -/
theorem map_path_files_ofScans {filter : Filter} {paths : List Path} {scans : List Scan}
    (h : ScansOf ws filter paths scans) :
    (Selection.ofScans filter scans).files.map (·.path) = scans.flatMap (·.files) := by
  rw [Selection.ofScans, List.map_flatMap]
  induction h with
  | nil => rfl
  | cons hfirst _ ih =>
      rcases scan_outcome_eq_ok_iff.1 hfirst with ⟨visits, _, rfl⟩
      rw [List.flatMap_cons, List.flatMap_cons, ih,
        Selection.map_path_tagged fun path hpath => (Scan.mem_files_ofVisits_iff.1 hpath).2.2]

/-- A selected file is tagged with its own extension, which is one of those asked for. -/
theorem extension?_of_mem_ofScans {filter : Filter} {scans : List Scan} {file : SelectedFile}
    (h : file ∈ (Selection.ofScans filter scans).files) :
    file.path.extension? = some file.extension ∧ file.extension ∈ filter.extensions := by
  rcases List.mem_flatMap.1 h with ⟨found, _, hfile⟩
  exact Filter.extension?_eq_some_iff.1 (Selection.mem_tagged_iff.1 hfile).2

/-- A run with a report ends with one if there are findings, and with zero otherwise. -/
theorem run_code {report : Report} (h : (ws.inspectAll cli).outcome = .ok report)
    (terminal : Bool) : (ws.run cli terminal).code = if report.findings = [] then 0 else 1 := by
  rw [Workspace.run, h]
  simp [Outcome.of, Report.isClean, List.isEmpty_iff]

/-- A run that gets as far as a report has inspected every selected file, in order, under the
settings of its own extension.  It ends with zero exactly if no file has a finding, and with one
otherwise, however the report is shown. -/
theorem inspectAll_exact {report : Report} (h : (ws.inspectAll cli).outcome = .ok report) :
    ∃ stages : RunStages, stages.LeadTo ws cli report ∧
      ∀ format color quiet terminal,
        (ws.run { cli with format, color, quiet } terminal).code =
          if ∀ findings ∈ stages.perFile, findings = [] then 0 else 1 := by
  rcases inspectAll_outcome_eq_ok_iff.1 h with
    ⟨extensions, config, resolved, selection, hextensions, hconfig, hresolved, hselection, rfl⟩
  rcases select_outcome_eq_ok_iff.1 hselection with ⟨filter, scans, hfilter, hscans, rfl⟩
  let files := (Selection.ofScans filter scans).files
  let perFile := ws.findingsOfFiles resolved files
  refine ⟨⟨extensions, config, resolved, filter, scans, Selection.ofScans filter scans, perFile⟩,
    ⟨hextensions, hconfig, hresolved, hfilter, hscans, hselection, map_path_files_ofScans hscans,
      ?_, ?_, ?_, ?_⟩, ?_⟩
  · -- the tag of a file is one of the extensions that were resolved
    refine List.forall₂_map_right_iff.2 (List.forall₂_same.2 fun file hfile => ?_)
    rcases extension?_of_mem_ofScans hfile with ⟨hown, hmem⟩
    rw [(Filter.compile_eq_ok_iff.1 hfilter).1] at hmem
    rcases Settings.get?_of_resolveAll hresolved hmem with ⟨settings, hsettings, hget⟩
    refine ⟨hown, settings, hsettings, hget, ?_⟩
    rw [settingsFor, hget]
    rfl
  · rw [Report.ofFiles_eq]
    rfl
  · rw [Report.ofFiles_eq]
    exact List.length_map _
  · rw [Report.ofFiles_eq]
    exact List.nil_append _
  · -- how the report is shown has no part in what is inspected
    intro format color quiet terminal
    have hsame : (ws.inspectAll { cli with format, color, quiet }).outcome =
        (ws.inspectAll cli).outcome := rfl
    rw [run_code (hsame.trans h), Report.ofFiles_eq]
    exact if_congr (by simp [Report.addSkipped, perFile, files]) rfl rfl

/-- Two files with the same fault, and a configuration that forgives it in one of them. -/
def twoLanguages : Workspace where
  root := .directory true true [
    (".codedust.ini".toList, .file true (Utf8.encode "[js]\nCD0202 = disable\n".toList)),
    ("b.js".toList, .file true (Utf8.encode "y \n".toList)),
    ("a.py".toList, .file true (Utf8.encode "x \n".toList))]
  home := []

/-- Asks for both files, with the extensions in another order than the files. -/
def bothLanguages : CommandLine where
  extensions := [".py".toList, "js".toList]
  paths := ["b.js".toList, "a.py".toList]

def faultOfPython : Finding :=
  ⟨"a.py".toList, 1, .trailingWhitespace,
    "There should be no whitespace at the end of a line.".toList⟩

/-- Each file is inspected under the settings of its own extension. -/
theorem inspectAll_twoLanguages :
    (twoLanguages.inspectAll bothLanguages).outcome =
        .ok { findings := [faultOfPython], filesInspected := 2 } ∧
      ∃ stages : RunStages,
        stages.LeadTo twoLanguages bothLanguages
          { findings := [faultOfPython], filesInspected := 2 } ∧
        ∀ format color quiet terminal,
          (twoLanguages.run { bothLanguages with format, color, quiet } terminal).code =
            if ∀ findings ∈ stages.perFile, findings = [] then 0 else 1 := by
  have h : (twoLanguages.inspectAll bothLanguages).outcome =
      .ok { findings := [faultOfPython], filesInspected := 2 } := by
    decide +kernel
  exact ⟨h, inspectAll_exact h⟩

end TextHygiene
