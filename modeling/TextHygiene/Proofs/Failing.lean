import TextHygiene.Proofs.Outline
import TextHygiene.Proofs.Run

/-!
# How a run fails

A run fails before it prints anything, and as the first of its five stages that is at fault: no
extension is left, the configuration cannot be loaded, an option has a value that cannot be used, an
ignore pattern cannot be used, or a root cannot be walked.  Within a stage the first fault counts.
Of all files a run looks only into its configuration before it reports, so nothing else in any file
makes a run fail or changes how it fails.
-/

namespace TextHygiene

variable {ws : Workspace} {cli : CommandLine} {failure : Failure}

/-! ## Faults -/

/-- The stages of a run that can fail, from first to last. -/
inductive Stage where
  | extensions
  | configuration
  | options
  | patterns
  | roots
deriving DecidableEq, Repr

/-- The stages in the order that a run takes them. -/
def Stage.all : List Stage :=
  [extensions, configuration, options, patterns, roots]

theorem Stage.mem_all (stage : Stage) : stage ∈ all := by
  cases stage with
  | _ => decide

/-- The configuration file of a run: the one that is asked for, or else the local one if there is
one. -/
def Workspace.configPath? (ws : Workspace) (cli : CommandLine) : Option Path :=
  if cli.noConfig then none else cli.config.or ws.configStore.localPath?

/-- What is wrong with the configuration file of a run. -/
inductive ConfigFault (ws : Workspace) (cli : CommandLine) : Failure → Prop
  | missing {path : Path} : ws.configPath? cli = some path → ws.isFile path = false →
      ConfigFault ws cli (.configMissing path)
  | unreadable {path : Path} : ws.configPath? cli = some path → ws.isFile path = true →
      ws.configStore.text? path = none → ConfigFault ws cli (.configUnreadable path)
  | malformed {path : Path} {text : Text} {error : Ini.SyntaxError} :
      ws.configPath? cli = some path → ws.isFile path = true →
      ws.configStore.text? path = some text → Ini.read text = .error error →
      ConfigFault ws cli (.configSyntax path error)

/-- What is wrong with a root: it leads nowhere, or to a directory that cannot be listed. -/
def RootFault (ws : Workspace) (root : Path) (failure : Failure) : Prop :=
  (∃ fault, ws.find root = .error fault) ∧ failure = .rootMissing root ∨
    (∃ enterable entries, ws.find root = .ok (.directory false enterable entries)) ∧
      failure = .rootUnreadable root

/-- A stage is at fault, and fails in this way.  Options are judged once extensions and
configuration are there. -/
def FailsAt (ws : Workspace) (cli : CommandLine) : Stage → Failure → Prop
  | .extensions, failure =>
      (∀ raw ∈ cli.extensions, bareExtension raw = []) ∧ failure = .noExtension
  | .configuration, failure => ConfigFault ws cli failure
  | .options, failure =>
      ∃ extensions config error, normalizeExtensions cli.extensions = .ok extensions ∧
        (ws.configStore.load cli.config cli.noConfig).outcome = .ok config ∧
        FirstFault (fun e error => Settings.resolve config.sections e = .error error) extensions
          error ∧
        failure = .badOption error
  | .patterns, failure =>
      ∃ error, FirstFault (fun raw error => Pattern.compile raw = .error error) cli.ignore error ∧
        failure = .badPattern error
  | .roots, failure => FirstFault (RootFault ws) cli.paths failure

/-! ## Extensions -/

theorem addExtension_eq_nil_iff {extensions : List Text} {raw : Text} :
    addExtension extensions raw = [] ↔ extensions = [] ∧ bareExtension raw = [] := by
  rw [addExtension]
  by_cases hempty : bareExtension raw = []
  · simp [hempty]
  · by_cases hmem : bareExtension raw ∈ extensions
    · have hne : extensions ≠ [] := List.ne_nil_of_mem hmem
      simp [hmem, hempty, hne]
    · simp [hmem, hempty]

/-- No extension is left exactly if every text that was given stands for nothing. -/
theorem foldl_addExtension_eq_nil_iff {raws extensions : List Text} :
    raws.foldl addExtension extensions = [] ↔
      extensions = [] ∧ ∀ raw ∈ raws, bareExtension raw = [] := by
  induction raws generalizing extensions with
  | nil => simp
  | cons raw rest ih =>
      rw [List.foldl_cons, ih, addExtension_eq_nil_iff, List.forall_mem_cons, and_assoc]

/-- The first stage fails as putting the extensions into normal form does. -/
theorem failsAt_extensions_iff :
    FailsAt ws cli .extensions failure ↔
      normalizeExtensions cli.extensions = .error failure := by
  have hnil : cli.extensions.foldl addExtension [] = [] ↔
      ∀ raw ∈ cli.extensions, bareExtension raw = [] := by
    rw [foldl_addExtension_eq_nil_iff, and_iff_right rfl]
  rw [FailsAt, normalizeExtensions, ← hnil]
  split
  · next hempty => simp [hempty, eq_comm]
  · next hne => exact iff_of_false (fun h => hne h.1) nofun

/-! ## Configuration -/

/-- A file is loaded by way of its text; a path without a file is a failure. -/
theorem ConfigStore.loadFrom_outcome (store : ConfigStore) (path : Path) :
    (store.loadFrom path).outcome =
      if store.isFile path then
        match store.text? path with
        | none => .error (.configUnreadable path)
        | some text =>
            ((Ini.read text).mapError (Failure.configSyntax path)).map fun sections =>
              ⟨sections, some path⟩
      else .error (.configMissing path) := by
  rw [loadFrom]
  cases store.isFile path with
  | false => rfl
  | true =>
      cases store.text? path with
      | none => rfl
      | some text =>
          simp only [Bool.not_true, Bool.false_eq_true, if_false, if_true, Logged.outcome_bind,
            Logged.outcome_ofExcept, Logged.outcome_record, Logged.outcome_pure]
          cases Ini.read text with
          | error error => rfl
          | ok sections => rfl

/-- The configuration of a run is that of its file, or empty if there is none. -/
theorem load_outcome (ws : Workspace) (cli : CommandLine) :
    (ws.configStore.load cli.config cli.noConfig).outcome =
      match ws.configPath? cli with
      | some path => (ws.configStore.loadFrom path).outcome
      | none => .ok {} := by
  unfold ConfigStore.load Workspace.configPath?
  cases cli.noConfig with
  | true => rfl
  | false =>
      cases cli.config with
      | some path => rfl
      | none =>
          simp only [Bool.false_eq_true, if_false, Option.none_or, ConfigStore.loadLocal]
          cases ws.configStore.localPath? with
          | none => rfl
          | some path =>
              -- that a file was found is only recorded
              rw [Logged.outcome_bind, Logged.outcome_record]
              rfl

/-- The second stage fails as loading the configuration does. -/
theorem failsAt_configuration_iff :
    FailsAt ws cli .configuration failure ↔
      (ws.configStore.load cli.config cli.noConfig).outcome = .error failure := by
  rw [FailsAt, load_outcome]
  constructor
  · intro h
    -- each fault of the file makes loading fail at its own step
    cases h with
    | missing hpath hfile =>
        have hfile' : ws.configStore.isFile _ = false := hfile
        rw [hpath]
        simp [ConfigStore.loadFrom_outcome, hfile']
    | unreadable hpath hfile htext =>
        have hfile' : ws.configStore.isFile _ = true := hfile
        rw [hpath]
        simp [ConfigStore.loadFrom_outcome, hfile', htext]
    | malformed hpath hfile htext herror =>
        have hfile' : ws.configStore.isFile _ = true := hfile
        rw [hpath]
        simp [ConfigStore.loadFrom_outcome, hfile', htext, herror, Except.mapError, Except.map]
  · intro h
    -- loading goes through the same steps, and fails at the first that is at fault
    cases hpath : ws.configPath? cli with
    | none =>
        rw [hpath] at h
        cases h
    | some path =>
        rw [hpath] at h
        simp only [ConfigStore.loadFrom_outcome] at h
        cases hfile : ws.configStore.isFile path with
        | false =>
            rw [hfile] at h
            cases h
            exact .missing hpath hfile
        | true =>
            rw [hfile, if_pos rfl] at h
            cases htext : ws.configStore.text? path with
            | none =>
                rw [htext] at h
                cases h
                exact .unreadable hpath hfile htext
            | some text =>
                rw [htext] at h
                rcases mapError_eq_error_iff.1 (map_eq_error_iff.1 h) with ⟨error, herror, rfl⟩
                exact .malformed hpath hfile htext herror

/-! ## Options -/

/-- The first extension that cannot be resolved decides the error. -/
theorem resolveAll_eq_error_iff {sections : Sections} {extensions : List Text}
    {error : OptionError} :
    Settings.resolveAll sections extensions = .error error ↔
      FirstFault (fun e error => Settings.resolve sections e = .error error) extensions error := by
  rw [Settings.resolveAll, map_eq_error_iff, mapM_eq_error_iff]
  simp only [map_eq_error_iff]

/-- The third stage fails as resolving the settings does. -/
theorem failsAt_options_iff {extensions : List Text} {config : Config}
    (hextensions : normalizeExtensions cli.extensions = .ok extensions)
    (hconfig : (ws.configStore.load cli.config cli.noConfig).outcome = .ok config) :
    FailsAt ws cli .options failure ↔
      (Settings.resolveAll config.sections extensions).mapError Failure.badOption =
        .error failure := by
  rw [mapError_eq_error_iff]
  simp only [resolveAll_eq_error_iff]
  constructor
  · -- there is only one list of extensions and one configuration to judge
    rintro ⟨extensions', config', error, hextensions', hconfig', hfirst, rfl⟩
    rw [hextensions] at hextensions'
    rw [hconfig] at hconfig'
    cases hextensions'
    cases hconfig'
    exact ⟨error, hfirst, rfl⟩
  · rintro ⟨error, hfirst, rfl⟩
    exact ⟨extensions, config, error, hextensions, hconfig, hfirst, rfl⟩

/-! ## Patterns and roots -/

/-- The fourth stage fails as preparing the ignore patterns does. -/
theorem failsAt_patterns_iff (extensions : List Text) :
    FailsAt ws cli .patterns failure ↔
      (Filter.compile extensions cli.ignore).mapError Failure.badPattern = .error failure := by
  simp only [FailsAt, mapError_eq_error_iff, Filter.compile, map_eq_error_iff, mapM_eq_error_iff]

/-- A root cannot be visited exactly if something is wrong with it. -/
theorem rootVisits_eq_error_iff {root : Path} :
    ws.rootVisits root = .error failure ↔ RootFault ws root failure := by
  rw [Workspace.rootVisits, RootFault]
  cases ws.find root with
  | error fault => simp [eq_comm]
  | ok tree =>
      cases tree with
      | file => simp
      | link => simp
      | directory listable enterable entries =>
          cases listable with
          | true => simp
          | false => simp [eq_comm]

theorem scan_outcome_eq_error_iff {filter : Filter} {root : Path} :
    (ws.scan filter root).outcome = .error failure ↔ RootFault ws root failure := by
  rw [← rootVisits_eq_error_iff]
  simp only [Workspace.scan, Logged.outcome_bind, Logged.outcome_ofExcept, Logged.outcome_record,
    Logged.outcome_pure]
  cases ws.rootVisits root with
  | error other => simp [bind, Except.bind]
  | ok visits => simp [bind, Except.bind]

/-- The first root that something is wrong with decides the error. -/
theorem scanAll_outcome_eq_error_iff {filter : Filter} {roots : List Path}
    {selection : Selection} :
    (ws.scanAll filter selection roots).outcome = .error failure ↔
      FirstFault (RootFault ws) roots failure := by
  induction roots generalizing selection with
  | nil => exact iff_of_false nofun not_firstFault_nil
  | cons root rest ih =>
      -- what was selected before has no part in how a later root fails
      rw [Workspace.scanAll, Logged.outcome_bind, firstFault_cons_iff]
      exact bind_eq_error_iff (fun _ => scan_outcome_eq_error_iff.symm) fun found _ => ih

/-- The last stage fails as scanning the roots does, whatever the filter is. -/
theorem failsAt_roots_iff (filter : Filter) :
    FailsAt ws cli .roots failure ↔
      (ws.scanAll filter {} cli.paths).outcome = .error failure :=
  scanAll_outcome_eq_error_iff.symm

/-! ## The first fault -/

/-- A run fails exactly as the first of its stages that is at fault. -/
theorem inspectAll_outcome_eq_error_iff :
    (ws.inspectAll cli).outcome = .error failure ↔
      FirstFault (FailsAt ws cli) Stage.all failure := by
  rw [inspectAll_outcome, Stage.all]
  simp only [firstFault_cons_iff (l := _ :: _), firstFault_singleton_iff]
  refine bind_eq_error_iff (fun _ => failsAt_extensions_iff) fun extensions hextensions => ?_
  refine bind_eq_error_iff (fun _ => failsAt_configuration_iff) fun config hconfig => ?_
  refine bind_eq_error_iff (fun _ => failsAt_options_iff hextensions hconfig)
    fun resolved _ => ?_
  -- nothing fails after the selection
  refine (map_eq_error_iff (x := (ws.select cli.paths extensions cli.ignore).outcome)).trans ?_
  rw [Workspace.select, Logged.outcome_bind, Logged.outcome_ofExcept]
  exact bind_eq_error_iff (fun _ => failsAt_patterns_iff extensions) fun filter _ =>
    (failsAt_roots_iff filter).symm

/-! ## Contents that do not matter -/

theorem SameOutline.configPath? {a b : Workspace} (h : SameOutline a b) (cli : CommandLine) :
    a.configPath? cli = b.configPath? cli := by
  have hfile : a.isFile = b.isFile := funext h.isFile
  simp only [Workspace.configPath?, ConfigStore.localPath?, Workspace.configStore,
    Workspace.homePath, h.home, hfile]

/-- What a run loads depends on the bytes of its configuration file only. -/
theorem SameOutline.load {a b : Workspace} (h : SameOutline a b) {cli : CommandLine}
    (hbytes : ∀ path, a.configPath? cli = some path → a.bytes path = b.bytes path) :
    (a.configStore.load cli.config cli.noConfig).outcome =
      (b.configStore.load cli.config cli.noConfig).outcome := by
  rw [load_outcome, load_outcome, ← h.configPath?]
  cases hpath : a.configPath? cli with
  | none => rfl
  | some path =>
      simp only [ConfigStore.loadFrom_outcome, Workspace.configStore, h.isFile, hbytes path hpath]

/-- What is wrong with a root can be told from the kind of what it leads to. -/
theorem rootFault_iff_kind {root : Path} :
    RootFault ws root failure ↔
      (∃ fault, (ws.find root).map FileTree.kind = .error fault) ∧ failure = .rootMissing root ∨
        (∃ enterable, (ws.find root).map FileTree.kind = .ok (.directory false enterable)) ∧
          failure = .rootUnreadable root := by
  rw [RootFault]
  cases ws.find root with
  | error fault => simp [Except.map]
  | ok tree =>
      cases tree with
      | file => simp [Except.map, FileTree.kind]
      | directory => simp [Except.map, FileTree.kind]
      | link => simp [Except.map, FileTree.kind]

/-- What is in files has no say in what is wrong with a root. -/
theorem SameOutline.rootFault {a b : Workspace} (h : SameOutline a b) :
    RootFault a = RootFault b := by
  funext root failure
  rw [rootFault_iff_kind, rootFault_iff_kind, h.find]

/-- Of all files only the configuration has a say in where a run fails. -/
theorem SameOutline.failsAt {a b : Workspace} (h : SameOutline a b) {cli : CommandLine}
    (hbytes : ∀ path, a.configPath? cli = some path → a.bytes path = b.bytes path) :
    FailsAt a cli = FailsAt b cli := by
  funext stage failure
  cases stage with
  | extensions => rfl
  | configuration =>
      rw [eq_iff_iff, failsAt_configuration_iff, failsAt_configuration_iff, h.load hbytes]
  | options => simp only [FailsAt, h.load hbytes]
  | patterns => rfl
  | roots => simp only [FailsAt, h.rootFault]

/-! ## The whole run -/

/-- A run ends with two exactly if it fails, and then it has printed nothing but its failure.  It
fails exactly as the first of its stages that is at fault; without a fault there is a report.  In
whichever way the files other than the configuration file differ, the run fails in the same way. -/
theorem run_failure_exact (ws : Workspace) (cli : CommandLine) :
    (∀ terminal, (ws.run cli terminal).code = 2 ↔
      ∃ failure, (ws.inspectAll cli).outcome = .error failure) ∧
    (∀ terminal failure, (ws.inspectAll cli).outcome = .error failure →
      ws.run cli terminal = ⟨2, [], some ("Error: ".toList ++ failure.message)⟩) ∧
    (∀ failure, (ws.inspectAll cli).outcome = .error failure ↔
      FirstFault (FailsAt ws cli) Stage.all failure) ∧
    ((∃ report, (ws.inspectAll cli).outcome = .ok report) ↔
      ∀ stage failure, ¬ FailsAt ws cli stage failure) ∧
    ∀ other, SameOutline ws other →
      (∀ path, ws.configPath? cli = some path → ws.bytes path = other.bytes path) →
      ∀ failure, (ws.inspectAll cli).outcome = .error failure ↔
        (other.inspectAll cli).outcome = .error failure := by
  refine ⟨fun terminal => ?_, fun terminal failure h => ?_, fun failure => ?_, ?_,
    fun other hsame hbytes failure => ?_⟩
  · -- a report ends a run with zero or one
    cases hrun : (ws.inspectAll cli).outcome with
    | error failure => simp [Workspace.run, hrun, Outcome.of]
    | ok report =>
        rw [run_code hrun]
        split
        · simp
        · simp
  · rw [Workspace.run, h]
    rfl
  · exact inspectAll_outcome_eq_error_iff
  · simp only [exists_ok_iff, ne_eq, inspectAll_outcome_eq_error_iff, forall_not_firstFault_iff,
      Stage.mem_all, forall_const]
  · rw [inspectAll_outcome_eq_error_iff, inspectAll_outcome_eq_error_iff, hsame.failsAt hbytes]

/-- A directory with a configuration that gives a size which is none. -/
def badSize : Workspace where
  root := .directory true true [
    (".codedust.ini".toList, .file true (Utf8.encode "[py]\nindent_size = 0\n".toList)),
    ("a.py".toList, .file false [0])]
  home := []

/-- Asks with a pattern that is empty and for a root that is not there. -/
def manyFaults : CommandLine where
  extensions := [".py".toList]
  paths := ["a.py".toList, "gone".toList]
  ignore := [[]]

/-- Three stages are at fault, and the first of them makes the failure. -/
theorem run_failure_exact_manyFaults :
    FailsAt badSize manyFaults .patterns (.badPattern .empty) ∧
    FailsAt badSize manyFaults .roots (.rootMissing "gone".toList) ∧
    FirstFault (FailsAt badSize manyFaults) Stage.all
      (.badOption (.badSize "py".toList "indent_size".toList "0".toList)) ∧
    (badSize.run manyFaults true).code = 2 := by
  have h : (badSize.inspectAll manyFaults).outcome =
      .error (.badOption (.badSize "py".toList "indent_size".toList "0".toList)) := by
    decide +kernel
  rcases run_failure_exact badSize manyFaults with ⟨hcode, _, hfirst, _, _⟩
  exact ⟨(failsAt_patterns_iff []).2 (by decide +kernel),
    (failsAt_roots_iff ⟨[], []⟩).2 (by decide +kernel), (hfirst _).1 h, (hcode true).2 ⟨_, h⟩⟩

end TextHygiene
