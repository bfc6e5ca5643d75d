import Mathlib.Data.List.Basic
import TextHygiene.CommandLine.Parser
import TextHygiene.Proofs.Stages

/-!
# Command lines written down

A command line can be written with one argument for each thing that it asks for, every value
attached to its option.  In whatever order the options come, reading the arguments gives the command
line again: each option changes its own part of the draft and no other, so only the order among the
arguments of one option counts.  Values are free to begin with hyphens and to contain equal signs.
-/

namespace TextHygiene

namespace CommandLine

/-! ## Arguments -/

/-- One argument of a command line, in full.  Several extensions may stand in one argument. -/
inductive Argument where
  | extension (first : Text) (others : List Text)
  | path (value : Path)
  | ignore (pattern : Text)
  | config (value : Path)
  | noConfig
  | format (value : Format)
  | color (value : ColorChoice)
  | verbose
  | quiet
deriving DecidableEq, Repr

namespace Argument

/-- An argument as it is written: the long name of its option and, behind an equal sign, the value.
Only the option that is counted is written short. -/
def text : Argument → Text
  | extension first others => "--extension=".toList ++ [','].intercalate (first :: others)
  | path value => "--path=".toList ++ value
  | ignore pattern => "--ignore=".toList ++ pattern
  | config value => "--config=".toList ++ value
  | noConfig => "--no-config".toList
  | format .text => "--format=text".toList
  | format .json => "--format=json".toList
  | color .auto => "--color=auto".toList
  | color .always => "--color=always".toList
  | color .never => "--color=never".toList
  | verbose => "-v".toList
  | quiet => "--quiet".toList

/-! ### What an argument says -/

def extensions : Argument → List Text
  | extension first others => first :: others
  | _ => []

def path? : Argument → Option Path
  | path value => some value
  | _ => none

def ignore? : Argument → Option Text
  | ignore pattern => some pattern
  | _ => none

def config? : Argument → Option Path
  | config value => some value
  | _ => none

def format? : Argument → Option Format
  | format value => some value
  | _ => none

def color? : Argument → Option ColorChoice
  | color value => some value
  | _ => none

def flag? : Argument → Option Opt
  | noConfig => some .noConfig
  | verbose => some .verbose
  | quiet => some .quiet
  | _ => none

end Argument

/-- The value of an option that may be left out where its value is the usual one. -/
def GivenOrUsual {α : Type} (values : List α) (usual value : α) : Prop :=
  values = [value] ∨ values = [] ∧ value = usual

def timesGiven (opt : Opt) (arguments : List Argument) : Nat :=
  (arguments.filterMap Argument.flag?).count opt

/-- Arguments that write a command line down.  The arguments of one option come in the order of its
values, and those of other options may stand anywhere between them.  The form of the report and the
choice of colours can be left out where they are the usual ones. -/
structure WrittenAs (line : CommandLine) (arguments : List Argument) : Prop where
  extensions : arguments.flatMap Argument.extensions = line.extensions
  paths : arguments.filterMap Argument.path? = line.paths
  ignore : arguments.filterMap Argument.ignore? = line.ignore
  config : arguments.filterMap Argument.config? = line.config.toList
  noConfig : timesGiven .noConfig arguments = line.noConfig.toNat
  format : GivenOrUsual (arguments.filterMap Argument.format?) .text line.format
  color : GivenOrUsual (arguments.filterMap Argument.color?) .auto line.color
  verbose : timesGiven .verbose arguments = line.verbose
  quiet : timesGiven .quiet arguments = line.quiet.toNat

/-- Command lines that can be written down.  There must be an extension and a path, a comma would
end an extension, paths must not be empty, and a configuration cannot be named and skipped at
once. -/
structure Writable (line : CommandLine) : Prop where
  extensions_ne_nil : line.extensions ≠ []
  comma_not_mem : ∀ extension ∈ line.extensions, ',' ∉ extension
  paths_ne_nil : line.paths ≠ []
  path_ne_nil : ∀ path ∈ line.paths, path ≠ []
  config_ne_nil : ∀ path ∈ line.config, path ≠ []
  config_eq_none : line.noConfig = true → line.config = none
  verbose_le : line.verbose ≤ 255

/-- A way to write a command line down: one extension in each argument, option after option. -/
def arguments (line : CommandLine) : List Argument :=
  [line.extensions.map fun extension => .extension extension [],
    line.paths.map .path,
    line.ignore.map .ignore,
    line.config.toList.map .config,
    List.replicate line.noConfig.toNat .noConfig,
    [.format line.format, .color line.color],
    List.replicate line.verbose .verbose,
    List.replicate line.quiet.toNat .quiet].flatten

/-- The arguments of a command line, option after option, write it down. -/
theorem writtenAs_arguments (line : CommandLine) : line.WrittenAs line.arguments := by
  constructor
  all_goals
    simp [arguments, timesGiven, GivenOrUsual, Argument.extensions, Argument.path?,
      Argument.ignore?, Argument.config?, Argument.format?, Argument.color?, Argument.flag?,
      Function.comp_def, List.filterMap_cons, List.filterMap_replicate, List.flatMap_map,
      List.count_replicate]

/-! ## Reading one argument -/

namespace Opt

theorem ofLong?_long (opt : Opt) : ofLong? opt.long = some opt := by
  cases opt with
  | _ => rfl

theorem equalSign_not_mem_long (opt : Opt) : '=' ∉ opt.long := by
  cases opt with
  | _ => decide

end Opt

def Argument.applyTo (draft : Draft) : Argument → Except UsageError Draft
  | extension first others => draft.setValue .extension ([','].intercalate (first :: others))
  | path value => draft.setValue .path value
  | ignore pattern => draft.setValue .ignore pattern
  | config value => draft.setValue .config value
  | noConfig => draft.setFlag .noConfig
  | format value => draft.setValue .format value.name
  | color value => draft.setValue .color value.name
  | verbose => draft.setFlag .verbose
  | quiet => draft.setFlag .quiet

namespace State

variable (draft : Draft)

theorem withValue_draft (opt : Opt) (value : Text) :
    withValue { draft := draft } opt value =
      (draft.setValue opt value).map fun next => { draft := next } := by
  have hset : withValue { draft := draft } opt value =
      draft.setValue opt value >>= fun next => .ok { draft := next } := rfl
  rw [hset]
  cases draft.setValue opt value with
  | error e => rfl
  | ok next => rfl

theorem withFlag_draft (opt : Opt) :
    withFlag { draft := draft } opt =
      (draft.setFlag opt).map fun next => { draft := next } := by
  have hset : withFlag { draft := draft } opt =
      draft.setFlag opt >>= fun next => .ok { draft := next } := rfl
  rw [hset]
  cases draft.setFlag opt with
  | error e => rfl
  | ok next => rfl

/-- What stands behind the first equal sign is the value, whatever it looks like. -/
theorem long_attached (state : State) {opt : Opt} (h : opt.takesValue = true) (value : Text) :
    state.long (opt.long ++ '=' :: value) = state.withValue opt value := by
  have hcut : Text.cut? (· == '=') (opt.long ++ '=' :: value) = some (opt.long, value) := by
    refine Text.cut?_eq_some_iff.2 ⟨'=', rfl, rfl, fun c hc => ?_⟩
    rw [beq_eq_false_iff_ne]
    rintro rfl
    exact opt.equalSign_not_mem_long hc
  simp [long, nameAndValue, hcut, Opt.ofLong?_long, h]

/-- An argument with its value attached is taken in at once. -/
theorem take_attached (opt : Opt) (h : opt.takesValue = true) (value : Text) :
    take { draft := draft } ('-' :: '-' :: (opt.long ++ '=' :: value)) =
      (draft.setValue opt value).map fun next => { draft := next } := by
  have hlong : take { draft := draft } ('-' :: '-' :: (opt.long ++ '=' :: value)) =
      long { draft := draft } (opt.long ++ '=' :: value) := by
    cases opt with
    | _ => rfl
  rw [hlong, long_attached _ h, withValue_draft]

/-- Reading an argument is letting it change the draft: no option is left waiting for a value. -/
theorem take_text (argument : Argument) :
    take { draft := draft } argument.text =
      (argument.applyTo draft).map fun next => { draft := next } := by
  cases argument with
  | extension first others => exact take_attached draft .extension rfl _
  | path value => exact take_attached draft .path rfl value
  | ignore pattern => exact take_attached draft .ignore rfl pattern
  | config value => exact take_attached draft .config rfl value
  | noConfig => exact withFlag_draft draft .noConfig
  | format value =>
      cases value with
      | _ => exact take_attached draft .format rfl _
  | color value =>
      cases value with
      | _ => exact take_attached draft .color rfl _
  | verbose =>
      -- no letters are left behind the first
      have hshort : take { draft := draft } (Argument.text .verbose) =
          withFlag { draft := draft } .verbose := bind_pure _
      rw [hshort, withFlag_draft]
      rfl
  | quiet => exact withFlag_draft draft .quiet

end State

/-! ## What an argument does to a draft -/

/-- The draft allows an argument: its value can be read, and its option has not been given before
unless it may be repeated. -/
def Argument.Fits (draft : Draft) : Argument → Prop
  | extension first others => ∀ extension ∈ first :: others, ',' ∉ extension
  | path value => value ≠ []
  | config value => draft.config = none ∧ value ≠ []
  | noConfig => draft.noConfig = false
  | format _ => draft.format = none
  | color _ => draft.color = none
  | quiet => draft.quiet = false
  | ignore _ | verbose => True

/-- A draft with the one part changed that an argument is about. -/
def Argument.addTo (draft : Draft) : Argument → Draft
  | extension first others => { draft with extensions := draft.extensions ++ first :: others }
  | path value => { draft with paths := draft.paths ++ [value] }
  | ignore pattern => { draft with ignore := draft.ignore ++ [pattern] }
  | config value => { draft with config := some value }
  | noConfig => { draft with noConfig := true }
  | format value => { draft with format := some value }
  | color value => { draft with color := some value }
  | verbose => { draft with verbose := min (draft.verbose + 1) verboseMax }
  | quiet => { draft with quiet := true }

/-- Where a draft allows an argument, reading it succeeds and changes nothing but its part. -/
theorem Argument.Fits.applyTo {draft : Draft} {argument : Argument} (h : argument.Fits draft) :
    argument.applyTo draft = .ok (argument.addTo draft) := by
  cases argument with
  | extension first others =>
      -- commas part the extensions of one argument, and no extension has one inside
      have hsplit : ([','].intercalate (first :: others)).splitOn ',' = first :: others :=
        List.splitOn_intercalate ',' h (List.cons_ne_nil first others)
      rw [Argument.applyTo, Draft.setValue, hsplit]
      rfl
  | path value =>
      cases value with
      | nil => exact absurd rfl h
      | cons c rest => rfl
  | ignore pattern => rfl
  | config value =>
      rcases h with ⟨hfirst, hne⟩
      cases value with
      | nil => exact absurd rfl hne
      | cons c rest =>
          rw [Argument.applyTo, Draft.setValue, hfirst]
          rfl
  | noConfig =>
      have hfirst : draft.noConfig = false := h
      rw [Argument.applyTo, Draft.setFlag, hfirst]
      rfl
  | format value =>
      have hfirst : draft.format = none := h
      rw [Argument.applyTo, Draft.setValue, hfirst]
      cases value with
      | _ => rfl
  | color value =>
      have hfirst : draft.color = none := h
      rw [Argument.applyTo, Draft.setValue, hfirst]
      cases value with
      | _ => rfl
  | verbose => rfl
  | quiet =>
      have hfirst : draft.quiet = false := h
      rw [Argument.applyTo, Draft.setFlag, hfirst]
      rfl

/-- A draft in which each option has been set by its own arguments and by no others. -/
structure Draft.SetBy (draft : Draft) (arguments : List Argument) : Prop where
  extensions : draft.extensions = arguments.flatMap Argument.extensions
  paths : draft.paths = arguments.filterMap Argument.path?
  ignore : draft.ignore = arguments.filterMap Argument.ignore?
  config : draft.config.toList = arguments.filterMap Argument.config?
  noConfig : draft.noConfig.toNat = timesGiven .noConfig arguments
  format : draft.format.toList = arguments.filterMap Argument.format?
  color : draft.color.toList = arguments.filterMap Argument.color?
  verbose : draft.verbose = min (timesGiven .verbose arguments) verboseMax
  quiet : draft.quiet.toNat = timesGiven .quiet arguments

theorem timesGiven_append (opt : Opt) (before after : List Argument) :
    timesGiven opt (before ++ after) = timesGiven opt before + timesGiven opt after := by
  rw [timesGiven, List.filterMap_append, List.count_append]
  rfl

/-- One more argument that fits, and the draft is set by one more. -/
theorem Draft.SetBy.addTo {draft : Draft} {before : List Argument} {argument : Argument}
    (hdraft : draft.SetBy before) (h : argument.Fits draft) :
    (argument.addTo draft).SetBy (before ++ [argument]) := by
  rcases hdraft with
    ⟨hextensions, hpaths, hignore, hconfig, hnoConfig, hformat, hcolor, hverbose, hquiet⟩
  constructor
  -- each part of the draft is changed by arguments of its own option only
  all_goals simp only [List.flatMap_append, List.filterMap_append, timesGiven_append]
  case extensions =>
    rw [← hextensions]
    cases argument with
    | extension first others => simp [Argument.addTo, Argument.extensions]
    | _ => exact (List.append_nil _).symm
  case paths =>
    rw [← hpaths]
    cases argument with
    | path value => rfl
    | _ => exact (List.append_nil _).symm
  case ignore =>
    rw [← hignore]
    cases argument with
    | ignore pattern => rfl
    | _ => exact (List.append_nil _).symm
  case config =>
    rw [← hconfig]
    cases argument with
    | config value =>
        rw [h.1]
        rfl
    | _ => exact (List.append_nil _).symm
  case noConfig =>
    rw [← hnoConfig]
    cases argument with
    | noConfig =>
        have hfirst : draft.noConfig = false := h
        rw [hfirst]
        rfl
    | _ => rfl
  case format =>
    rw [← hformat]
    cases argument with
    | format value =>
        have hfirst : draft.format = none := h
        rw [hfirst]
        rfl
    | _ => exact (List.append_nil _).symm
  case color =>
    rw [← hcolor]
    cases argument with
    | color value =>
        have hfirst : draft.color = none := h
        rw [hfirst]
        rfl
    | _ => exact (List.append_nil _).symm
  case verbose =>
    cases argument with
    | verbose =>
        have hone : timesGiven .verbose [.verbose] = 1 := rfl
        simp only [Argument.addTo]
        omega
    | _ => exact hverbose
  case quiet =>
    rw [← hquiet]
    cases argument with
    | quiet =>
        have hfirst : draft.quiet = false := h
        rw [hfirst]
        rfl
    | _ => rfl

/-! ## Options that are given once -/

section Once

variable {α : Type} {before rest : List Argument} {argument : Argument}

/-- An option that may be left out is given once at most. -/
theorem GivenOrUsual.length_le {values : List α} {usual value : α}
    (h : GivenOrUsual values usual value) : values.length ≤ 1 := by
  rcases h with hone | ⟨hnone, _⟩
  · rw [hone]
    exact Nat.le_refl 1
  · rw [hnone]
    exact Nat.zero_le 1

theorem GivenOrUsual.getD_eq {given : Option α} {usual value : α}
    (h : GivenOrUsual given.toList usual value) : given.getD usual = value := by
  cases given with
  | none =>
      rcases h with hone | ⟨_, rfl⟩
      · cases hone
      · rfl
  | some b =>
      rcases h with hone | ⟨hnone, _⟩
      · exact List.head_eq_of_cons_eq hone
      · cases hnone

/-- An option that is given once and comes now has not been given before. -/
theorem eq_none_of_once {given : Option α} {value? : Argument → Option α} {value : α}
    (hvalue : value? argument = some value) (hgiven : given.toList = before.filterMap value?)
    (honce : ((before ++ argument :: rest).filterMap value?).length ≤ 1) : given = none := by
  rw [List.filterMap_append, ← hgiven, List.filterMap_cons_some hvalue] at honce
  cases given with
  | none => rfl
  | some b => simp at honce

/-- A flag that is given once in all has not been set before its argument comes up. -/
theorem eq_false_of_once {flag wanted : Bool} {opt : Opt} (hopt : argument.flag? = some opt)
    (hgiven : flag.toNat = timesGiven opt before)
    (honce : timesGiven opt (before ++ argument :: rest) = wanted.toNat) : flag = false := by
  have hnow : timesGiven opt (argument :: rest) = timesGiven opt rest + 1 := by
    rw [timesGiven, List.filterMap_cons_some hopt, List.count_cons_self]
    rfl
  have hwanted : wanted.toNat ≤ 1 := Bool.toNat_le wanted
  rw [timesGiven_append, hnow, ← hgiven] at honce
  exact Bool.toNat_eq_zero.1 (by omega)

theorem eq_of_toNat_eq {flag wanted : Bool} (h : flag.toNat = wanted.toNat) : flag = wanted := by
  cases flag with
  | false => exact (Bool.toNat_eq_zero.1 h.symm).symm
  | true => exact (Bool.toNat_eq_one.1 h.symm).symm

end Once

/-! ## Reading all arguments -/

variable {line : CommandLine} {draft : Draft} {before rest : List Argument} {argument : Argument}

/-- Each argument of a command line is allowed when its turn comes. -/
theorem WrittenAs.fits (hw : line.WrittenAs (before ++ argument :: rest)) (h : line.Writable)
    (hdraft : draft.SetBy before) : argument.Fits draft := by
  have hmem : argument ∈ before ++ argument :: rest :=
    List.mem_append_right before List.mem_cons_self
  cases argument with
  | extension first others =>
      intro extension hin
      refine h.comma_not_mem extension ?_
      rw [← hw.extensions]
      exact List.mem_flatMap.2 ⟨_, hmem, hin⟩
  | path value =>
      refine h.path_ne_nil value ?_
      rw [← hw.paths]
      exact List.mem_filterMap.2 ⟨_, hmem, rfl⟩
  | ignore pattern => exact trivial
  | config value =>
      -- the option is written once at most, so nothing has set it before
      have honce : ((before ++ .config value :: rest).filterMap Argument.config?).length ≤ 1 := by
        rw [hw.config]
        exact Option.length_toList_le
      have hvalue : value ∈ line.config.toList := by
        rw [← hw.config]
        exact List.mem_filterMap.2 ⟨_, hmem, rfl⟩
      exact ⟨eq_none_of_once rfl hdraft.config honce,
        h.config_ne_nil value (Option.mem_toList.1 hvalue)⟩
  | noConfig => exact eq_false_of_once rfl hdraft.noConfig hw.noConfig
  | format value => exact eq_none_of_once rfl hdraft.format hw.format.length_le
  | color value => exact eq_none_of_once rfl hdraft.color hw.color.length_le
  | verbose => exact trivial
  | quiet => exact eq_false_of_once rfl hdraft.quiet hw.quiet

/-- Reading goes through to the last argument, and every option is set by its own arguments. -/
theorem WrittenAs.exists_takeAll (hw : line.WrittenAs (before ++ rest)) (h : line.Writable)
    (hdraft : draft.SetBy before) :
    ∃ last, State.takeAll { draft := draft } (rest.map Argument.text) = .ok { draft := last } ∧
      last.SetBy (before ++ rest) := by
  -- one by one the arguments move from those to come to those that have set the draft
  induction rest generalizing before draft with
  | nil =>
      rw [List.append_nil]
      exact ⟨draft, rfl, hdraft⟩
  | cons argument rest ih =>
      have hfits : argument.Fits draft := hw.fits h hdraft
      have hstep : State.take { draft := draft } argument.text =
          .ok { draft := argument.addTo draft } := by
        rw [State.take_text, hfits.applyTo]
        rfl
      rw [List.append_cons] at hw ⊢
      rcases ih hw (hdraft.addTo hfits) with ⟨last, hlast, hset⟩
      refine ⟨last, ?_, hset⟩
      rw [List.map_cons, State.takeAll, hstep]
      exact hlast

/-- Set by the arguments of a command line, a draft asks for that command line. -/
theorem Draft.SetBy.finish {arguments : List Argument} (hdraft : draft.SetBy arguments)
    (h : line.Writable) (hw : line.WrittenAs arguments) : draft.finish = .ok line := by
  have hextensions : draft.extensions = line.extensions := hdraft.extensions.trans hw.extensions
  have hpaths : draft.paths = line.paths := hdraft.paths.trans hw.paths
  have hignore : draft.ignore = line.ignore := hdraft.ignore.trans hw.ignore
  have hconfig : draft.config = line.config := by
    calc
      draft.config = draft.config.toList.head? := Option.head?_toList.symm
      _ = line.config.toList.head? := by rw [hdraft.config, hw.config]
      _ = line.config := Option.head?_toList
  have hnoConfig : draft.noConfig = line.noConfig :=
    eq_of_toNat_eq (hdraft.noConfig.trans hw.noConfig)
  have hquiet : draft.quiet = line.quiet := eq_of_toNat_eq (hdraft.quiet.trans hw.quiet)
  have hformat : draft.format.getD .text = line.format := (hdraft.format ▸ hw.format).getD_eq
  have hcolor : draft.color.getD .auto = line.color := (hdraft.color ▸ hw.color).getD_eq
  have hverbose : draft.verbose = line.verbose := by
    rw [hdraft.verbose, hw.verbose]
    exact Nat.min_eq_left h.verbose_le
  -- both checks at the end pass, since the command line is one that can be written down
  have hone : (line.config.isSome && line.noConfig) = false := by
    cases hskipped : line.noConfig with
    | false => exact Bool.and_false _
    | true =>
        rw [h.config_eq_none hskipped]
        rfl
  have hneeded : (line.extensions.isEmpty || line.paths.isEmpty) = false := by
    simp [h.extensions_ne_nil, h.paths_ne_nil]
  simp [Draft.finish, hextensions, hpaths, hignore, hconfig, hnoConfig, hquiet, hformat, hcolor,
    hverbose, hone, hneeded]

/-- Command lines are read as they were written.  Every command line that can be written down is
read back from its arguments, in whatever order those of different options come and however the
extensions are distributed over them; and there is always a way to write it. -/
theorem parse_writtenAs {line : CommandLine} (h : line.Writable) :
    (∃ arguments, line.WrittenAs arguments) ∧
      ∀ arguments, line.WrittenAs arguments →
        parse (arguments.map Argument.text) = .ok line := by
  refine ⟨⟨line.arguments, writtenAs_arguments line⟩, fun arguments hw => ?_⟩
  have hempty : Draft.SetBy {} [] := by
    constructor
    all_goals rfl
  rw [← List.nil_append arguments] at hw
  rcases hw.exists_takeAll h hempty with ⟨last, hlast, hset⟩
  refine bind_eq_ok_iff.2 ⟨{ draft := last }, hlast, ?_⟩
  exact hset.finish h hw

/-- A command line with values that look like options, like the mark for the end of all options, and
like an option with its value. -/
def misleading : CommandLine where
  extensions := ["-e=py".toList, "--".toList, "ts".toList]
  paths := ["--path=x".toList, "-".toList]
  ignore := ["-v".toList, "==".toList]
  config := some "-c=.ini".toList
  format := .json
  verbose := 2
  quiet := true

/-- The arguments of `misleading`, those of different options mixed, and without the choice of
colours. -/
def mixedArguments : List Argument :=
  [.verbose, .ignore "-v".toList, .extension "-e=py".toList ["--".toList],
    .path "--path=x".toList, .quiet, .config "-c=.ini".toList, .ignore "==".toList, .format .json,
    .extension "ts".toList [], .verbose, .path "-".toList]

/-- Values that look like options are read as the values that they are. -/
theorem parse_writtenAs_misleading :
    misleading.Writable ∧ misleading.WrittenAs mixedArguments ∧
      parse ["-v".toList, "--ignore=-v".toList, "--extension=-e=py,--".toList,
        "--path=--path=x".toList, "--quiet".toList, "--config=-c=.ini".toList,
        "--ignore===".toList, "--format=json".toList, "--extension=ts".toList, "-v".toList,
        "--path=-".toList] = .ok misleading := by
  have hwritable : misleading.Writable := by
    constructor
    all_goals decide
  have hwritten : misleading.WrittenAs mixedArguments := by
    constructor
    case format => exact Or.inl rfl
    case color => exact Or.inr ⟨rfl, rfl⟩
    all_goals rfl
  exact ⟨hwritable, hwritten, (parse_writtenAs hwritable).2 mixedArguments hwritten⟩

end CommandLine

end TextHygiene
