import TextHygiene.CommandLine.Basic

/-!
# Reading command lines

Arguments are read from left to right, and the first that does not fit decides the error.  An option
whose value is the next argument waits: it takes effect when the next option does, or at the end.
What is required and what excludes what is settled at the end.
-/

namespace TextHygiene

namespace CommandLine

/-- What the options read so far have set. -/
structure Draft where
  extensions : List Text := []
  paths : List Path := []
  ignore : List Text := []
  config : Option Path := none
  noConfig : Bool := false
  format : Option Format := none
  color : Option ColorChoice := none
  verbose : Nat := 0
  quiet : Bool := false
deriving DecidableEq, Repr

/-- The count at which repeated options stop counting. -/
def verboseMax : Nat :=
  255

namespace Draft

/-! ## Effects of options -/

/-- An option that may be given once was given before. -/
def once (given : Bool) : Except UsageError Unit :=
  if given then .error .conflict else .ok ()

def path (value : Text) : Except UsageError Path :=
  if value.isEmpty then .error .invalidValue else .ok value

def required {α : Type} (error : UsageError) : Option α → Except UsageError α
  | some a => .ok a
  | none => .error error

def setValue (draft : Draft) (opt : Opt) (value : Text) : Except UsageError Draft :=
  match opt with
  | .extension => .ok { draft with extensions := draft.extensions ++ value.splitOn ',' }
  | .path => do
      let value ← path value
      return { draft with paths := draft.paths ++ [value] }
  | .ignore => .ok { draft with ignore := draft.ignore ++ [value] }
  | .config => do
      once draft.config.isSome
      let value ← path value
      return { draft with config := some value }
  | .format => do
      once draft.format.isSome
      let value ← (Format.ofName value).mapError .rejectedValue
      return { draft with format := some value }
  | .color => do
      once draft.color.isSome
      let value ← required .invalidValue (ColorChoice.ofName? value)
      return { draft with color := some value }
  | .noConfig | .verbose | .quiet | .help | .version => .error .tooManyValues

def setFlag (draft : Draft) (opt : Opt) : Except UsageError Draft :=
  match opt with
  | .noConfig => do
      once draft.noConfig
      return { draft with noConfig := true }
  | .verbose => .ok { draft with verbose := min (draft.verbose + 1) verboseMax }
  | .quiet => do
      once draft.quiet
      return { draft with quiet := true }
  -- a wish for a notice stops the reading
  | .help => .error .helpAsked
  | .version => .error .versionAsked
  | .extension | .path | .ignore | .config | .format | .color => .error .invalidValue

end Draft

/-! ## Arguments -/

/-- An option that has not taken effect yet, with its value if that has been read. -/
structure Waiting where
  opt : Opt
  value : Option Text
deriving DecidableEq, Repr

/-- What has been read so far. -/
structure State where
  draft : Draft := {}
  waiting : Option Waiting := none
  /-- Two hyphens on their own have been read: no option follows. -/
  closed : Bool := false
deriving DecidableEq, Repr

namespace State

/-- Lets the option that waits take effect. -/
def settle (state : State) : Except UsageError State :=
  match state.waiting with
  | none => .ok state
  | some ⟨opt, some value⟩ => do
      return { state with draft := ← state.draft.setValue opt value, waiting := none }
  | some ⟨_, none⟩ => .error .invalidValue

def withValue (state : State) (opt : Opt) (value : Text) : Except UsageError State := do
  let state ← state.settle
  return { state with draft := ← state.draft.setValue opt value }

def awaiting (state : State) (opt : Opt) : Except UsageError State := do
  let state ← state.settle
  return { state with waiting := some ⟨opt, none⟩ }

def withFlag (state : State) (opt : Opt) : Except UsageError State := do
  let state ← state.settle
  return { state with draft := ← state.draft.setFlag opt }

/-- The name and the value on either side of the first equal sign. -/
def nameAndValue (argument : Text) : Text × Option Text :=
  match Text.cut? (· == '=') argument with
  | some (name, value) => (name, some value)
  | none => (argument, none)

def long (state : State) (argument : Text) : Except UsageError State :=
  let (name, value) := nameAndValue argument
  match Opt.ofLong? name, value with
  | none, _ => .error .unknownArgument
  | some opt, some value =>
      if opt.takesValue then state.withValue opt value else .error .tooManyValues
  | some opt, none => if opt.takesValue then state.awaiting opt else state.withFlag opt

/-- Takes in the letters behind one hyphen.  The first option that takes a value takes the rest, less
one equal sign. -/
def short (state : State) : Text → Except UsageError State
  | [] => .ok state
  | letter :: rest =>
      match Opt.ofShort? letter with
      | none => .error .unknownArgument
      | some opt =>
          if opt.takesValue then
            match rest with
            | [] => state.awaiting opt
            -- what is left of the argument is the value
            | _ => state.withValue opt ((Text.after? ['='] rest).getD rest)
          else do (← state.withFlag opt).short rest

def plain (state : State) (argument : Text) : Except UsageError State :=
  match state.waiting with
  | some ⟨opt, none⟩ => .ok { state with waiting := some ⟨opt, some argument⟩ }
  | _ => .error .unknownArgument

def take (state : State) (argument : Text) : Except UsageError State :=
  if state.closed then .error .unknownArgument
  else
    match argument with
    | ['-', '-'] => .ok { state with closed := true }
    | '-' :: '-' :: rest => state.long rest
    | '-' :: c :: rest => state.short (c :: rest)
    | argument => state.plain argument

def takeAll (state : State) : List Text → Except UsageError State
  | [] => .ok state
  | argument :: rest => do (← state.take argument).takeAll rest

end State

/-- What a draft asks for.  Options that exclude each other come before options that are missing. -/
def Draft.finish (draft : Draft) : Except UsageError CommandLine :=
  if draft.config.isSome && draft.noConfig then .error .conflict
  else if draft.extensions.isEmpty || draft.paths.isEmpty then .error .missingRequired
  else
    .ok {
      extensions := draft.extensions
      paths := draft.paths
      ignore := draft.ignore
      config := draft.config
      noConfig := draft.noConfig
      format := draft.format.getD .text
      color := draft.color.getD .auto
      verbose := draft.verbose
      quiet := draft.quiet }

/-- Reads a command line. -/
def parse (arguments : List Text) : Except UsageError CommandLine := do
  let state ← State.takeAll {} arguments
  let state ← state.settle
  state.draft.finish

end CommandLine

end TextHygiene
