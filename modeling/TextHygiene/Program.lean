import TextHygiene.CommandLine.Notice
import TextHygiene.CommandLine.Parser
import TextHygiene.Run

/-!
# The program

From arguments to what is shown: the report on standard output, and the journal with the line that
names a failure on standard error.  The journal shows warnings, and more with every `-v`, unless the
environment says how much it shows.
-/

namespace TextHygiene

/-! ## How much is shown -/

/-- The records that are shown: those whose level has at most this rank. -/
abbrev LogLimit := Nat

namespace LogLimit

/-- The limit for a number of `-v`. -/
def ofVerbosity : Nat → LogLimit
  | 0 => Level.warn.rank
  | 1 => Level.info.rank
  | _ => Level.debug.rank

/-- The limit that a word asks for, letter case aside. -/
def ofWord? (word : Text) : Option LogLimit :=
  if Text.sameLetters word "off".toList then some 0
  else
    ([Level.error, .warn, .info, .debug].find? fun level => Text.sameLetters word level.name).map
      (·.rank)

/-- The limit of a run: the word from the environment wins over the command line. -/
def choose (word : Option Text) (verbosity : Nat) : LogLimit :=
  (word.bind ofWord?).getD (ofVerbosity verbosity)

def filter (limit : LogLimit) (records : List Record) : List Record :=
  records.filter fun record => record.level.rank ≤ limit

end LogLimit

/-! ## Execution -/

/-- What the program leaves behind. -/
structure Execution where
  code : Nat
  /-- What goes to standard output. -/
  output : Text
  /-- The lines that go to standard error. -/
  log : List Text
  /-- What is wrong with the command line, or the notice it asks for. -/
  usage : Option CommandLine.UsageError
deriving DecidableEq, Repr

/-- Runs the program on arguments.  `logWord` says how much of the journal is shown, and `terminal`
that the report goes to a terminal that wants colours. -/
def Workspace.execute (ws : Workspace) (arguments : List Text) (logWord : Option Text)
    (terminal : Bool) : Execution :=
  match CommandLine.parse arguments with
  | .error e => ⟨if e.isWish then 0 else 2, if e.isWish then e.notice else [], [], some e⟩
  | .ok cli =>
      let logged := ws.inspectAll cli
      let outcome := Outcome.of cli terminal logged.outcome
      let shown := (LogLimit.choose logWord cli.verbose).filter logged.records
      ⟨outcome.code, outcome.output, shown.map (·.shown) ++ outcome.failure.toList, none⟩

end TextHygiene
