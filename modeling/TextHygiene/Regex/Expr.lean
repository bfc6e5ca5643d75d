import TextHygiene.Regex.Normal

/-!
# Written expressions

A regular expression as it is written, with its flags.  Flags hold from where they are set to the
end of the group they are set in.  `Expr.meanings?` carries them along from left to right and turns
the written form into the core language.
-/

namespace TextHygiene
namespace Regex

/-! ## Flags -/

/-- The switches that change what parts of an expression mean. -/
inductive Flag where
  | caseInsensitive
  | multiLine
  | dotMatchesNewLine
  | swapGreed
  | unicode
  | carriageReturn
  | ignoreSpace
deriving DecidableEq, Repr

def Flag.ofLetter? : Char → Option Flag
  | 'i' => some .caseInsensitive
  | 'm' => some .multiLine
  | 's' => some .dotMatchesNewLine
  | 'U' => some .swapGreed
  | 'u' => some .unicode
  | 'R' => some .carriageReturn
  | 'x' => some .ignoreSpace
  | _ => none

/-- Flags turned on and flags turned off. -/
structure FlagChange where
  on : List Flag := []
  off : List Flag := []
deriving DecidableEq, Repr

/-- The new state of a flag that was in the state `now`. -/
def FlagChange.state (change : FlagChange) (flag : Flag) (now : Bool) : Bool :=
  if change.on.contains flag then true
  else if change.off.contains flag then false
  else now

/-- The flags in force. -/
structure Flags where
  caseInsensitive : Bool := false
  multiLine : Bool := false
  dotMatchesNewLine : Bool := false
  unicode : Bool := true
  carriageReturn : Bool := false
  swapGreed : Bool := false
deriving DecidableEq, Repr

def Flags.apply (flags : Flags) (change : FlagChange) : Flags where
  caseInsensitive := change.state .caseInsensitive flags.caseInsensitive
  multiLine := change.state .multiLine flags.multiLine
  dotMatchesNewLine := change.state .dotMatchesNewLine flags.dotMatchesNewLine
  unicode := change.state .unicode flags.unicode
  carriageReturn := change.state .carriageReturn flags.carriageReturn
  swapGreed := change.state .swapGreed flags.swapGreed

def Flags.caseMode (flags : Flags) : CaseMode :=
  if flags.caseInsensitive then (if flags.unicode then .ignore else .ignoreAscii) else .exact

/-! ## Expressions -/

/-- A condition on a place as it is written. -/
inductive Anchor where
  /-- The sign `^`. -/
  | caret
  /-- The sign `$`. -/
  | dollar
  | startOfText
  | endOfText
  | boundary (kind : Boundary)
deriving DecidableEq, Repr

/-- A regular expression as it is written. -/
inductive Expr where
  | empty
  /-- A change of flags for the rest of the group. -/
  | flags (change : FlagChange)
  | char (c : Char)
  /-- A character that is written as a byte, by exactly two digits. -/
  | byte (c : Char)
  | dot
  | anchor (anchor : Anchor)
  /-- A class, in brackets or by an escape. -/
  | set (set : CharSet)
  /-- A group, with its number if it is remembered and the flags that hold inside it alone. -/
  | group (number : Option Nat) (change : FlagChange) (inner : Expr)
  /-- A repetition, and whether a sign says that it prefers few. -/
  | rep (inner : Expr) (least : Nat) (most : Option Nat) (marked : Bool)
  | seq (first rest : Expr)
  | alt (first rest : Expr)
deriving DecidableEq, Repr

namespace Expr

def seqAll : List Expr → Expr
  | [] => .empty
  | [e] => e
  | e :: rest => .seq e (seqAll rest)

def altAll : List Expr → Expr
  | [] => .empty
  | [e] => e
  | e :: rest => .alt e (altAll rest)

/-- What the expression that is measured is a direct part of. -/
inductive Parent where
  | other
  | sequence
  | choice
deriving DecidableEq, Repr

/-- How deep an expression is nested.  A sequence of several pieces counts once, and so does a
choice. -/
def depth (parent : Parent) : Expr → Nat
  | .set s =>
      match s with
      | .bracketed .. => s.depth false
      | _ => 0
  | .group _ _ inner => 1 + inner.depth .other
  | .rep inner _ _ _ => 1 + inner.depth .other
  | .seq first rest =>
      (if parent = .sequence then 0 else 1) + max (first.depth .sequence) (rest.depth .sequence)
  | .alt first rest =>
      (if parent = .choice then 0 else 1) + max (first.depth .choice) (rest.depth .choice)
  | _ => 0

/-! ## Meaning -/

/-- A character as it is written.  Where only ASCII characters count, a byte has to be one. -/
def character? (flags : Flags) (isByte : Bool) (c : Char) : Option Regex :=
  if isByte && !flags.unicode && 0x80 ≤ c.toNat then none
  else some (ofMembers (flags.caseMode.close (.single c)))

/-- All characters but the line breaks.  They reach beyond the ASCII characters. -/
def dot? (flags : Flags) : Option Regex :=
  if !flags.unicode then none
  else if flags.dotMatchesNewLine then some (.set .full)
  else if flags.carriageReturn then some (.set (Unicode.Intervals.ofList [⟨0xA, 0xA⟩, ⟨0xD, 0xD⟩]).compl)
  else some (.set (Unicode.Intervals.single '\n').compl)

/-- One character of a set, if the flags allow the set. -/
def oneOf? (flags : Flags) (set : CharSet) : Option Regex :=
  (if flags.unicode then some set else set.ascii?).map fun set =>
    ofMembers (set.members flags.caseMode)

def anchorLook (flags : Flags) : Anchor → Look
  | .caret =>
      if !flags.multiLine then .startOfText
      else if flags.carriageReturn then .startOfLineReturn else .startOfLine
  | .dollar =>
      if !flags.multiLine then .endOfText
      else if flags.carriageReturn then .endOfLineReturn else .endOfLine
  | .startOfText => .startOfText
  | .endOfText => .endOfText
  | .boundary kind => .boundary kind !flags.unicode

/-- The meanings of the branches of an expression under the flags in force, and the flags in force
behind it. -/
def meanings? (flags : Flags) : Expr → Option (List Regex × Flags)
  | .empty => some ([.empty], flags)
  | .flags change => some ([.empty], flags.apply change)
  | .char c => (character? flags false c).map ([·], flags)
  | .byte c => (character? flags true c).map ([·], flags)
  | .dot => (dot? flags).map ([·], flags)
  | .anchor a => some ([.look (anchorLook flags a)], flags)
  | .set s => (oneOf? flags s).map ([·], flags)
  | .group number change inner => do
      -- flags that change inside a group fall back behind it
      let (branches, _) ← meanings? (flags.apply change) inner
      let r := choice branches
      return ([(number.map fun n => Regex.group n r).getD r], flags)
  | .rep inner least most marked => do
      let (branches, flags) ← meanings? flags inner
      return ([repeated (choice branches) least most (marked == flags.swapGreed)], flags)
  | .seq first rest => do
      let (a, flags) ← meanings? flags first
      let (b, flags) ← meanings? flags rest
      return ([concat (choice a) (choice b)], flags)
  | .alt first rest => do
      let (a, flags) ← meanings? flags first
      let (b, flags) ← meanings? flags rest
      -- flags that change in one branch hold in the branches behind it
      return (a ++ b, flags)

/-- The meaning of an expression, if its flags allow its characters and sets. -/
def meaning? (expr : Expr) : Option Regex :=
  (expr.meanings? {}).map fun (branches, _) => choice branches

end Expr

end Regex
end TextHygiene
