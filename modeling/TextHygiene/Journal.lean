import TextHygiene.Failure
import TextHygiene.Text.Digits

/-!
# The journal of a run

A run leaves records behind, also when it fails.  `Logged` carries the records along with the
outcome: a later stage adds its records behind those of the earlier ones, and after a failure
nothing more is recorded.  A record is shown with the characters that steer a terminal spelled out, so
that no name of a file can act on the terminal that shows the journal.
-/

namespace TextHygiene

/-- How much a record matters. -/
inductive Level where
  | error
  | warn
  | info
  | debug
deriving DecidableEq, Repr

namespace Level

def name : Level → Text
  | error => "ERROR".toList
  | warn => "WARN".toList
  | info => "INFO".toList
  | debug => "DEBUG".toList

def rank : Level → Nat
  | error => 1
  | warn => 2
  | info => 3
  | debug => 4

end Level

/-- A line of the journal. -/
structure Record where
  level : Level
  message : Text
deriving DecidableEq, Repr

namespace Record

/-- A character as the journal shows it.  Escape, bell, backspace, form feed, delete and the control
characters above ASCII are written by their numbers. -/
def shownChar (c : Char) : Text :=
  if c = '\x1b' ∨ c = '\x07' ∨ c = '\x08' ∨ c = '\x0c' ∨ c = '\x7f' then
    "\\x".toList ++ Text.hexPair c.toNat
  else if 0x80 ≤ c.toNat ∧ c.toNat < 0xA0 then
    "\\u\x7b".toList ++ Text.hexPair c.toNat ++ ['}']
  else [c]

def shown (record : Record) : Text :=
  record.level.name ++ ' ' :: record.message.flatMap shownChar

end Record

/-- An outcome with the records made on the way to it. -/
structure Logged (α : Type) where
  records : List Record
  outcome : Except Failure α

namespace Logged

variable {α β : Type}

def andThen (x : Logged α) (f : α → Logged β) : Logged β :=
  match x.outcome with
  | .ok a => ⟨x.records ++ (f a).records, (f a).outcome⟩
  | .error e => ⟨x.records, .error e⟩

instance : Monad Logged where
  pure a := ⟨[], .ok a⟩
  bind := andThen

def record (level : Level) (message : Text) : Logged Unit :=
  ⟨[⟨level, message⟩], .ok ()⟩

def ofExcept (outcome : Except Failure α) : Logged α :=
  ⟨[], outcome⟩

/-- Records have no say in the outcome of two stages. -/
@[simp] theorem outcome_bind (x : Logged α) (f : α → Logged β) :
    (x >>= f).outcome = x.outcome >>= fun a => (f a).outcome := by
  rcases x with ⟨records, _ | a⟩ <;> rfl

@[simp] theorem outcome_pure (a : α) : (pure a : Logged α).outcome = .ok a :=
  rfl

@[simp] theorem outcome_record (level : Level) (message : Text) :
    (record level message).outcome = .ok () :=
  rfl

@[simp] theorem outcome_ofExcept (outcome : Except Failure α) :
    (ofExcept outcome).outcome = outcome :=
  rfl

end Logged

end TextHygiene
