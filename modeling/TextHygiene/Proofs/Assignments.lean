import TextHygiene.Proofs.Dict
import TextHygiene.Proofs.Reading

/-!
# Options as a file sets them

The options that a configuration file sets, from top to bottom and with repetitions, each with the
section that it is set in.  A section as it is read is what setting its options one after the other
makes: opening it again, or opening another one in between, makes no difference.
-/

namespace TextHygiene

namespace Ini

/-- An option as one line of a file sets it. -/
structure Assignment where
  /-- The section that the line stands in. -/
  sectionName : Text
  /-- The key in small letters. -/
  key : Text
  value : Text
deriving DecidableEq, Repr

def Assignment.pair (a : Assignment) : Text × Text :=
  (a.key, a.value)

def Item.sectionBehind (current : Option Text) : Item → Option Text
  | .header name => some name
  | _ => current

/-- The option that an item sets if it stands in a section. -/
def Item.assignment? (current : Option Text) : Item → Option Assignment
  | .pair key value => current.map fun name => ⟨name, Text.lowercase key, value⟩
  | _ => none

/-- The options that lines set, from top to bottom, where `current` is the section that the first
line stands in. -/
def assignmentsFrom (current : Option Text) : List Text → List Assignment
  | [] => []
  | line :: lines =>
      let item := Item.ofLine line
      (item.assignment? current).toList ++ assignmentsFrom (item.sectionBehind current) lines

/-- The options that a file sets, from top to bottom. -/
def assignments (content : Text) : List Assignment :=
  assignmentsFrom none ((Line.split content).map (·.text))

/-- The options of a section, which are none if there is no such section. -/
def optionsOf (sections : Sections) (name : Text) : Options :=
  (sections.get? name).getD Dict.empty

def assignmentsIn (name : Text) (all : List Assignment) : List (Text × Text) :=
  (all.filter (·.sectionName == name)).map Assignment.pair

/-! ## One line -/

/-- To open a section changes no option of any section. -/
theorem optionsOf_openSection (sections : Sections) (name other : Text) :
    optionsOf (openSection sections name) other = optionsOf sections other := by
  by_cases h : other = name
  · subst h
    simp [optionsOf, openSection, Dict.get?_update_self]
  · simp [optionsOf, openSection, Dict.get?_update_of_ne _ _ h]

/-- An option that is set changes the options of its own section only. -/
theorem optionsOf_setOption (sections : Sections) (name key value other : Text) :
    optionsOf (setOption sections name key value) other =
      if name = other then (optionsOf sections other).set key value
      else optionsOf sections other := by
  by_cases h : name = other
  · subst h
    simp [optionsOf, setOption, Dict.get?_update_self]
  · have hne : other ≠ name := fun e => h e.symm
    simp [optionsOf, setOption, Dict.get?_update_of_ne _ _ hne, h]

/-- One item of a file sets the option that it stands for and moves on to the section that it opens.
-/
theorem step_ok {state next : State} {item : Item} (h : state.step item = .ok next) (name : Text) :
    next.current = item.sectionBehind state.current ∧
      optionsOf next.sections name =
        (assignmentsIn name (item.assignment? state.current).toList).foldl
          (fun options (key, value) => options.set key value)
          (optionsOf state.sections name) := by
  rcases State.step_cases h with
    ⟨rfl, rfl⟩ | ⟨opened, rfl, rfl⟩ | ⟨within, key, value, rfl, hopen, rfl⟩
  · exact ⟨rfl, rfl⟩
  · -- an opened section has no options that it did not have before
    exact ⟨rfl, optionsOf_openSection state.sections opened name⟩
  · -- a pair only counts in the section that is open
    refine ⟨hopen.symm, ?_⟩
    rw [optionsOf_setOption, hopen]
    by_cases hname : within = name
    · simp [Item.assignment?, assignmentsIn, Assignment.pair, hname]
    · simp [Item.assignment?, assignmentsIn, hname]

/-! ## All lines -/

theorem assignmentsIn_append (name : Text) (first second : List Assignment) :
    assignmentsIn name (first ++ second) =
      assignmentsIn name first ++ assignmentsIn name second := by
  simp [assignmentsIn]

/-- When lines have been read, a section holds what it held before, with the options that the lines
set in it laid over. -/
theorem optionsOf_run {lines : List Text} {number : Nat} {state final : State}
    (h : state.run number lines = .ok final) (name : Text) :
    optionsOf final.sections name =
      (assignmentsIn name (assignmentsFrom state.current lines)).foldl
        (fun options (key, value) => options.set key value) (optionsOf state.sections name) := by
  induction lines generalizing number state with
  | nil =>
      cases h
      rfl
  | cons line rest ih =>
      -- what the line sets, then what the lines behind it set
      rcases State.run_cons_eq_ok_iff.1 h with ⟨next, hstep, hrest⟩
      rcases step_ok hstep name with ⟨hcurrent, hoptions⟩
      rw [ih hrest, hcurrent, hoptions, assignmentsFrom, assignmentsIn_append, List.foldl_append]

/-- A section holds what setting its options one after the other makes. -/
theorem optionsOf_read {content : Text} {sections : Sections} (h : read content = .ok sections)
    (name : Text) :
    optionsOf sections name = Dict.ofList (assignmentsIn name (assignments content)) := by
  rcases read_eq_ok_iff.1 h with ⟨final, hrun, rfl⟩
  exact optionsOf_run hrun name

end Ini

end TextHygiene
