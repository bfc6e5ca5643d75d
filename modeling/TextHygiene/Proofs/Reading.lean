import TextHygiene.Ini
import TextHygiene.Proofs.Stages

/-!
# Reading line by line

Reading a configuration file is a run over its lines.  A run over lines in a row goes on where the run
over the first of them stopped, and it succeeds exactly if each of its steps does.
-/

namespace TextHygiene

namespace Ini

variable {number : Nat} {state next final : State} {item : Item} {line : Text} {lines : List Text}

/-! ## One line -/

/-- What a line can do: nothing, open a section, or set an option of the open section. -/
theorem State.step_cases (h : state.step item = .ok next) :
    (item = .ignored ∧ next = state) ∨
      (∃ name, item = .header name ∧ next = ⟨openSection state.sections name, some name⟩) ∨
      ∃ name key value, item = .pair key value ∧ state.current = some name ∧
        next = ⟨setOption state.sections name (Text.lowercase key) value, some name⟩ := by
  rcases state with ⟨sections, current⟩
  cases item with
  | ignored =>
      cases h
      exact Or.inl ⟨rfl, rfl⟩
  | header name =>
      cases h
      exact Or.inr (Or.inl ⟨name, rfl, rfl⟩)
  | badHeader => cases h
  | junk => cases h
  | pair key value =>
      cases current with
      | none => cases h
      | some name =>
          cases h
          exact Or.inr (Or.inr ⟨name, key, value, rfl, rfl, rfl⟩)

/-! ## Runs -/

/-- Lines are read from where the lines above have left off. -/
theorem State.run_append (number : Nat) (state : State) (first second : List Text) :
    state.run number (first ++ second) =
      state.run number first >>= fun next => next.run (number + first.length) second := by
  induction first generalizing number state with
  | nil => rfl
  | cons line rest ih =>
      rw [List.cons_append, State.run, State.run]
      cases state.step (Item.ofLine line) with
      | error fault => rfl
      | ok next =>
          rw [List.length_cons, Nat.add_comm rest.length 1, ← Nat.add_assoc]
          exact ih (number + 1) next

/-- A run succeeds exactly if its first step does and the run from there. -/
theorem State.run_cons_eq_ok_iff :
    state.run number (line :: lines) = .ok final ↔
      ∃ next, state.step (Item.ofLine line) = .ok next ∧
        next.run (number + 1) lines = .ok final := by
  rw [State.run]
  cases state.step (Item.ofLine line) with
  | error fault => simp
  | ok next => simp

/-- A run that fails names one of its own lines. -/
theorem State.le_of_run_error {error : SyntaxError} (h : state.run number lines = .error error) :
    number ≤ error.line := by
  induction lines generalizing number state with
  | nil => cases h
  | cons line rest ih =>
      rw [State.run] at h
      cases hstep : state.step (Item.ofLine line) with
      | error fault =>
          rw [hstep] at h
          cases h
          exact Nat.le_refl number
      | ok next =>
          rw [hstep] at h
          exact Nat.le_of_succ_le (ih h)

/-- Only what trimming leaves of the lines makes a difference. -/
theorem State.run_map {f : Text → Text} (h : ∀ t, Text.trim (f t) = Text.trim t) :
    state.run number (lines.map f) = state.run number lines := by
  induction lines generalizing number state with
  | nil => rfl
  | cons line rest ih =>
      have hitem : Item.ofLine (f line) = Item.ofLine line := congrArg Item.ofTrimmed (h line)
      rw [List.map_cons, State.run, State.run, hitem]
      cases state.step (Item.ofLine line) with
      | error fault => rfl
      | ok next => exact ih

/-! ## Files -/

variable {content : Text}

/-- A file is read if its lines can be read one after the other. -/
theorem read_eq_ok_iff {sections : Sections} :
    read content = .ok sections ↔
      ∃ final, State.run 1 {} ((Line.split content).map (·.text)) = .ok final ∧
        final.sections = sections :=
  map_eq_ok_iff

theorem read_eq_error_iff {error : SyntaxError} :
    read content = .error error ↔
      State.run 1 {} ((Line.split content).map (·.text)) = .error error :=
  map_eq_error_iff

end Ini

end TextHygiene
