import Mathlib.Data.List.Forall2
import TextHygiene.Journal

/-!
# Chains of stages

A chain of stages succeeds exactly if every stage does, and it fails exactly as the first of its
stages that fails.  These lemmas take a chain apart, so that a statement about a run opens it stage
by stage.
-/

namespace TextHygiene

variable {ε ε' α β : Type}

/-- Two stages succeed if the first does and the second does with its result. -/
theorem bind_eq_ok_iff {x : Except ε α} {f : α → Except ε β} {b : β} :
    x >>= f = .ok b ↔ ∃ a, x = .ok a ∧ f a = .ok b := by
  cases x with
  | error e => simp [bind, Except.bind]
  | ok a => simp [bind, Except.bind]

theorem map_eq_ok_iff {x : Except ε α} {f : α → β} {b : β} :
    x.map f = .ok b ↔ ∃ a, x = .ok a ∧ f a = b := by
  cases x with
  | error e => simp [Except.map]
  | ok a => simp [Except.map]

theorem mapError_eq_ok_iff {x : Except ε α} {f : ε → ε'} {a : α} :
    x.mapError f = .ok a ↔ x = .ok a := by
  cases x with
  | error e => simp [Except.mapError]
  | ok a => simp [Except.mapError]

theorem toOption_eq_some_iff {x : Except ε α} {a : α} : x.toOption = some a ↔ x = .ok a := by
  cases x with
  | error e => simp [Except.toOption]
  | ok b => simp [Except.toOption]

/-- A stage that goes through a list succeeds exactly if it does on every member. -/
theorem mapM_eq_ok_iff {f : α → Except ε β} {l : List α} {r : List β} :
    l.mapM f = .ok r ↔ List.Forall₂ (fun a b => f a = .ok b) l r := by
  induction l generalizing r with
  | nil =>
      simp only [List.mapM_nil, List.forall₂_nil_left_iff]
      constructor
      · intro h
        cases h
        rfl
      · rintro rfl
        rfl
  | cons a rest ih =>
      -- the first member, then the others
      rw [List.mapM_cons, bind_eq_ok_iff]
      constructor
      · rintro ⟨b, hb, h⟩
        rcases bind_eq_ok_iff.1 h with ⟨bs, hbs, h⟩
        cases h
        exact List.Forall₂.cons hb (ih.1 hbs)
      · intro h
        cases h with
        | cons hb hbs =>
            exact ⟨_, hb, bind_eq_ok_iff.2 ⟨_, ih.2 hbs, rfl⟩⟩

/-! ## Failing chains -/

/-- If the faults of a stage are known, and how the stages after it fail once it passed, then so is
how the chain fails. -/
theorem bind_eq_error_iff {x : Except ε α} {f : α → Except ε β} {e : ε} {fault : ε → Prop}
    {later : Prop} (hx : ∀ e', fault e' ↔ x = .error e')
    (hf : ∀ a, x = .ok a → (f a = .error e ↔ later)) :
    x >>= f = .error e ↔ fault e ∨ (∀ e', ¬ fault e') ∧ later := by
  cases x with
  | error e' => simp [bind, Except.bind, hx]
  | ok a => simpa [bind, Except.bind, hx] using hf a rfl

theorem map_eq_error_iff {x : Except ε α} {f : α → β} {e : ε} :
    x.map f = .error e ↔ x = .error e := by
  cases x with
  | error e' => simp [Except.map]
  | ok a => simp [Except.map]

theorem mapError_eq_error_iff {x : Except ε α} {f : ε → ε'} {e : ε'} :
    x.mapError f = .error e ↔ ∃ e', x = .error e' ∧ e = f e' := by
  cases x with
  | error e' => simp [Except.mapError, eq_comm]
  | ok a => simp [Except.mapError]

theorem exists_ok_iff {x : Except ε α} : (∃ a, x = .ok a) ↔ ∀ e, x ≠ .error e := by
  cases x with
  | error e => simp
  | ok a => simp

/-- A fault `e` of the first member of a list that has any. -/
def FirstFault (fault : α → ε → Prop) (l : List α) (e : ε) : Prop :=
  ∃ before a after, l = before ++ a :: after ∧ (∀ b ∈ before, ∀ e', ¬ fault b e') ∧ fault a e

theorem not_firstFault_nil {fault : α → ε → Prop} {e : ε} : ¬ FirstFault fault [] e := by
  rintro ⟨before, a, after, hnil, _⟩
  exact List.append_ne_nil_of_right_ne_nil before (List.cons_ne_nil a after) hnil.symm

/-- The first fault is that of the first member, or that of a later one if the first member has
none. -/
theorem firstFault_cons_iff {fault : α → ε → Prop} {a : α} {l : List α} {e : ε} :
    FirstFault fault (a :: l) e ↔
      fault a e ∨ (∀ e', ¬ fault a e') ∧ FirstFault fault l e := by
  constructor
  · rintro ⟨before, b, after, hsplit, hbefore, hb⟩
    cases before with
    | nil =>
        cases hsplit
        exact Or.inl hb
    | cons c before =>
        rcases List.cons.inj hsplit with ⟨rfl, rfl⟩
        rcases List.forall_mem_cons.1 hbefore with ⟨ha, hbefore⟩
        exact Or.inr ⟨ha, before, b, after, rfl, hbefore, hb⟩
  · rintro (ha | ⟨ha, before, b, after, rfl, hbefore, hb⟩)
    · exact ⟨[], a, l, rfl, nofun, ha⟩
    · exact ⟨a :: before, b, after, rfl, List.forall_mem_cons.2 ⟨ha, hbefore⟩, hb⟩

theorem firstFault_singleton_iff {fault : α → ε → Prop} {a : α} {e : ε} :
    FirstFault fault [a] e ↔ fault a e := by
  rw [firstFault_cons_iff, or_iff_left]
  exact fun h => not_firstFault_nil h.2

/-- There is no first fault exactly if there is no fault. -/
theorem forall_not_firstFault_iff {fault : α → ε → Prop} {l : List α} :
    (∀ e, ¬ FirstFault fault l e) ↔ ∀ a ∈ l, ∀ e, ¬ fault a e := by
  constructor
  · intro h
    induction l with
    | nil => exact List.forall_mem_nil _
    | cons a rest ih =>
        have ha : ∀ e, ¬ fault a e := fun e he => h e (firstFault_cons_iff.2 (Or.inl he))
        refine List.forall_mem_cons.2 ⟨ha, ih fun e he => ?_⟩
        exact h e (firstFault_cons_iff.2 (Or.inr ⟨ha, he⟩))
  · rintro h e ⟨before, a, after, rfl, _, ha⟩
    exact h a (List.mem_append_right before List.mem_cons_self) e ha

/-- A stage that goes through a list fails as it does on the first member that it fails on. -/
theorem mapM_eq_error_iff {f : α → Except ε β} {l : List α} {e : ε} :
    l.mapM f = .error e ↔ FirstFault (fun a e => f a = .error e) l e := by
  induction l with
  | nil => exact iff_of_false nofun not_firstFault_nil
  | cons a rest ih =>
      rw [List.mapM_cons, firstFault_cons_iff]
      -- what the others give is only put behind the first
      refine bind_eq_error_iff (fun _ => Iff.rfl) fun b _ => ?_
      exact (map_eq_error_iff (x := rest.mapM f)).trans ih

/-- A stage that goes through a list with a state on which its faults do not depend fails as it does
on the first member that has a fault. -/
theorem foldlM_eq_error_iff {f : β → α → Except ε β} {fault : α → ε → Prop}
    (hfault : ∀ b a e, fault a e ↔ f b a = .error e) {l : List α} {b : β} {e : ε} :
    l.foldlM f b = .error e ↔ FirstFault fault l e := by
  induction l generalizing b with
  | nil => exact iff_of_false nofun not_firstFault_nil
  | cons a rest ih =>
      rw [List.foldlM_cons, firstFault_cons_iff]
      exact bind_eq_error_iff (hfault b a) fun _ _ => ih

end TextHygiene
