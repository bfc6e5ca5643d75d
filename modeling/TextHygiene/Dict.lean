import TextHygiene.Text.Basic

/-!
# Dictionaries in order of insertion

A dictionary keeps its keys in the order in which they were first set.  Setting a key again replaces
the value and leaves the key in its place.
-/

namespace TextHygiene

/-- Values under distinct keys, in the order in which the keys were first set. -/
structure Dict (β : Type) where
  entries : List (Text × β)
  nodup : (entries.map (·.1)).Nodup
deriving DecidableEq, Repr

namespace Dict

variable {β : Type}

/-! ## Entries -/

/-- Replaces the value of the entry for `key`, or adds an entry at the end. -/
def updateEntries (key : Text) (f : Option β → β) : List (Text × β) → List (Text × β)
  | [] => [(key, f none)]
  | (k, v) :: rest =>
      if k = key then (k, f (some v)) :: rest else (k, v) :: updateEntries key f rest

/-- A key keeps its place if it is there already and comes last otherwise. -/
theorem keys_updateEntries (key : Text) (f : Option β → β) (entries : List (Text × β)) :
    (updateEntries key f entries).map (·.1) =
      if key ∈ entries.map (·.1) then entries.map (·.1) else entries.map (·.1) ++ [key] := by
  induction entries with
  | nil => simp [updateEntries]
  | cons entry rest ih =>
      rcases entry with ⟨k, v⟩
      by_cases h : k = key
      · simp [updateEntries, h]
      · have h' : ¬ key = k := fun e => h e.symm
        by_cases hm : key ∈ rest.map (·.1)
        · simp only [List.mem_map] at hm ih
          simp [updateEntries, h, h', ih, hm]
        · simp only [List.mem_map] at hm ih
          simp [updateEntries, h, h', ih, hm]

theorem nodup_updateEntries (key : Text) (f : Option β → β) {entries : List (Text × β)}
    (h : (entries.map (·.1)).Nodup) : ((updateEntries key f entries).map (·.1)).Nodup := by
  rw [keys_updateEntries]
  split
  · exact h
  · next hk => exact List.nodup_append.2 ⟨h, by simp, by simpa using fun a b hab e => hk (by
      subst e; exact List.mem_map.2 ⟨_, hab, rfl⟩)⟩

/-! ## Operations -/

def empty : Dict β :=
  ⟨[], by simp⟩

def keys (d : Dict β) : List Text :=
  d.entries.map (·.1)

def get? (d : Dict β) (key : Text) : Option β :=
  (d.entries.find? (·.1 == key)).map (·.2)

/-- Computes the value under a key from the value that stood there before. -/
def update (d : Dict β) (key : Text) (f : Option β → β) : Dict β :=
  ⟨updateEntries key f d.entries, nodup_updateEntries key f d.nodup⟩

def set (d : Dict β) (key : Text) (value : β) : Dict β :=
  d.update key fun _ => value

def ofList (pairs : List (Text × β)) : Dict β :=
  pairs.foldl (fun d (key, value) => d.set key value) empty

def size (d : Dict β) : Nat :=
  d.entries.length

theorem keys_update (d : Dict β) (key : Text) (f : Option β → β) :
    (d.update key f).keys = if key ∈ d.keys then d.keys else d.keys ++ [key] :=
  keys_updateEntries key f d.entries

theorem get?_update_self (d : Dict β) (key : Text) (f : Option β → β) :
    (d.update key f).get? key = some (f (d.get? key)) := by
  rcases d with ⟨entries, h⟩
  simp only [get?, update]
  clear h
  induction entries with
  | nil => simp [updateEntries]
  | cons entry rest ih =>
      by_cases hk : entry.1 = key
      · simp [updateEntries, hk]
      · simp [updateEntries, hk, ih]

/-- What stands under the other keys does not change. -/
theorem get?_update_of_ne (d : Dict β) {key other : Text} (f : Option β → β) (hne : other ≠ key) :
    (d.update key f).get? other = d.get? other := by
  rcases d with ⟨entries, h⟩
  simp only [get?, update]
  clear h
  induction entries with
  | nil => simp [updateEntries, Ne.symm hne]
  | cons entry rest ih =>
      by_cases hk : entry.1 = key
      · have : ¬ key = other := fun e => hne e.symm
        simp [updateEntries, hk, this]
      · by_cases ho : entry.1 = other
        · simp [updateEntries, ho, hne]
        · simp [updateEntries, hk, ho, ih]

end Dict

end TextHygiene
