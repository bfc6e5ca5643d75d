import Mathlib.Data.List.Induction
import Mathlib.Data.List.Nodup
import TextHygiene.Dict

/-!
# Dictionaries made from pairs

Setting pairs one after the other: the last pair with a key decides its value, while the first pair
with it decides its place.  So the last entry is not made by the last pair, but by the pair that
`DecidedBy` describes.
-/

namespace TextHygiene

namespace Dict

variable {β : Type}

/-! ## Values -/

theorem get?_set_self (d : Dict β) (key : Text) (value : β) :
    (d.set key value).get? key = some value :=
  get?_update_self d key _

theorem get?_set_of_ne (d : Dict β) {key other : Text} (value : β) (hne : other ≠ key) :
    (d.set key value).get? other = d.get? other :=
  get?_update_of_ne d _ hne

/-- After more pairs are set, the last of them with a key decides; without one the old value
stands. -/
theorem get?_foldl_set (pairs : List (Text × β)) (d : Dict β) (key : Text) :
    (pairs.foldl (fun d (key, value) => d.set key value) d).get? key =
      (((pairs.filter (·.1 == key)).getLast?).map (·.2)).or (d.get? key) := by
  -- each pair is set in the dictionary that the pairs before have left
  induction pairs generalizing d with
  | nil => rfl
  | cons pair rest ih =>
      rcases pair with ⟨k, v⟩
      rw [List.foldl_cons, ih]
      by_cases hk : k = key
      · -- the pair counts only if no later one has its key
        subst hk
        cases hlast : (rest.filter (·.1 == k)).getLast? with
        | none => simp [get?_set_self, List.getLast?_cons, hlast]
        | some last => simp [List.getLast?_cons, hlast]
      · have hne : key ≠ k := fun h => hk h.symm
        simp [hk, get?_set_of_ne d v hne]

/-- The last pair with a key decides what stands under it. -/
theorem get?_ofList (pairs : List (Text × β)) (key : Text) :
    (ofList pairs).get? key = ((pairs.filter (·.1 == key)).getLast?).map (·.2) := by
  rw [ofList, get?_foldl_set]
  simp [empty, get?]

/-- What stands under a key comes from one of the pairs. -/
theorem exists_get?_ofList {pairs : List (Text × β)} {key : Text} (h : key ∈ pairs.map (·.1)) :
    ∃ value, (key, value) ∈ pairs ∧ (ofList pairs).get? key = some value := by
  rcases List.mem_map.1 h with ⟨pair, hpair, rfl⟩
  have hmem : pair ∈ pairs.filter (·.1 == pair.1) :=
    List.mem_filter.2 ⟨hpair, beq_self_eq_true _⟩
  cases hlast : (pairs.filter (·.1 == pair.1)).getLast? with
  | none => simp [List.getLast?_eq_none_iff.1 hlast] at hmem
  | some last =>
      rcases List.mem_filter.1 (List.mem_of_getLast? hlast) with ⟨hin, hkey⟩
      refine ⟨last.2, ?_, ?_⟩
      · rwa [← beq_iff_eq.1 hkey]
      · rw [get?_ofList, hlast]
        rfl

/-! ## Equality -/

theorem get?_eq_some_iff {d : Dict β} {key : Text} {value : β} :
    d.get? key = some value ↔ (key, value) ∈ d.entries := by
  constructor
  · intro h
    rcases Option.map_eq_some_iff.1 h with ⟨entry, hfind, rfl⟩
    have hkey : entry.1 = key := by simpa using List.find?_some hfind
    exact hkey ▸ List.mem_of_find?_eq_some hfind
  · intro hmem
    rw [get?]
    cases hfind : d.entries.find? (·.1 == key) with
    | none => exact absurd (beq_self_eq_true key) (List.find?_eq_none.1 hfind _ hmem)
    | some found =>
        -- no two entries have the same key
        have hkey : found.1 = key := by simpa using List.find?_some hfind
        have hsame : found = (key, value) :=
          List.inj_on_of_nodup_map d.nodup (List.mem_of_find?_eq_some hfind) hmem hkey
        rw [hsame]
        rfl

theorem get?_eq_none_iff {d : Dict β} {key : Text} : d.get? key = none ↔ key ∉ d.keys := by
  rw [Option.eq_none_iff_forall_ne_some, keys, List.mem_map]
  constructor
  · rintro h ⟨entry, hmem, rfl⟩
    exact h entry.2 (get?_eq_some_iff.2 hmem)
  · intro h value hget
    exact h ⟨_, get?_eq_some_iff.1 hget, rfl⟩

/-- A dictionary is known by its keys and by what stands under each of them. -/
theorem entries_eq_filterMap (d : Dict β) :
    d.entries = d.keys.filterMap fun key => (d.get? key).map fun value => (key, value) := by
  have hentry : ∀ entry ∈ d.entries,
      (d.get? entry.1).map (fun value => (entry.1, value)) = some entry := by
    intro entry hmem
    rw [get?_eq_some_iff.2 hmem]
    rfl
  rw [keys, List.filterMap_map]
  calc
    d.entries = d.entries.filterMap some := List.filterMap_some.symm
    _ = _ := List.filterMap_congr fun entry hmem => (hentry entry hmem).symm

/-- Dictionaries are the same if they have the same keys in the same order with the same values. -/
theorem ext_get? {d e : Dict β} (hkeys : d.keys = e.keys)
    (hvalues : ∀ key, d.get? key = e.get? key) : d = e := by
  have hentries : d.entries = e.entries := by
    rw [entries_eq_filterMap d, entries_eq_filterMap e, hkeys]
    simp only [hvalues]
  cases d
  cases e
  cases hentries
  rfl

/-- An entry stood there before or is the one that was updated. -/
theorem mem_entries_update {d : Dict β} {key : Text} {f : Option β → β} {entry : Text × β}
    (h : entry ∈ (d.update key f).entries) :
    entry ∈ d.entries ∨ entry = (key, f (d.get? key)) := by
  have hget := get?_eq_some_iff.2 h
  by_cases hkey : entry.1 = key
  · rw [hkey, get?_update_self] at hget
    exact Or.inr (Prod.ext hkey (Option.some.inj hget).symm)
  · rw [get?_update_of_ne _ _ hkey] at hget
    exact Or.inl (get?_eq_some_iff.1 hget)

/-- Computing a value is setting it to what it comes to. -/
theorem update_eq_set (d : Dict β) (key : Text) (f : Option β → β) :
    d.update key f = d.set key (f (d.get? key)) := by
  apply ext_get?
  · rw [set, keys_update, keys_update]
  · intro other
    by_cases hkey : other = key
    · subst hkey
      rw [get?_update_self, get?_set_self]
    · rw [get?_update_of_ne _ _ hkey, get?_set_of_ne _ _ hkey]

/-- Only the last value under a key counts. -/
theorem update_set (d : Dict β) (key : Text) (value : β) (f : Option β → β) :
    (d.set key value).update key f = d.set key (f (some value)) := by
  apply ext_get?
  · rw [keys_update, set, set, keys_update, keys_update]
    by_cases hmem : key ∈ d.keys
    · simp [hmem]
    · simp [hmem]
  · intro other
    by_cases hkey : other = key
    · subst hkey
      rw [get?_update_self, get?_set_self, get?_set_self]
    · rw [get?_update_of_ne _ _ hkey, get?_set_of_ne _ _ hkey, get?_set_of_ne _ _ hkey]

/-- A new key with its value becomes the last entry. -/
theorem entries_set_of_not_mem {d : Dict β} {key : Text} (value : β) (h : key ∉ d.keys) :
    (d.set key value).entries = d.entries ++ [(key, value)] := by
  have hkeys : (d.set key value).keys = d.keys ++ [key] := by
    rw [set, keys_update, if_neg h]
  have hold : ∀ old ∈ d.keys, (d.set key value).get? old = d.get? old := by
    intro old hmem
    apply get?_set_of_ne
    rintro rfl
    exact h hmem
  rw [entries_eq_filterMap, hkeys, List.filterMap_append, entries_eq_filterMap d]
  congr 1
  · apply List.filterMap_congr
    intro old hmem
    rw [hold old hmem]
  · simp [get?_set_self]

/-- Pairs with new keys become entries as they stand. -/
theorem entries_foldl_set {pairs : List (Text × β)} {d : Dict β}
    (h : (d.keys ++ pairs.map (·.1)).Nodup) :
    (pairs.foldl (fun d (key, value) => d.set key value) d).entries = d.entries ++ pairs := by
  induction pairs generalizing d with
  | nil => simp
  | cons pair rest ih =>
      have hfresh : pair.1 ∉ d.keys := by
        intro hmem
        exact (List.nodup_append.1 h).2.2 _ hmem _ List.mem_cons_self rfl
      have hkeys : (d.set pair.1 pair.2).keys = d.keys ++ [pair.1] := by
        rw [set, keys_update, if_neg hfresh]
      -- the key that has just been set is not among the later ones either
      have hrest : ((d.set pair.1 pair.2).keys ++ rest.map (·.1)).Nodup := by
        rw [hkeys, List.append_assoc]
        exact h
      rw [List.foldl_cons, ih hrest, entries_set_of_not_mem _ hfresh, List.append_assoc]
      rfl

/-- The entries of a dictionary, set one after the other, make the same dictionary. -/
theorem ofList_entries (d : Dict β) : ofList d.entries = d := by
  have hentries : (ofList d.entries).entries = d.entries :=
    entries_foldl_set (d := empty) d.nodup
  apply ext_get?
  · rw [keys, keys, hentries]
  · intro key
    rw [get?, get?, hentries]

/-! ## Order of the entries -/

theorem ofList_concat (pairs : List (Text × β)) (pair : Text × β) :
    ofList (pairs ++ [pair]) = (ofList pairs).set pair.1 pair.2 := by
  simp [ofList]

/-- Entries whose keys pass a test are made from the pairs that do. -/
theorem filter_updateEntries (test : Text → Bool) (key : Text) (f : Option β → β)
    (entries : List (Text × β)) :
    (updateEntries key f entries).filter (fun entry => test entry.1) =
      if test key then updateEntries key f (entries.filter fun entry => test entry.1)
      else entries.filter fun entry => test entry.1 := by
  induction entries with
  | nil =>
      by_cases ht : test key = true
      · simp [updateEntries, ht]
      · simp [updateEntries, ht]
  | cons entry rest ih =>
      rcases entry with ⟨k, v⟩
      by_cases hk : k = key
      · -- an entry keeps its key, and so its place among those that pass
        subst hk
        by_cases ht : test k = true
        · simp [updateEntries, ht]
        · simp [updateEntries, ht]
      · by_cases ht : test k = true
        · simp only [updateEntries, hk, if_false, List.filter_cons, ht, if_true, ih]
          split
          · rfl
          · rfl
        · simp only [updateEntries, hk, if_false, List.filter_cons, ht, ih]
          rfl

/-- Pairs with keys that are not asked for have no say in the other entries. -/
theorem filter_entries_ofList (test : Text → Bool) (pairs : List (Text × β)) :
    (ofList pairs).entries.filter (fun entry => test entry.1) =
      (ofList (pairs.filter fun pair => test pair.1)).entries := by
  induction pairs using List.reverseRecOn with
  | nil => rfl
  | append_singleton pairs pair ih =>
      rw [ofList_concat, set, update, filter_updateEntries, List.filter_append, ih]
      by_cases ht : test pair.1 = true
      · simp [ht, ofList_concat, set, update]
      · simp [ht]

/-- A key set again leaves the last entry last; a new key becomes the last entry. -/
theorem getLast?_updateEntries (key : Text) (value : β) {entries : List (Text × β)}
    (hnodup : (entries.map (·.1)).Nodup) :
    (updateEntries key (fun _ => value) entries).getLast? =
      if key ∈ entries.map (·.1) then
        entries.getLast?.map fun last => if last.1 = key then (key, value) else last
      else some (key, value) := by
  induction entries with
  | nil => rfl
  | cons entry rest ih =>
      rcases entry with ⟨k, v⟩
      rcases List.nodup_cons.1 hnodup with ⟨hfresh, hrest⟩
      by_cases hk : k = key
      · subst hk
        cases hlast : rest.getLast? with
        | none => simp [updateEntries, List.getLast?_cons, hlast]
        | some last =>
            -- the key is the first, so the last entry has another one
            have hmem : last.1 ∈ rest.map (·.1) :=
              List.mem_map_of_mem (List.mem_of_getLast? hlast)
            have hne : last.1 ≠ k := fun h => hfresh (h ▸ hmem)
            simp [updateEntries, List.getLast?_cons, hlast, hne]
      · have hk' : key ≠ k := fun h => hk h.symm
        have hiff : key ∈ ((k, v) :: rest).map (·.1) ↔ key ∈ rest.map (·.1) := by
          rw [List.map_cons, List.mem_cons, or_iff_right hk']
        rw [updateEntries, if_neg hk, List.getLast?_cons, ih hrest, List.getLast?_cons]
        by_cases hmem : key ∈ rest.map (·.1)
        · rw [if_pos hmem, if_pos (hiff.2 hmem)]
          cases hlast : rest.getLast? with
          | none => simp [List.getLast?_eq_none_iff.1 hlast] at hmem
          | some last => rfl
        · rw [if_neg hmem, if_neg fun h => hmem (hiff.1 h)]
          rfl

theorem mem_keys_ofList {pairs : List (Text × β)} {key : Text} :
    key ∈ (ofList pairs).keys ↔ key ∈ pairs.map (·.1) := by
  induction pairs using List.reverseRecOn generalizing key with
  | nil => simp [ofList, empty, keys]
  | append_singleton pairs pair ih =>
      rw [ofList_concat, set, keys_update, List.map_append, List.mem_append]
      split
      · next hmem =>
          rw [ih] at hmem ⊢
          refine ⟨Or.inl, ?_⟩
          rintro (h | h)
          · exact h
          · rwa [List.mem_singleton.1 h]
      · rw [List.mem_append, ih]
        rfl

/-- Every entry is one of the pairs. -/
theorem mem_of_mem_entries_ofList {pairs : List (Text × β)} {entry : Text × β}
    (h : entry ∈ (ofList pairs).entries) : entry ∈ pairs := by
  have hkey : entry.1 ∈ pairs.map (·.1) := mem_keys_ofList.1 (List.mem_map_of_mem h)
  rcases exists_get?_ofList hkey with ⟨value, hmem, hget⟩
  rw [get?_eq_some_iff.2 h] at hget
  cases hget
  exact hmem

/-- `pair` is the last entry that some pairs make: its key is the one that comes up last for the
first time, and no later pair has that key. -/
def DecidedBy (pairs : List (Text × β)) (pair : Text × β) : Prop :=
  ∃ before after, pairs = before ++ after ∧ pair.1 ∉ before.map (·.1) ∧
    (∀ other ∈ after, other.1 = pair.1 ∨ other.1 ∈ before.map (·.1)) ∧
    (after.filter (·.1 == pair.1)).getLast? = some pair

theorem mem_keys_before {before after : List (Text × β)} {key : Text}
    (hafter : ∀ other ∈ after, other.1 = key ∨ other.1 ∈ before.map (·.1))
    {k : Text} (hk : k ∈ (before ++ after).map (·.1)) (hne : k ≠ key) :
    k ∈ before.map (·.1) := by
  rcases List.mem_map.1 hk with ⟨other, hother, rfl⟩
  rcases List.mem_append.1 hother with h | h
  · exact List.mem_map_of_mem h
  · exact (hafter other h).resolve_left hne

/-- The pair that decides is the last one with its key. -/
theorem DecidedBy.last {pairs : List (Text × β)} {pair : Text × β} (h : DecidedBy pairs pair) :
    (pairs.filter (·.1 == pair.1)).getLast? = some pair := by
  rcases h with ⟨before, after, rfl, hbefore, _, hlast⟩
  -- the key does not come up before
  have hnone : before.filter (·.1 == pair.1) = [] := by
    rw [List.filter_eq_nil_iff]
    intro other hother hkey
    exact hbefore (beq_iff_eq.1 hkey ▸ List.mem_map_of_mem hother)
  rw [List.filter_append, hnone, List.nil_append, hlast]

theorem DecidedBy.mem {pairs : List (Text × β)} {pair : Text × β} (h : DecidedBy pairs pair) :
    pair ∈ pairs :=
  (List.mem_filter.1 (List.mem_of_getLast? h.last)).1

/-- One pair decides at most. -/
theorem DecidedBy.unique {pairs : List (Text × β)} {a b : Text × β}
    (ha : DecidedBy pairs a) (hb : DecidedBy pairs b) : a = b := by
  have hmem_a : a ∈ pairs := ha.mem
  have hmem_b : b ∈ pairs := hb.mem
  -- two keys cannot both be the one that comes up last
  have hkey : a.1 = b.1 := by
    by_contra hne
    rcases ha with ⟨before, after, hsplit, hbefore, hafter, hlast⟩
    rcases hb with ⟨before', after', hsplit', hbefore', hafter', hlast'⟩
    have hb_mem : b.1 ∈ before.map (·.1) :=
      mem_keys_before hafter (hsplit ▸ List.mem_map_of_mem hmem_b) (Ne.symm hne)
    have ha_mem : a.1 ∈ before'.map (·.1) :=
      mem_keys_before hafter' (hsplit' ▸ List.mem_map_of_mem hmem_a) hne
    -- both beginnings begin the same list, so one of them contains the other
    rcases List.prefix_or_prefix_of_prefix ⟨after, hsplit.symm⟩ ⟨after', hsplit'.symm⟩ with h | h
    · exact hbefore' ((h.map _).subset hb_mem)
    · exact hbefore ((h.map _).subset ha_mem)
  have hlast := hkey ▸ ha.last
  exact Option.some.inj (hlast.symm.trans hb.last)

/-- The last entry of a dictionary is a pair that decides. -/
theorem decidedBy_of_getLast? {pairs : List (Text × β)} {pair : Text × β}
    (h : (ofList pairs).entries.getLast? = some pair) : DecidedBy pairs pair := by
  -- a further pair changes the last entry if its key is new or is the key of the last entry
  induction pairs using List.reverseRecOn generalizing pair with
  | nil => simp [ofList, empty] at h
  | append_singleton pairs new ih =>
      rw [ofList_concat, set, update, getLast?_updateEntries _ _ (ofList pairs).nodup] at h
      by_cases hmem : new.1 ∈ (ofList pairs).entries.map (·.1)
      · rw [if_pos hmem] at h
        rcases Option.map_eq_some_iff.1 h with ⟨last, hlast, hpair⟩
        rcases ih hlast with ⟨before, after, rfl, hbefore, hafter, hvalue⟩
        by_cases hkey : last.1 = new.1
        · rw [if_pos hkey] at hpair
          subst hpair
          refine ⟨before, after ++ [new], by simp, hkey ▸ hbefore, ?_, ?_⟩
          · intro other hother
            rcases List.mem_append.1 hother with h | h
            · exact hkey ▸ hafter other h
            · exact Or.inl (by rw [List.mem_singleton.1 h])
          · simp
        · rw [if_neg hkey] at hpair
          subst hpair
          -- the key is set already, and it is not the deciding one
          have hold : new.1 ∈ before.map (·.1) :=
            mem_keys_before hafter (mem_keys_ofList.1 hmem) (Ne.symm hkey)
          refine ⟨before, after ++ [new], by simp, hbefore, ?_, ?_⟩
          · intro other hother
            rcases List.mem_append.1 hother with h | h
            · exact hafter other h
            · rw [List.mem_singleton.1 h]
              exact Or.inr hold
          · have hne : ¬ new.1 = last.1 := fun h => hkey h.symm
            simp [hne, hvalue]
      · -- a new key comes up last by itself
        rw [if_neg hmem] at h
        cases h
        refine ⟨pairs, [new], rfl, fun h => hmem (mem_keys_ofList.2 h), ?_, ?_⟩
        · simp
        · simp

/-- The last entry that some pairs make is the one of the pair that decides. -/
theorem getLast?_entries_ofList {pairs : List (Text × β)} {pair : Text × β} :
    (ofList pairs).entries.getLast? = some pair ↔ DecidedBy pairs pair := by
  refine ⟨decidedBy_of_getLast?, fun h => ?_⟩
  cases hlast : (ofList pairs).entries.getLast? with
  | none =>
      have hkey : pair.1 ∈ (ofList pairs).keys :=
        mem_keys_ofList.2 (List.mem_map_of_mem h.mem)
      simp [keys, List.getLast?_eq_none_iff.1 hlast] at hkey
  | some last => rw [(decidedBy_of_getLast? hlast).unique h]

end Dict

end TextHygiene
