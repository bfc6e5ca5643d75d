import Mathlib.Data.List.Induction
import TextHygiene.Proofs.Lookup
import TextHygiene.Selection

/-!
# What a walk gets to

A walk gets from a directory to its entries if it can list the directory.  So it gets to a place
below a root exactly if it can list all directories above, and it visits exactly the places that it
gets to.  The path under which it visits a place leads there, unless the path is too long or the
directory that holds the place is closed.
-/

namespace TextHygiene

/-! ## Paths below a root -/

def Path.below (path : Path) (names : List Text) : Path :=
  names.foldl Path.join path

theorem Path.below_concat (path : Path) (names : List Text) (name : Text) :
    path.below (names ++ [name]) = (path.below names).join name := by
  simp [below]

theorem Path.prefix_below (path : Path) (names : List Text) : path <+: path.below names := by
  induction names generalizing path with
  | nil => exact List.prefix_refl _
  | cons name rest ih =>
      refine List.IsPrefix.trans ?_ (ih (path.join name))
      rw [join]
      split
      · exact List.prefix_append _ _
      · exact List.prefix_append _ _

/-- A path that is short enough stays so without the last of its names. -/
theorem Path.isTooLong_below_of_append {path : Path} {names rest : List Text}
    (h : (path.below (names ++ rest)).isTooLong = false) :
    (path.below names).isTooLong = false := by
  have hprefix : path.below names <+: path.below (names ++ rest) := by
    rw [below, below, List.foldl_append]
    exact prefix_below _ rest
  rcases hprefix with ⟨behind, hbehind⟩
  -- the bytes of a path are those of its beginning and some more
  have hlength : (Utf8.encode (path.below (names ++ rest))).length ≤ pathLimit :=
    Nat.le_of_not_lt (of_decide_eq_false h)
  rw [← hbehind, Utf8.encode, List.flatMap_append, List.length_append] at hlength
  exact decide_eq_false (Nat.not_lt.2 (Nat.le_trans (Nat.le_add_right _ _) hlength))

namespace FileTree

/-! ## Places -/

/-- A walk from `path`, which leads to `tree`, gets to `sub` by going down names.  The `Bool` says
whether the directory that holds `sub` is open to what is in it. -/
inductive Walked (path : Path) (tree : FileTree) : List Text → Bool → FileTree → Prop
  | root : Walked path tree [] true tree
  | into {names : List Text} {reachable listable enterable : Bool}
      {entries : List (Text × FileTree)} {name : Text} {child : FileTree} :
      Walked path tree names reachable (.directory listable enterable entries) →
      listingFault? (path.below names) reachable listable = none →
      (name, child) ∈ entries →
      Walked path tree (names ++ [name]) enterable child

/-- A directory can be listed if its path is not too long, it can be reached, and it is open to
listing. -/
theorem listingFault?_eq_none_iff {path : Path} {reachable listable : Bool} :
    listingFault? path reachable listable = none ↔
      path.isTooLong = false ∧ reachable = true ∧ listable = true := by
  rw [listingFault?]
  cases path.isTooLong with
  | true => simp
  | false =>
      cases reachable with
      | false => simp
      | true => simp

/-- Why a walk cannot go on at a place, if it is a directory that cannot be listed. -/
def fault? (path : Path) (reachable : Bool) : FileTree → Option AccessFault
  | .directory listable .. => listingFault? path reachable listable
  | _ => none

/-! ## Visits -/

/-- An entry is smaller than its directory. -/
theorem sizeOf_entry_lt {listable enterable : Bool} {entries : List (Text × FileTree)}
    {entry : Text × FileTree} (hmem : entry ∈ entries) :
    sizeOf entry.2 < sizeOf (directory listable enterable entries) := by
  have hlt := List.sizeOf_lt_of_mem hmem
  rcases entry with ⟨name, child⟩
  simp only [Prod.mk.sizeOf_spec, directory.sizeOf_spec] at hlt ⊢
  omega

/-- What is met in the entries of a directory is met at one of them or below it. -/
theorem mem_entryVisits_iff {path : Path} {reachable : Bool} {entries : List (Text × FileTree)}
    {visit : Visit} :
    visit ∈ entryVisits path reachable entries ↔
      ∃ name child, (name, child) ∈ entries ∧ visit ∈ child.visits (path.join name) reachable := by
  induction entries with
  | nil => simp [entryVisits]
  | cons entry rest ih =>
      rcases entry with ⟨name, tree⟩
      rw [entryVisits, List.mem_append, ih]
      constructor
      · rintro (h | ⟨name', child, hmem, h⟩)
        · exact ⟨name, tree, List.mem_cons_self, h⟩
        · exact ⟨name', child, List.mem_cons_of_mem _ hmem, h⟩
      · rintro ⟨name', child, hmem, h⟩
        rcases List.mem_cons.1 hmem with heq | hin
        · cases heq
          exact Or.inl h
        · exact Or.inr ⟨name', child, hin, h⟩

/-- A directory is visited, and then it is left out or its entries are visited. -/
theorem mem_visits_directory_iff {path : Path} {reachable listable enterable : Bool}
    {entries : List (Text × FileTree)} {visit : Visit} :
    visit ∈ (directory listable enterable entries).visits path reachable ↔
      visit = .entry path false ∨
        (∃ fault, listingFault? path reachable listable = some fault ∧
          visit = .unreadable path fault) ∨
        (listingFault? path reachable listable = none ∧
          ∃ name child, (name, child) ∈ entries ∧
            visit ∈ child.visits (path.join name) enterable) := by
  rw [visits, List.mem_cons]
  cases hfault : listingFault? path reachable listable with
  | none => simp [mem_entryVisits_iff]
  | some fault => simp

/-- What is visited from a place that a walk gets to is visited by the walk. -/
theorem Walked.visits_subset {path : Path} {tree sub : FileTree} {names : List Text}
    {reachable : Bool} (h : Walked path tree names reachable sub) :
    sub.visits (path.below names) reachable ⊆ tree.visits path true := by
  induction h with
  | root => exact List.Subset.refl _
  | @into names _ _ _ _ name child _ hfault hmem ih =>
      intro visit hvisit
      refine ih (mem_visits_directory_iff.2 (Or.inr (Or.inr ⟨hfault, name, child, hmem, ?_⟩)))
      rwa [← Path.below_concat]

/-- A walk meets the place where it starts. -/
theorem entry_mem_visits (path : Path) (reachable : Bool) (tree : FileTree) :
    Visit.entry path tree.isLink ∈ tree.visits path reachable := by
  cases tree with
  | file => exact List.mem_singleton.2 rfl
  | link => exact List.mem_singleton.2 rfl
  | directory => exact mem_visits_directory_iff.2 (Or.inl rfl)

/-- A walk meets the directory that it cannot list. -/
theorem unreadable_mem_visits {path : Path} {reachable : Bool} {tree : FileTree}
    {fault : AccessFault} (h : tree.fault? path reachable = some fault) :
    Visit.unreadable path fault ∈ tree.visits path reachable := by
  cases tree with
  | file => cases h
  | link => cases h
  | directory => exact mem_visits_directory_iff.2 (Or.inr (Or.inl ⟨fault, h, rfl⟩))

/-- Every visit from a place is about a place that the walk gets to. -/
theorem Walked.exists_of_mem_visits {path : Path} {tree : FileTree} {visit : Visit} :
    ∀ (sub : FileTree) {names : List Text} {reachable : Bool},
      Walked path tree names reachable sub → visit ∈ sub.visits (path.below names) reachable →
      ∃ names' reachable' sub', Walked path tree names' reachable' sub' ∧
        (visit = .entry (path.below names') sub'.isLink ∨
          ∃ fault, sub'.fault? (path.below names') reachable' = some fault ∧
            visit = .unreadable (path.below names') fault)
  | .file readable bytes, names, reachable, hwalked, hvisit =>
      ⟨names, reachable, _, hwalked, Or.inl (List.mem_singleton.1 hvisit)⟩
  | .link target, names, reachable, hwalked, hvisit =>
      ⟨names, reachable, _, hwalked, Or.inl (List.mem_singleton.1 hvisit)⟩
  | .directory listable enterable entries, names, reachable, hwalked, hvisit => by
      -- the visit is at the directory itself, or the walk goes on through an entry
      rcases mem_visits_directory_iff.1 hvisit with hentry | hfault | hbelow
      · exact ⟨names, reachable, _, hwalked, Or.inl hentry⟩
      · exact ⟨names, reachable, _, hwalked, Or.inr hfault⟩
      · rcases hbelow with ⟨hlisted, name, child, hmem, hin⟩
        rw [← Path.below_concat] at hin
        exact exists_of_mem_visits child (hwalked.into hlisted hmem) hin
termination_by sub => sizeOf sub
decreasing_by
  exact sizeOf_entry_lt hmem

/-- A walk visits the places that it gets to. -/
theorem entry_mem_visits_iff {path p : Path} {tree : FileTree} {isLink : Bool} :
    Visit.entry p isLink ∈ tree.visits path true ↔
      ∃ names reachable sub, Walked path tree names reachable sub ∧ p = path.below names ∧
        isLink = sub.isLink := by
  constructor
  · intro h
    rcases Walked.exists_of_mem_visits tree .root h with
      ⟨names, reachable, sub, hwalked, heq | ⟨fault, _, heq⟩⟩
    · cases heq
      exact ⟨names, reachable, sub, hwalked, rfl, rfl⟩
    · cases heq
  · rintro ⟨names, reachable, sub, hwalked, rfl, rfl⟩
    exact hwalked.visits_subset (entry_mem_visits _ _ _)

/-- A walk leaves out the directories that it gets to but cannot list. -/
theorem unreadable_mem_visits_iff {path p : Path} {tree : FileTree} {fault : AccessFault} :
    Visit.unreadable p fault ∈ tree.visits path true ↔
      ∃ names reachable sub, Walked path tree names reachable sub ∧ p = path.below names ∧
        sub.fault? p reachable = some fault := by
  constructor
  · intro h
    rcases Walked.exists_of_mem_visits tree .root h with
      ⟨names, reachable, sub, hwalked, heq | ⟨fault', hfault, heq⟩⟩
    · cases heq
    · cases heq
      exact ⟨names, reachable, sub, hwalked, rfl, hfault⟩
  · rintro ⟨names, reachable, sub, hwalked, rfl, hfault⟩
    exact hwalked.visits_subset (unreadable_mem_visits hfault)

/-! ## Which places are gotten to -/

/-- A walk gets to what is at the place of its names. -/
theorem Walked.at? {path : Path} {tree sub : FileTree} {names : List Text} {reachable : Bool}
    (hwf : tree.WellFormed) (h : Walked path tree names reachable sub) :
    tree.at? names = some sub := by
  induction h with
  | root => rfl
  | into _ _ hmem ih =>
      rw [at?_concat ih]
      exact lookup_of_mem (hwf _ _ _ _ ih).1 hmem

/-- The directories above a place are open to listing and to what is in them. -/
def OpenAbove (tree : FileTree) (names : List Text) : Prop :=
  ∀ above, above <+: names → above ≠ names →
    ∃ entries, tree.at? above = some (.directory true true entries)

/-- Down to the directory of a place all is open, if a walk gets to that directory. -/
theorem Walked.openAbove {path : Path} {tree sub : FileTree} {names : List Text} {reachable : Bool}
    (hwf : tree.WellFormed) (h : Walked path tree names reachable sub) (hreach : reachable = true) :
    tree.OpenAbove names := by
  induction h with
  | root =>
      intro above habove hne
      exact absurd (List.prefix_nil.1 habove) hne
  | @into dir _ _ _ _ _ _ hwalked hlisted _ ih =>
      rcases listingFault?_eq_none_iff.1 hlisted with ⟨_, hreach', hlist⟩
      intro above habove hne
      rcases List.prefix_concat_iff.1 habove with heq | habove
      · exact absurd heq hne
      · -- the directory itself has been listed, and it is open since the place is reachable
        by_cases hlast : above = dir
        · subst hlast
          rw [hwalked.at? hwf, hreach, hlist]
          exact ⟨_, rfl⟩
        · exact ih hreach' above habove hlast

/-- A walk gets to a place if all directories above are open and none of their paths is too long. -/
theorem walked_of_openAbove {path : Path} {tree sub : FileTree} {names : List Text}
    (hopen : tree.OpenAbove names) (hshort : (path.below names).isTooLong = false)
    (hat : tree.at? names = some sub) : Walked path tree names true sub := by
  induction names using List.reverseRecOn generalizing sub with
  | nil =>
      cases hat
      exact .root
  | append_singleton dir name ih =>
      -- the directory that holds the place is open, and the walk gets to it
      rcases hopen dir (List.prefix_append _ _) (by simp) with ⟨entries, hdir⟩
      rw [at?_concat hdir] at hat
      have hshort' : (path.below dir).isTooLong = false :=
        Path.isTooLong_below_of_append hshort
      have hopen' : tree.OpenAbove dir := by
        intro above habove hne
        refine hopen above (habove.trans (List.prefix_append _ _)) ?_
        rintro rfl
        exact absurd habove.length_le (by simp)
      exact (ih hopen' hshort' hdir).into (listingFault?_eq_none_iff.2 ⟨hshort', rfl, rfl⟩)
        (mem_of_lookup hat)

/-- A walk either gets to a place or stops at a directory above that it cannot list. -/
theorem walked_or_stopped (path : Path) {tree sub : FileTree} {names : List Text}
    (hat : tree.at? names = some sub) :
    (∃ reachable, Walked path tree names reachable sub) ∨
      ∃ above reachable dir fault, above <+: names ∧ Walked path tree above reachable dir ∧
        dir.fault? (path.below above) reachable = some fault := by
  induction names using List.reverseRecOn generalizing sub with
  | nil =>
      cases hat
      exact Or.inl ⟨true, .root⟩
  | append_singleton dir name ih =>
      rw [at?_append, Option.bind_eq_some_iff] at hat
      rcases hat with ⟨holder, hdir, hchild⟩
      -- the walk gets to the directory of the place or stops before
      rcases ih hdir with ⟨reachable, hwalked⟩ | ⟨above, reachable, stop, fault, habove, hstop⟩
      · cases holder with
        | file => cases hchild
        | link => cases hchild
        | directory listable enterable entries =>
            -- it goes on to the place exactly if the directory can be listed
            cases hlisted : listingFault? (path.below dir) reachable listable with
            | none =>
                have hlookup : entries.lookup name = some sub := by
                  rw [← at?_concat hdir, at?_append, hdir]
                  exact hchild
                exact Or.inl ⟨enterable, hwalked.into hlisted (mem_of_lookup hlookup)⟩
            | some fault =>
                exact Or.inr ⟨dir, reachable, _, fault, List.prefix_append _ _, hwalked, hlisted⟩
      · exact Or.inr ⟨above, reachable, stop, fault, habove.trans (List.prefix_append _ _), hstop⟩

end FileTree

/-! ## Where the paths of a walk lead -/

open FileTree in
/-- The path under which a walk gets to a place leads there, unless the path is too long or the
directory that holds the place is closed.  Links are left aside, since paths are followed through
them. -/
theorem FileTree.Walked.find_below {ws : Workspace} {path : Path} {tree sub : FileTree}
    {names : List Text} {reachable : Bool} (hwf : ws.root.WellFormed)
    (hfind : ws.find path = .ok tree) (h : Walked path tree names reachable sub)
    (hlink : sub.isLink = false) :
    ws.find (path.below names) =
      if (path.below names).isTooLong then .error .nameTooLong
      else if reachable then .ok sub else .error .denied := by
  have hwf' : tree.WellFormed := Workspace.wellFormed_of_find hwf hfind
  induction h with
  | root =>
      change ws.find path = if path.isTooLong then _ else _
      rw [Workspace.isTooLong_of_find hfind]
      exact hfind
  | @into names reachable listable enterable entries name child hwalked hlisted hmem ih =>
      rcases listingFault?_eq_none_iff.1 hlisted with ⟨hshort, rfl, rfl⟩
      rcases hwf' _ _ _ _ (hwalked.at? hwf') with ⟨hnodup, hnames⟩
      -- a directory that could be listed is found by its path
      have hdir : ws.find (path.below names) = .ok (.directory true enterable entries) := by
        rw [ih rfl, hshort]
        rfl
      rw [Path.below_concat]
      exact Workspace.find_join (hnames _ hmem) hdir (lookup_of_mem hnodup hmem) hlink

end TextHygiene
