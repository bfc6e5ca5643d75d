import TextHygiene.Proofs.Walk

/-!
# Every place is visited once

The name of an entry holds no slash, so a path below a root tells which names lead there.  A walk
goes into each entry of a directory once, and thus it never meets the same path twice.
-/

namespace TextHygiene

/-! ## Paths that tell their names -/

theorem Path.join_ne_nil {path : Path} (hpath : path ≠ []) (name : Text) :
    path.join name ≠ [] := by
  intro hjoin
  have hhead := head?_join name hpath
  rw [hjoin] at hhead
  exact hpath (List.head?_eq_none_iff.1 hhead.symm)

/-- Names behind a path add one step each. -/
theorem Step.between_below {path : Path} {names : List Text} (hpath : path ≠ [])
    (hnames : ∀ name ∈ names, IsName name) :
    Step.between (path.below names) = Step.between path ++ names.map Step.down := by
  induction names generalizing path with
  | nil =>
      rw [List.map_nil, List.append_nil]
      rfl
  | cons name rest ih =>
      rcases List.forall_mem_cons.1 hnames with ⟨hname, hrest⟩
      change Step.between ((path.join name).below rest) = _
      rw [ih (Path.join_ne_nil hpath name) hrest, Step.between_join hpath hname,
        List.append_assoc]
      rfl

/-- Paths below one directory are different if their names are. -/
theorem Path.eq_of_below_eq {path : Path} {names names' : List Text} (hpath : path ≠ [])
    (hnames : ∀ name ∈ names, IsName name) (hnames' : ∀ name ∈ names', IsName name)
    (h : path.below names = path.below names') : names = names' := by
  have hsteps : names.map Step.down = names'.map Step.down := by
    rw [← List.append_cancel_left_eq (Step.between path), ← Step.between_below hpath hnames,
      ← Step.between_below hpath hnames', h]
  exact List.map_injective_iff.2 (fun _ _ hdown => Step.down.inj hdown) hsteps

/-! ## Visits that differ -/

namespace Visit

def path : Visit → Path
  | entry path _ => path
  | unreadable path _ => path

def isEntry : Visit → Bool
  | entry .. => true
  | unreadable .. => false

/-- Two visits are about different paths, unless one of them says that the other's directory cannot
be listed. -/
def Apart (a b : Visit) : Prop :=
  a.path = b.path → a.isEntry ≠ b.isEntry

end Visit

namespace FileTree

theorem WellFormed.of_mem {listable enterable : Bool} {entries : List (Text × FileTree)}
    {name : Text} {child : FileTree} (hwf : (directory listable enterable entries).WellFormed)
    (hmem : (name, child) ∈ entries) : IsName name ∧ child.WellFormed := by
  rcases hwf [] _ _ _ rfl with ⟨hnodup, hnames⟩
  refine ⟨hnames _ hmem, ?_⟩
  have hat : (directory listable enterable entries).at? [name] = some child := by
    have hself : (directory listable enterable entries).at? [] = some _ := rfl
    rw [← List.nil_append [name], at?_concat hself]
    exact lookup_of_mem hnodup hmem
  exact hwf.at? hat

theorem entryVisits_eq_flatMap (path : Path) (reachable : Bool)
    (entries : List (Text × FileTree)) :
    entryVisits path reachable entries =
      entries.flatMap fun entry => entry.2.visits (path.join entry.1) reachable := by
  induction entries with
  | nil => rfl
  | cons entry rest ih =>
      rw [entryVisits, List.flatMap_cons, ih]

/-- The path of a visit leads by names from the path that the walk starts at. -/
theorem exists_names_of_mem_visits {visit : Visit} :
    ∀ (tree : FileTree) {path : Path} {reachable : Bool}, tree.WellFormed →
      visit ∈ tree.visits path reachable →
      ∃ names, (∀ name ∈ names, IsName name) ∧ visit.path = path.below names
  | .file .., path, reachable, _, hvisit => by
      cases List.mem_singleton.1 hvisit
      exact ⟨[], nofun, rfl⟩
  | .link _, path, reachable, _, hvisit => by
      cases List.mem_singleton.1 hvisit
      exact ⟨[], nofun, rfl⟩
  | .directory listable enterable entries, path, reachable, hwf, hvisit => by
      rcases mem_visits_directory_iff.1 hvisit with rfl | ⟨fault, _, rfl⟩ | ⟨_, hbelow⟩
      · exact ⟨[], nofun, rfl⟩
      · exact ⟨[], nofun, rfl⟩
      · rcases hbelow with ⟨name, child, hmem, hin⟩
        -- one name more than on the way down from the entry
        rcases hwf.of_mem hmem with ⟨hname, hchild⟩
        rcases exists_names_of_mem_visits child hchild hin with ⟨names, hnames, hpath⟩
        exact ⟨name :: names, List.forall_mem_cons.2 ⟨hname, hnames⟩, hpath⟩
termination_by tree => sizeOf tree
decreasing_by
  exact sizeOf_entry_lt hmem

/-- A visit from an entry of a directory has the entry's name next in its path. -/
theorem exists_names_of_mem_entry {listable enterable reachable : Bool} {path : Path}
    {entries : List (Text × FileTree)} {entry : Text × FileTree} {visit : Visit}
    (hwf : (directory listable enterable entries).WellFormed) (hmem : entry ∈ entries)
    (hvisit : visit ∈ entry.2.visits (path.join entry.1) reachable) :
    ∃ names, (∀ name ∈ entry.1 :: names, IsName name) ∧
      visit.path = path.below (entry.1 :: names) := by
  rcases hwf.of_mem hmem with ⟨hname, hchild⟩
  rcases exists_names_of_mem_visits entry.2 hchild hvisit with ⟨names, hnames, hpath⟩
  exact ⟨names, List.forall_mem_cons.2 ⟨hname, hnames⟩, hpath⟩

/-- A walk meets no path twice. -/
theorem pairwise_apart_visits :
    ∀ (tree : FileTree) {path : Path} {reachable : Bool}, path ≠ [] → tree.WellFormed →
      (tree.visits path reachable).Pairwise Visit.Apart
  | .file .., path, reachable, _, _ => List.pairwise_singleton _ _
  | .link _, path, reachable, _, _ => List.pairwise_singleton _ _
  | .directory listable enterable entries, path, reachable, hpath, hwf => by
      rw [visits]
      cases hfault : listingFault? path reachable listable with
      | some fault =>
          refine List.pairwise_pair.2 ?_
          intro _
          exact Bool.noConfusion
      | none =>
          refine List.pairwise_cons.2 ⟨?_, ?_⟩
          · -- what is in the directory has a longer path
            intro visit hvisit heq
            rcases mem_entryVisits_iff.1 hvisit with ⟨name, child, hmem, hin⟩
            rcases exists_names_of_mem_entry hwf hmem hin with ⟨names, hnames, hlonger⟩
            have hsame : path.below [] = path.below (name :: names) := heq.trans hlonger
            cases Path.eq_of_below_eq hpath (List.forall_mem_nil _) hnames hsame
          · rw [entryVisits_eq_flatMap, List.pairwise_flatMap]
            refine ⟨fun entry hmem => ?_, ?_⟩
            · exact pairwise_apart_visits entry.2 (Path.join_ne_nil hpath _) (hwf.of_mem hmem).2
            · -- entries have different names, which stand in the paths of all below them
              have hdistinct : entries.Pairwise fun a b => a.1 ≠ b.1 :=
                List.pairwise_map.1 (hwf [] _ _ _ rfl).1
              refine hdistinct.imp_of_mem ?_
              intro a b ha hb hne x hx y hy heq
              rcases exists_names_of_mem_entry hwf ha hx with ⟨names, hnames, hxpath⟩
              rcases exists_names_of_mem_entry hwf hb hy with ⟨names', hnames', hypath⟩
              rw [hxpath, hypath] at heq
              have hcons := Path.eq_of_below_eq hpath hnames hnames' heq
              exact absurd (List.cons.inj hcons).1 hne
termination_by tree => sizeOf tree
decreasing_by
  exact sizeOf_entry_lt hmem

end FileTree

end TextHygiene
