import TextHygiene.Proofs.Selected

/-!
# Workspaces that list their entries in another order

Two workspaces hold the same in every place, but list it in different orders.  Then they have the
same outline, and a walk meets the same in both.  Root by root, a selection holds the same files in
both, and their normalised paths come in the same order.  So a file can only change places with
files that have the same normalised path.
-/

namespace TextHygiene

variable {a b ws : Workspace} {filter : Filter} {paths extensions ignore : List Text} {root : Path}

/-! ## Other orders of listing -/

/-- A tree apart from what it holds, if it is a directory. -/
def FileTree.withoutEntries : FileTree → FileTree
  | .directory listable enterable _ => .directory listable enterable []
  | tree => tree

/-- Two workspaces hold the same in every place, but may list it in different orders. -/
structure Relisted (a b : Workspace) : Prop where
  home : a.home = b.home
  same : ∀ place, (a.root.at? place).map FileTree.withoutEntries =
    (b.root.at? place).map FileTree.withoutEntries

theorem FileTree.kind_withoutEntries (tree : FileTree) : tree.withoutEntries.kind = tree.kind := by
  cases tree with
  | file => rfl
  | directory => rfl
  | link => rfl

/-- Two workspaces that differ in the order of entries only have the same outline. -/
theorem Relisted.sameOutline (h : Relisted a b) : SameOutline a b := by
  have hkind : ∀ found : Option FileTree,
      (found.map FileTree.withoutEntries).map FileTree.kind = found.map FileTree.kind := by
    intro found
    rw [Option.map_map]
    congr 1
    funext tree
    exact tree.kind_withoutEntries
  refine ⟨h.home, fun place => ?_⟩
  rw [← hkind, h.same, hkind]

/-! ## Trees -/

/-- Every place holds the same kind of thing in two trees. -/
def FileTree.SameKinds (a b : FileTree) : Prop :=
  ∀ names, (a.at? names).map kind = (b.at? names).map kind

namespace FileTree

variable {tree tree' sub : FileTree} {path : Path}

theorem SameKinds.symm (h : tree.SameKinds tree') : tree'.SameKinds tree :=
  fun names => (h names).symm

theorem SameKinds.kind_eq (h : tree.SameKinds tree') : tree.kind = tree'.kind :=
  Option.some.inj (h [])

/-- Trees with the same kinds have them in every place as well. -/
theorem SameKinds.exists_at? {names : List Text} (h : tree.SameKinds tree')
    (hat : tree.at? names = some sub) :
    ∃ sub', tree'.at? names = some sub' ∧ sub.SameKinds sub' := by
  have hkind := h names
  rw [hat, Option.map_some, eq_comm, Option.map_eq_some_iff] at hkind
  rcases hkind with ⟨sub', hat', _⟩
  refine ⟨sub', hat', ?_⟩
  intro more
  have hmore := h (names ++ more)
  rwa [at?_append, at?_append, hat, hat'] at hmore

theorem isLink_eq_kind (tree : FileTree) :
    tree.isLink = match tree.kind with
      | .link _ => true
      | _ => false := by
  cases tree with
  | file => rfl
  | link => rfl
  | directory => rfl

theorem fault?_eq_kind (tree : FileTree) (path : Path) (reachable : Bool) :
    tree.fault? path reachable = match tree.kind with
      | .directory listable _ => listingFault? path reachable listable
      | _ => none := by
  cases tree with
  | file => rfl
  | link => rfl
  | directory => rfl

theorem exists_directory_of_kind_eq {listable enterable : Bool}
    {entries : List (Text × FileTree)}
    (h : (directory listable enterable entries).kind = tree.kind) :
    ∃ entries', tree = .directory listable enterable entries' := by
  cases tree with
  | file => cases h
  | link => cases h
  | directory =>
      cases h
      exact ⟨_, rfl⟩

/-! ## Walks -/

/-- A walk gets to the same places in both trees. -/
theorem Walked.sameKinds {names : List Text} {reachable : Bool} (hwf : tree.WellFormed)
    (hwf' : tree'.WellFormed) (h : tree.SameKinds tree')
    (hwalked : Walked path tree names reachable sub) :
    ∃ sub', Walked path tree' names reachable sub' ∧ sub.kind = sub'.kind := by
  induction hwalked with
  | root => exact ⟨tree', .root, h.kind_eq⟩
  | into hdir hlisted hmem ih =>
      rcases ih with ⟨dir', hdir', hkind⟩
      rcases exists_directory_of_kind_eq hkind with ⟨entries', rfl⟩
      -- the entry has the same place in the other tree, so it is an entry there
      rcases h.exists_at? ((hdir.into hlisted hmem).at? hwf) with ⟨child', hat', hchild⟩
      rw [at?_concat (hdir'.at? hwf')] at hat'
      exact ⟨child', hdir'.into hlisted (mem_of_lookup hat'), hchild.kind_eq⟩

/-- A walk meets the same in both trees. -/
theorem SameKinds.visits_subset (hwf : tree.WellFormed) (hwf' : tree'.WellFormed)
    (h : tree.SameKinds tree') : tree.visits path true ⊆ tree'.visits path true := by
  intro visit hvisit
  cases visit with
  | entry p isLink =>
      rcases entry_mem_visits_iff.1 hvisit with ⟨names, reachable, sub, hwalked, rfl, rfl⟩
      rcases hwalked.sameKinds hwf hwf' h with ⟨sub', hwalked', hkind⟩
      rw [isLink_eq_kind, hkind, ← isLink_eq_kind]
      exact entry_mem_visits_iff.2 ⟨names, reachable, sub', hwalked', rfl, rfl⟩
  | unreadable p fault =>
      rcases unreadable_mem_visits_iff.1 hvisit with
        ⟨names, reachable, sub, hwalked, rfl, hfault⟩
      rcases hwalked.sameKinds hwf hwf' h with ⟨sub', hwalked', hkind⟩
      rw [fault?_eq_kind, hkind, ← fault?_eq_kind] at hfault
      exact unreadable_mem_visits_iff.2 ⟨names, reachable, sub', hwalked', rfl, hfault⟩

/-- A walk meets nothing twice. -/
theorem nodup_visits (hpath : path ≠ []) (hwf : tree.WellFormed) :
    (tree.visits path true).Nodup := by
  refine (pairwise_apart_visits tree hpath hwf).imp ?_
  rintro visit _ hapart rfl
  exact hapart rfl rfl

/-- Walks through both trees meet the same, in some order. -/
theorem SameKinds.visits_perm (hpath : path ≠ []) (hwf : tree.WellFormed)
    (hwf' : tree'.WellFormed) (h : tree.SameKinds tree') :
    (tree.visits path true).Perm (tree'.visits path true) :=
  (List.perm_ext_iff_of_nodup (nodup_visits hpath hwf) (nodup_visits hpath hwf')).2 fun _ =>
    ⟨fun hvisit => h.visits_subset hwf hwf' hvisit,
      fun hvisit => h.symm.visits_subset hwf' hwf hvisit⟩

end FileTree

/-! ## Scans -/

/-- Lists of the same files in order have the same normalised paths in order. -/
theorem Scan.map_normalized_eq_of_perm {files files' : List Path}
    (hsorted : files.Pairwise fun a b => Text.noLater a.normalized b.normalized = true)
    (hsorted' : files'.Pairwise fun a b => Text.noLater a.normalized b.normalized = true)
    (h : files.Perm files') : files.map Path.normalized = files'.map Path.normalized :=
  (h.map Path.normalized).eq_of_pairwise (fun _ _ _ _ => Text.eq_of_noLater)
    (List.pairwise_map.2 hsorted) (List.pairwise_map.2 hsorted')

/-- Two scans have the same files and skip the same paths, and the normalised paths of the files are
in the same order. -/
structure Scan.SameButForTies (a b : Scan) : Prop where
  files : a.files.Perm b.files
  normalized : a.files.map Path.normalized = b.files.map Path.normalized
  skipped : a.skipped.Perm b.skipped

/-- Without ties the files are in the same order. -/
theorem Scan.SameButForTies.files_eq {a b : Scan} (h : a.SameButForTies b)
    (hnodup : (a.files.map Path.normalized).Nodup) : a.files = b.files := by
  refine List.ext_getElem h.files.length_eq ?_
  intro i hi hi'
  -- the files at one position have the same key, which belongs to one file only
  have hkey := List.getElem_of_eq h.normalized (by rwa [List.length_map])
  rw [List.getElem_map, List.getElem_map] at hkey
  exact List.inj_on_of_nodup_map hnodup (List.getElem_mem hi)
    (h.files.mem_iff.2 (List.getElem_mem hi')) hkey

namespace SameOutline

/-- A path that leads somewhere in one workspace leads to a tree with the same kinds in the other.
-/
theorem exists_find (h : SameOutline a b) {tree : FileTree} (hfind : a.find root = .ok tree) :
    ∃ tree', b.find root = .ok tree' ∧ tree.SameKinds tree' := by
  rcases Workspace.find_eq_ok_iff.1 hfind with ⟨place, hlocate, hat⟩
  have hroot : a.root.SameKinds b.root := h.kind
  rcases hroot.exists_at? hat with ⟨tree', hat', hsame⟩
  rw [h.locate] at hlocate
  exact ⟨tree', Workspace.find_eq_ok_iff.2 ⟨place, hlocate, hat'⟩, hsame⟩

/-- A walk from a root meets the same in both workspaces, in some order. -/
theorem rootVisits_perm (h : SameOutline a b) (ha : a.root.WellFormed) (hb : b.root.WellFormed)
    {visits : List Visit} (hvisits : a.rootVisits root = .ok visits) :
    ∃ visits', b.rootVisits root = .ok visits' ∧ visits.Perm visits' := by
  rcases rootVisits_eq_ok_iff.1 hvisits with ⟨tree, hfind, hlistable, rfl⟩
  rcases h.exists_find hfind with ⟨tree', hfind', hsame⟩
  refine ⟨_, rootVisits_eq_ok_iff.2 ⟨tree', hfind', ?_, rfl⟩, ?_⟩
  · rintro enterable entries rfl
    rcases FileTree.exists_directory_of_kind_eq hsame.symm.kind_eq with ⟨entries', rfl⟩
    exact hlistable enterable entries' rfl
  · exact hsame.visits_perm (Workspace.ne_nil_of_find hfind)
      (Workspace.wellFormed_of_find ha hfind) (Workspace.wellFormed_of_find hb hfind')

theorem file? (h : SameOutline a b) : Scan.file? a filter = Scan.file? b filter := by
  funext visit
  cases visit with
  | entry path isLink => rw [Scan.file?, Scan.file?, h.isFile]
  | unreadable path fault => rfl

/-- A scan of a root comes to the same but for ties. -/
theorem scan (h : SameOutline a b) (ha : a.root.WellFormed) (hb : b.root.WellFormed)
    {found : Scan} (hscan : (a.scan filter root).outcome = .ok found) :
    ∃ found', (b.scan filter root).outcome = .ok found' ∧ found.SameButForTies found' := by
  rcases scan_outcome_eq_ok_iff.1 hscan with ⟨visits, hvisits, rfl⟩
  rcases h.rootVisits_perm ha hb hvisits with ⟨visits', hvisits', hperm⟩
  have hfiles : (Scan.ofVisits a filter visits).files.Perm
      (Scan.ofVisits b filter visits').files := by
    -- both look up the same paths, and find files under the same ones
    have hkept := hperm.filterMap (Scan.file? a filter)
    rw [Scan.ofVisits, Scan.ofVisits, ← h.file?]
    exact (List.mergeSort_perm _ _).trans (hkept.trans (List.mergeSort_perm _ _).symm)
  refine ⟨_, scan_outcome_eq_ok_iff.2 ⟨visits', hvisits', rfl⟩, hfiles, ?_, hperm.filterMap _⟩
  exact Scan.map_normalized_eq_of_perm (Scan.sorted_files_ofVisits _)
    (Scan.sorted_files_ofVisits _) hfiles

end SameOutline

/-! ## Selections -/

/-- What holds for the scan of every root holds for all scans. -/
theorem ScansOf.exists_forall₂ {R : Scan → Scan → Prop} {scans : List Scan}
    (hscan : ∀ root found, (a.scan filter root).outcome = .ok found →
      ∃ found', (b.scan filter root).outcome = .ok found' ∧ R found found')
    (h : ScansOf a filter paths scans) :
    ∃ scans', ScansOf b filter paths scans' ∧ List.Forall₂ R scans scans' := by
  induction h with
  | nil => exact ⟨[], .nil, .nil⟩
  | cons hfirst _ ih =>
      rcases hscan _ _ hfirst with ⟨found', hfound', hR⟩
      rcases ih with ⟨scans', hscans', hrest⟩
      exact ⟨found' :: scans', .cons hfound' hscans', .cons hR hrest⟩

/-- Two selections have the same files and skip the same paths, and the normalised paths of the
files are in the same order. -/
structure Selection.SameButForTies (a b : Selection) : Prop where
  files : a.files.Perm b.files
  normalized : a.files.map (·.path.normalized) = b.files.map (·.path.normalized)
  skipped : a.skipped.Perm b.skipped

theorem map_normalized_files_ofScans {scans : List Scan} (h : ScansOf ws filter paths scans) :
    (Selection.ofScans filter scans).files.map (·.path.normalized) =
      scans.flatMap fun found => found.files.map Path.normalized := by
  rw [← List.map_flatMap, ← map_path_files_ofScans h, List.map_map]
  rfl

/-- Scans that are the same but for ties make selections that are the same but for ties. -/
theorem Selection.sameButForTies_ofScans {scans scans' : List Scan}
    (hscans : ScansOf a filter paths scans) (hscans' : ScansOf b filter paths scans')
    (h : List.Forall₂ Scan.SameButForTies scans scans') :
    (ofScans filter scans).SameButForTies (ofScans filter scans') := by
  -- tags and normalised paths are those of the scans, so the files need no further look
  suffices hparts : (ofScans filter scans).files.Perm (ofScans filter scans').files ∧
      (scans.flatMap fun found => found.files.map Path.normalized) =
        (scans'.flatMap fun found => found.files.map Path.normalized) ∧
      (ofScans filter scans).skipped.Perm (ofScans filter scans').skipped by
    rw [← map_normalized_files_ofScans hscans, ← map_normalized_files_ofScans hscans'] at hparts
    exact ⟨hparts.1, hparts.2.1, hparts.2.2⟩
  clear hscans hscans'
  induction h with
  | nil => exact ⟨.nil, rfl, .nil⟩
  | cons hfirst _ ih =>
      rcases ih with ⟨hfiles, hnormalized, hskipped⟩
      refine ⟨(hfirst.files.filterMap _).append hfiles, ?_, hfirst.skipped.append hskipped⟩
      rw [List.flatMap_cons, List.flatMap_cons, hfirst.normalized, hnormalized]

/-- A selection fails as its patterns do, or else as the first root that cannot be scanned. -/
theorem select_outcome_eq_error_iff {failure : Failure} :
    (ws.select paths extensions ignore).outcome = .error failure ↔
      (Filter.compile extensions ignore).mapError Failure.badPattern = .error failure ∨
        (∀ failure', (Filter.compile extensions ignore).mapError Failure.badPattern ≠
          .error failure') ∧ FirstFault (RootFault ws) paths failure := by
  rw [Workspace.select, Logged.outcome_bind, Logged.outcome_ofExcept]
  exact bind_eq_error_iff (fun _ => Iff.rfl) fun _ _ => scanAll_outcome_eq_error_iff

/-- A selection fails in the same way in both workspaces. -/
theorem SameOutline.select_eq_error_iff (h : SameOutline a b) {failure : Failure} :
    (a.select paths extensions ignore).outcome = .error failure ↔
      (b.select paths extensions ignore).outcome = .error failure := by
  rw [select_outcome_eq_error_iff, select_outcome_eq_error_iff, h.rootFault]

end TextHygiene
