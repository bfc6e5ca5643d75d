import TextHygiene.Proofs.Relisted

/-!
# When the order of listing shows

Files below one root are sorted by their normalised paths, in which a backslash reads as a slash.
Files with the same normalised path stay in the order in which the directories list them.  So a
selection is the same for every order of listing exactly if no two files below one root have the
same normalised path.  Two such files already change places when every directory lists its entries
the other way round.
-/

namespace TextHygiene

variable {ws : Workspace} {filter : Filter} {paths extensions ignore : List Text} {root : Path}

/-! ## Mirrored trees -/

namespace FileTree

mutual

/-- A tree in which every directory lists its entries the other way round. -/
def mirrored : FileTree → FileTree
  | .file readable bytes => .file readable bytes
  | .link target => .link target
  | .directory listable enterable entries =>
      .directory listable enterable (mirroredEntries entries)

def mirroredEntries : List (Text × FileTree) → List (Text × FileTree)
  | [] => []
  | (name, tree) :: rest => mirroredEntries rest ++ [(name, tree.mirrored)]

end

theorem mirroredEntries_eq (entries : List (Text × FileTree)) :
    mirroredEntries entries = (entries.map fun entry => (entry.1, entry.2.mirrored)).reverse := by
  induction entries with
  | nil => rfl
  | cons entry rest ih => rw [mirroredEntries, List.map_cons, List.reverse_cons, ih]

theorem map_name_mirroredEntries (entries : List (Text × FileTree)) :
    (mirroredEntries entries).map (·.1) = (entries.map (·.1)).reverse := by
  rw [mirroredEntries_eq, List.map_reverse, List.map_map]
  rfl

theorem mem_mirroredEntries_iff {entries : List (Text × FileTree)} {name : Text}
    {tree : FileTree} :
    (name, tree) ∈ mirroredEntries entries ↔
      ∃ child, (name, child) ∈ entries ∧ tree = child.mirrored := by
  rw [mirroredEntries_eq, List.mem_reverse, List.mem_map]
  constructor
  · rintro ⟨⟨_, child⟩, hmem, heq⟩
    cases heq
    exact ⟨child, hmem, rfl⟩
  · rintro ⟨child, hmem, rfl⟩
    exact ⟨_, hmem, rfl⟩

/-- The same names are found when entries are listed the other way round. -/
theorem lookup_mirroredEntries {entries : List (Text × FileTree)}
    (hnodup : (entries.map (·.1)).Nodup) (name : Text) :
    (mirroredEntries entries).lookup name = (entries.lookup name).map mirrored := by
  have hnodup' : ((mirroredEntries entries).map (·.1)).Nodup := by
    rwa [map_name_mirroredEntries, List.nodup_reverse]
  cases hlookup : entries.lookup name with
  | some child =>
      exact lookup_of_mem hnodup' (mem_mirroredEntries_iff.2 ⟨child, mem_of_lookup hlookup, rfl⟩)
  | none =>
      cases hmirrored : (mirroredEntries entries).lookup name with
      | none => rfl
      | some tree =>
          rcases mem_mirroredEntries_iff.1 (mem_of_lookup hmirrored) with ⟨child, hmem, _⟩
          rw [lookup_of_mem hnodup hmem] at hlookup
          cases hlookup

/-- What is at a place of a mirrored tree is the mirrored subtree. -/
theorem at?_mirrored {tree : FileTree} (hwf : tree.WellFormed) (names : List Text) :
    tree.mirrored.at? names = (tree.at? names).map mirrored := by
  induction names generalizing tree with
  | nil => rfl
  | cons name rest ih =>
      cases tree with
      | file => rfl
      | link => rfl
      | directory listable enterable entries =>
          have hentries := (hwf [] _ _ _ rfl).1
          change ((mirroredEntries entries).lookup name).bind (·.at? rest) =
            ((entries.lookup name).bind (·.at? rest)).map mirrored
          rw [lookup_mirroredEntries hentries]
          cases hlookup : entries.lookup name with
          | none => rfl
          | some child => exact ih (hwf.of_mem (mem_of_lookup hlookup)).2

theorem withoutEntries_mirrored (tree : FileTree) :
    tree.mirrored.withoutEntries = tree.withoutEntries := by
  cases tree with
  | file => rfl
  | link => rfl
  | directory => rfl

theorem WellFormed.mirrored {tree : FileTree} (hwf : tree.WellFormed) :
    tree.mirrored.WellFormed := by
  intro names listable enterable entries hat
  rw [at?_mirrored hwf, Option.map_eq_some_iff] at hat
  rcases hat with ⟨sub, hsub, heq⟩
  cases sub with
  | file => cases heq
  | link => cases heq
  | directory =>
      cases heq
      rcases hwf _ _ _ _ hsub with ⟨hnodup, hnames⟩
      refine ⟨by rwa [map_name_mirroredEntries, List.nodup_reverse], ?_⟩
      rintro ⟨name, tree⟩ hmem
      rcases mem_mirroredEntries_iff.1 hmem with ⟨child, hchild, _⟩
      exact hnames (name, child) hchild

end FileTree

/-- A workspace in which every directory lists its entries the other way round. -/
def Workspace.mirrored (ws : Workspace) : Workspace :=
  { ws with root := ws.root.mirrored }

/-- A mirrored workspace holds the same in every place. -/
theorem relisted_mirrored (hwf : ws.root.WellFormed) : Relisted ws ws.mirrored := by
  refine ⟨rfl, fun place => ?_⟩
  rw [Workspace.mirrored, FileTree.at?_mirrored hwf, Option.map_map]
  congr 1
  funext tree
  exact tree.withoutEntries_mirrored.symm

theorem find_mirrored (hwf : ws.root.WellFormed) {tree : FileTree} (h : ws.find root = .ok tree) :
    ws.mirrored.find root = .ok tree.mirrored := by
  rcases Workspace.find_eq_ok_iff.1 h with ⟨place, hlocate, hat⟩
  rw [(relisted_mirrored hwf).sameOutline.locate] at hlocate
  refine Workspace.find_eq_ok_iff.2 ⟨place, hlocate, ?_⟩
  rw [Workspace.mirrored, FileTree.at?_mirrored hwf, hat]
  rfl

/-! ## Walks through mirrored trees -/

/-- What is kept of the visits of a mirrored tree comes the other way round, if nothing is kept of a
directory itself. -/
theorem FileTree.filterMap_visits_mirrored {f : Visit → Option Path} {path : Path}
    {tree : FileTree} (hunreadable : ∀ p fault, f (.unreadable p fault) = none)
    (hdirectory : ∀ names reachable listable enterable entries,
      Walked path tree names reachable (.directory listable enterable entries) →
        f (.entry (path.below names) false) = none) :
    ∀ (sub : FileTree) {names : List Text} {reachable : Bool},
      Walked path tree names reachable sub →
      (sub.mirrored.visits (path.below names) reachable).filterMap f =
        ((sub.visits (path.below names) reachable).filterMap f).reverse
  | .file .., names, reachable, _ => by
      rw [mirrored, visits, ← List.filterMap_reverse]
      rfl
  | .link _, names, reachable, _ => by
      rw [mirrored, visits, ← List.filterMap_reverse]
      rfl
  | .directory listable enterable entries, names, reachable, hwalked => by
      -- nothing is kept of the directory itself, which both walks meet first
      rw [mirrored, visits, visits, List.filterMap_cons_none (hdirectory _ _ _ _ _ hwalked),
        List.filterMap_cons_none (hdirectory _ _ _ _ _ hwalked)]
      cases hlisted : listingFault? (path.below names) reachable listable with
      | some fault =>
          simp only [List.filterMap_cons_none (hunreadable _ _), List.filterMap_nil,
            List.reverse_nil]
      | none =>
          simp only [entryVisits_eq_flatMap, mirroredEntries_eq, List.filterMap_flatMap,
            ← List.map_reverse, List.flatMap_map, List.reverse_flatMap]
          refine List.flatMap_congr fun entry hmem => ?_
          have hentry := hwalked.into hlisted (List.mem_reverse.1 hmem)
          have hreversed := filterMap_visits_mirrored hunreadable hdirectory entry.2 hentry
          rw [Path.below_concat] at hreversed
          exact hreversed
termination_by sub => sizeOf sub
decreasing_by
  exact sizeOf_entry_lt (List.mem_reverse.1 hmem)

/-- A walk keeps nothing of a directory itself. -/
theorem file?_of_walked_directory {tree : FileTree} {names : List Text}
    {reachable listable enterable : Bool} {entries : List (Text × FileTree)}
    (hwf : ws.root.WellFormed) (hfind : ws.find root = .ok tree)
    (h : FileTree.Walked root tree names reachable (.directory listable enterable entries)) :
    Scan.file? ws filter (.entry (root.below names) false) = none := by
  have hfile : ws.isFile (root.below names) = false := by
    rw [Workspace.isFile, h.find_below hwf hfind rfl]
    split_ifs
    · rfl
    · rfl
    · rfl
  rw [Scan.file?, hfile, Bool.false_and]
  rfl

/-! ## Ties -/

/-- Of two files in a list one comes before the other. -/
theorem pair_sublist_or {x y : Path} {files : List Path} (hx : x ∈ files) (hy : y ∈ files)
    (hne : x ≠ y) : [x, y].Sublist files ∨ [y, x].Sublist files := by
  rcases List.append_of_mem hx with ⟨before, after, rfl⟩
  rcases List.mem_append.1 hy with hbefore | hafter
  · exact Or.inr ((List.singleton_sublist.2 hbefore).append
      (List.singleton_sublist.2 List.mem_cons_self))
  · have hrest := (List.mem_cons.1 hafter).resolve_left hne.symm
    exact Or.inl (((List.singleton_sublist.2 hrest).cons_cons x).trans
      (List.sublist_append_right before _))

/-- In a list without repetitions no two files come before one another. -/
theorem not_pair_sublist_of_nodup {x y : Path} {files : List Path} (hnodup : files.Nodup)
    (h : [x, y].Sublist files) : ¬ [y, x].Sublist files := by
  rcases List.cons_sublist_iff.1 h with ⟨front, back, rfl, hx, hy⟩
  have hapart := List.disjoint_of_nodup_append hnodup
  intro hswapped
  rcases List.sublist_append_iff.1 hswapped with ⟨first, last, hsplit, hfirst, hlast⟩
  cases first with
  | nil =>
      rw [List.nil_append] at hsplit
      exact hapart hx (hlast.subset (hsplit ▸ List.mem_cons_of_mem y List.mem_cons_self))
  | cons z first =>
      rcases List.cons.inj hsplit with ⟨rfl, _⟩
      exact hapart (hfirst.subset List.mem_cons_self) (List.singleton_sublist.1 hy)

namespace Scan

/-- Files with the same normalised path stay in the order in which they were met. -/
theorem pair_sublist_mergeSort {x y : Path} {files : List Path}
    (hkey : x.normalized = y.normalized) (h : [x, y].Sublist files) :
    [x, y].Sublist (files.mergeSort noLater) := by
  have hle : noLater x y = true := by
    have htotal := Text.noLater_total x.normalized x.normalized
    rw [Bool.or_self] at htotal
    rwa [noLater, ← hkey]
  exact List.pair_sublist_mergeSort (fun _ _ _ => Text.noLater_trans)
    (fun _ _ => Text.noLater_total _ _) hle h

/-- If files are sorted the same when they are met the other way round, then they all have different
normalised paths. -/
theorem nodup_normalized_of_mergeSort_reverse {files : List Path} (hnodup : files.Nodup)
    (h : files.reverse.mergeSort noLater = files.mergeSort noLater) :
    (files.map Path.normalized).Nodup := by
  have hboth : ∀ x y : Path, x.normalized = y.normalized → ¬ [x, y].Sublist files := by
    -- sorted either way, the two would stand in either order
    intro x y hkey hsub
    have hforth := pair_sublist_mergeSort hkey hsub
    have hback : [y, x].Sublist (files.mergeSort noLater) := by
      rw [← h]
      exact pair_sublist_mergeSort hkey.symm hsub.reverse
    exact not_pair_sublist_of_nodup ((List.mergeSort_perm _ _).nodup_iff.2 hnodup) hforth hback
  refine hnodup.map_on ?_
  intro x hx y hy hkey
  by_contra hne
  rcases pair_sublist_or hx hy hne with hsub | hsub
  · exact hboth x y hkey hsub
  · exact hboth y x hkey.symm hsub

end Scan

/-! ## Scans of mirrored trees -/

theorem rootVisits_mirrored {tree : FileTree} (hwf : ws.root.WellFormed)
    (hfind : ws.find root = .ok tree)
    (hlistable : ∀ enterable entries, tree ≠ .directory false enterable entries) :
    ws.mirrored.rootVisits root = .ok (tree.mirrored.visits root true) := by
  refine rootVisits_eq_ok_iff.2 ⟨_, find_mirrored hwf hfind, ?_, rfl⟩
  intro enterable entries heq
  cases tree with
  | file => cases heq
  | link => cases heq
  | directory =>
      cases heq
      exact hlistable _ _ rfl

/-- The same files are sorted, met the other way round. -/
theorem files_mirrored {tree : FileTree} (hwf : ws.root.WellFormed)
    (hfind : ws.find root = .ok tree) :
    (Scan.ofVisits ws.mirrored filter (tree.mirrored.visits root true)).files =
      ((tree.visits root true).filterMap (Scan.file? ws filter)).reverse.mergeSort
        Scan.noLater := by
  have hreversed : (tree.mirrored.visits root true).filterMap (Scan.file? ws filter) =
      ((tree.visits root true).filterMap (Scan.file? ws filter)).reverse :=
    FileTree.filterMap_visits_mirrored (fun _ _ => rfl)
      (fun _ _ _ _ _ hwalked => file?_of_walked_directory hwf hfind hwalked) tree .root
  rw [Scan.ofVisits, ← (relisted_mirrored hwf).sameOutline.file?, hreversed]

/-- What a root holds when every directory lists its entries the other way round: as many files, and
the same list of them only if no two of them have the same normalised path. -/
theorem scan_mirrored {found : Scan} (hwf : ws.root.WellFormed)
    (h : (ws.scan filter root).outcome = .ok found) :
    ∃ found', (ws.mirrored.scan filter root).outcome = .ok found' ∧
      found'.files.length = found.files.length ∧
      (found'.files = found.files → (found.files.map Path.normalized).Nodup) := by
  rcases scan_outcome_eq_ok_iff.1 h with ⟨visits, hvisits, rfl⟩
  rcases rootVisits_eq_ok_iff.1 hvisits with ⟨tree, hfind, hlistable, rfl⟩
  have hvisits' := rootVisits_mirrored hwf hfind hlistable
  refine ⟨_, scan_outcome_eq_ok_iff.2 ⟨_, hvisits', rfl⟩, ?_, ?_⟩
  · rw [files_mirrored hwf hfind, Scan.ofVisits, List.length_mergeSort, List.length_reverse,
      List.length_mergeSort]
  · intro heq
    rw [files_mirrored hwf hfind, Scan.ofVisits] at heq
    -- sorting is stable, so the reversed list only sorts to the same one if there are no ties
    have hapart : (tree.visits root true).Pairwise Visit.Apart :=
      FileTree.pairwise_apart_visits tree (Workspace.ne_nil_of_find hfind)
        (Workspace.wellFormed_of_find hwf hfind)
    have hnodup : ((tree.visits root true).filterMap (Scan.file? ws filter)).Nodup :=
      (List.mergeSort_perm _ _).nodup_iff.1 (Scan.nodup_files_ofVisits hapart)
    exact ((List.mergeSort_perm _ _).map _).nodup_iff.2
      (Scan.nodup_normalized_of_mergeSort_reverse hnodup heq)

/-! ## Selections -/

/-- No two files that are selected below a root have the same normalised path. -/
def Untied (ws : Workspace) (extensions ignore : List Text) (root : Path) : Prop :=
  ∀ selection, (ws.select [root] extensions ignore).outcome = .ok selection →
    (selection.files.map (·.path.normalized)).Nodup

/-- There are no ties below a root exactly if the normalised paths of its files are different. -/
theorem untied_iff {found : Scan} (hfilter : Filter.compile extensions ignore = .ok filter)
    (hfound : (ws.scan filter root).outcome = .ok found) :
    Untied ws extensions ignore root ↔ (found.files.map Path.normalized).Nodup := by
  have hscans : ScansOf ws filter [root] [found] := .cons hfound .nil
  have hkeys := map_normalized_files_ofScans hscans
  rw [List.flatMap_singleton] at hkeys
  constructor
  · intro h
    rw [← hkeys]
    exact h _ (select_outcome_eq_ok_iff.2 ⟨filter, _, hfilter, hscans, rfl⟩)
  · -- there is only one selection below the root
    intro h selection hselection
    rcases select_outcome_eq_ok_iff.1 hselection with ⟨filter', scans', hfilter', hscans', rfl⟩
    rw [hfilter] at hfilter'
    cases hfilter'
    cases hscans' with
    | cons hfound' hrest =>
        rw [hfound] at hfound'
        cases hfound'
        cases hrest
        rwa [hkeys]

theorem forall_untied_iff {scans : List Scan}
    (hfilter : Filter.compile extensions ignore = .ok filter)
    (hscans : ScansOf ws filter paths scans) :
    (∀ root ∈ paths, Untied ws extensions ignore root) ↔
      ∀ found ∈ scans, (found.files.map Path.normalized).Nodup := by
  induction hscans with
  | nil => exact iff_of_true nofun nofun
  | cons hfound _ ih =>
      rw [List.forall_mem_cons, List.forall_mem_cons, ih, untied_iff hfilter hfound]

/-- Lists that are as long as one another are the same root by root if they are the same one after
the other. -/
theorem forall_nodup_of_flatMap_eq {scans scans' : List Scan}
    (h : List.Forall₂ (fun found found' : Scan => found'.files.length = found.files.length ∧
      (found'.files = found.files → (found.files.map Path.normalized).Nodup)) scans scans')
    (heq : scans'.flatMap (·.files) = scans.flatMap (·.files)) :
    ∀ found ∈ scans, (found.files.map Path.normalized).Nodup := by
  induction h with
  | nil => exact nofun
  | cons hfirst _ ih =>
      rw [List.flatMap_cons, List.flatMap_cons] at heq
      rcases List.append_inj heq hfirst.1 with ⟨hfiles, hrest⟩
      exact List.forall_mem_cons.2 ⟨hfirst.2 hfiles, ih hrest⟩

/-- Scans that are the same but for ties have the same files if there are none. -/
theorem flatMap_files_eq {scans scans' : List Scan}
    (h : List.Forall₂ Scan.SameButForTies scans scans')
    (hnodup : ∀ found ∈ scans, (found.files.map Path.normalized).Nodup) :
    scans'.flatMap (fun found => Selection.tagged filter found.files) =
      scans.flatMap fun found => Selection.tagged filter found.files := by
  induction h with
  | nil => rfl
  | cons hfirst _ ih =>
      rcases List.forall_mem_cons.1 hnodup with ⟨hkeys, hrest⟩
      rw [List.flatMap_cons, List.flatMap_cons, hfirst.files_eq hkeys, ih hrest]

/-- A selection below one root in which the files are met in the order in which they are sorted. -/
theorem select_of_sorted (ws : Workspace) (filter : Filter) (visits : List Visit)
    (hfilter : Filter.compile extensions ignore = .ok filter)
    (hvisits : ws.rootVisits root = .ok visits)
    (hsorted : (visits.filterMap (Scan.file? ws filter)).Pairwise fun a b =>
      Scan.noLater a b = true) :
    (ws.select [root] extensions ignore).outcome =
      .ok ⟨Selection.tagged filter (visits.filterMap (Scan.file? ws filter)),
        visits.filterMap Scan.skipped?⟩ := by
  have hfound : (ws.scan filter root).outcome =
      .ok ⟨visits.filterMap (Scan.file? ws filter), visits.filterMap Scan.skipped?⟩ := by
    refine scan_outcome_eq_ok_iff.2 ⟨visits, hvisits, ?_⟩
    rw [Scan.ofVisits, List.mergeSort_of_pairwise hsorted]
  refine select_outcome_eq_ok_iff.2 ⟨filter, _, hfilter, .cons hfound .nil, ?_⟩
  rw [Selection.ofScans, List.flatMap_singleton, List.flatMap_singleton]

/-- Workspaces that list the same things in different orders fail in the same way, or both have a
selection, with the same files and with the normalised paths in the same order.  The files are the
same list for every order of listing exactly if no two files below one root have the same normalised
path. -/
theorem select_relisted (hwf : ws.root.WellFormed) :
    (∀ other, Relisted ws other → ∀ failure,
      (ws.select paths extensions ignore).outcome = .error failure ↔
        (other.select paths extensions ignore).outcome = .error failure) ∧
    ∀ selection, (ws.select paths extensions ignore).outcome = .ok selection →
      (∀ other, Relisted ws other → other.root.WellFormed →
        ∃ selection', (other.select paths extensions ignore).outcome = .ok selection' ∧
          selection.SameButForTies selection') ∧
      ((∀ other selection', Relisted ws other → other.root.WellFormed →
          (other.select paths extensions ignore).outcome = .ok selection' →
          selection'.files = selection.files) ↔
        ∀ root ∈ paths, Untied ws extensions ignore root) := by
  refine ⟨fun other h failure => h.sameOutline.select_eq_error_iff, ?_⟩
  intro selection hselection
  rcases select_outcome_eq_ok_iff.1 hselection with ⟨filter, scans, hfilter, hscans, rfl⟩
  have hscans' : ∀ other, Relisted ws other → other.root.WellFormed →
      ∃ scans', ScansOf other filter paths scans' ∧
        List.Forall₂ Scan.SameButForTies scans scans' := by
    intro other h hwf'
    exact hscans.exists_forall₂ fun _ _ => h.sameOutline.scan hwf hwf'
  refine ⟨?_, ?_⟩
  · intro other h hwf'
    rcases hscans' other h hwf' with ⟨scans', hother, hsame⟩
    exact ⟨_, select_outcome_eq_ok_iff.2 ⟨filter, scans', hfilter, hother, rfl⟩,
      Selection.sameButForTies_ofScans hscans hother hsame⟩
  · rw [forall_untied_iff hfilter hscans]
    constructor
    · -- the other way round, files with the same key change places
      intro h
      rcases hscans.exists_forall₂ (b := ws.mirrored) fun _ _ => scan_mirrored hwf with
        ⟨scans', hmirrored, hscan⟩
      have hfiles := h ws.mirrored _ (relisted_mirrored hwf) hwf.mirrored
        (select_outcome_eq_ok_iff.2 ⟨filter, scans', hfilter, hmirrored, rfl⟩)
      refine forall_nodup_of_flatMap_eq hscan ?_
      rw [← map_path_files_ofScans hscans, ← map_path_files_ofScans hmirrored, hfiles]
    · intro hnodup other selection' h hwf' hselection'
      rcases hscans' other h hwf' with ⟨scans', hother, hsame⟩
      have hother' := select_outcome_eq_ok_iff.2 ⟨filter, scans', hfilter, hother, rfl⟩
      rw [hselection'] at hother'
      cases hother'
      exact flatMap_files_eq hsame hnodup

/-- A directory with a file, and with another directory in which there is a file. -/
def fileBeside (name : String) : FileTree :=
  .directory true true [
    (name.toList, .file true []),
    ("a".toList, .directory true true [("b.py".toList, .file true [])])]

theorem wellFormed_fileBeside {name : String} (hname : IsName name.toList)
    (hne : name.toList ≠ "a".toList) : (fileBeside name).WellFormed := by
  have hinner : (FileTree.directory true true [("b.py".toList, .file true [])]).WellFormed :=
    wellFormed_single (by decide) (FileTree.wellFormed_file true [])
  refine FileTree.wellFormed_directory ?_ ?_ ?_
  · simpa using hne
  · simp only [List.forall_mem_cons]
    exact ⟨hname, by decide, nofun⟩
  · simp only [List.forall_mem_cons]
    exact ⟨FileTree.wellFormed_file true [], hinner, nofun⟩

/-- However the directory is listed, the file comes before what is in the directory beside it. -/
theorem select_relisted_fileBeside :
    (holding (fileBeside "a.py")).root.WellFormed ∧
      ∀ other selection, Relisted (holding (fileBeside "a.py")) other → other.root.WellFormed →
        (other.select ["d".toList] ["py".toList] []).outcome = .ok selection →
        selection.files =
          [⟨"d/a.py".toList, "py".toList⟩, ⟨"d/a/b.py".toList, "py".toList⟩] := by
  have hwf : (holding (fileBeside "a.py")).root.WellFormed :=
    wellFormed_holding (wellFormed_fileBeside (by decide) (by decide))
  have hselect : ((holding (fileBeside "a.py")).select ["d".toList] ["py".toList] []).outcome =
      .ok ⟨[⟨"d/a.py".toList, "py".toList⟩, ⟨"d/a/b.py".toList, "py".toList⟩], []⟩ :=
    select_of_sorted (holding (fileBeside "a.py")) ⟨["py".toList], []⟩
      ((fileBeside "a.py").visits "d".toList true) rfl rfl (by decide)
  -- no two normalised paths are equal, so the order of listing cannot decide
  have huntied : ∀ root ∈ ["d".toList],
      Untied (holding (fileBeside "a.py")) ["py".toList] [] root := by
    rw [List.forall_mem_singleton]
    intro selection h
    rw [hselect] at h
    cases h
    decide
  exact ⟨hwf, ((select_relisted hwf).2 _ hselect).2.2 huntied⟩

/-- Nothing but the order of listing differs, yet a file with a backslash in its name and a file
whose path reads the same change places. -/
theorem select_follows_listing :
    (holding (fileBeside "a\\b.py")).root.WellFormed ∧
      (holding (fileBeside "a\\b.py")).mirrored.root.WellFormed ∧
      Relisted (holding (fileBeside "a\\b.py")) (holding (fileBeside "a\\b.py")).mirrored ∧
      ((holding (fileBeside "a\\b.py")).select ["d".toList] ["py".toList] []).outcome =
        .ok ⟨[⟨"d/a\\b.py".toList, "py".toList⟩, ⟨"d/a/b.py".toList, "py".toList⟩], []⟩ ∧
      ((holding (fileBeside "a\\b.py")).mirrored.select ["d".toList] ["py".toList] []).outcome =
        .ok ⟨[⟨"d/a/b.py".toList, "py".toList⟩, ⟨"d/a\\b.py".toList, "py".toList⟩], []⟩ := by
  have hwf : (holding (fileBeside "a\\b.py")).root.WellFormed :=
    wellFormed_holding (wellFormed_fileBeside (by decide) (by decide))
  refine ⟨hwf, hwf.mirrored, relisted_mirrored hwf, ?_, ?_⟩
  · exact select_of_sorted (holding (fileBeside "a\\b.py")) ⟨["py".toList], []⟩
      ((fileBeside "a\\b.py").visits "d".toList true) rfl rfl (by decide)
  · exact select_of_sorted (holding (fileBeside "a\\b.py")).mirrored ⟨["py".toList], []⟩
      ((fileBeside "a\\b.py").mirrored.visits "d".toList true) rfl rfl (by decide)

end TextHygiene
