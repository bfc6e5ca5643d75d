import TextHygiene.Proofs.Accounted
import TextHygiene.Proofs.Failing
import TextHygiene.Proofs.Once

/-!
# What a selection holds

In a tree without restrictions a selection succeeds exactly if every root leads somewhere.  Root
after root it then holds each wanted file at the root or below it once, sorted by normalised paths
and tagged with its own extension.  A walk stops only at the length of a path: a directory whose
path is too long is skipped, and nothing below it is met.
-/

namespace TextHygiene

variable {ws : Workspace} {filter : Filter} {paths extensions ignore : List Text} {root : Path}

/-! ## Trees without restrictions -/

/-- Every directory can be listed and is open to what is in it. -/
def FileTree.Unrestricted (tree : FileTree) : Prop :=
  ∀ names listable enterable entries,
    tree.at? names = some (.directory listable enterable entries) →
      listable = true ∧ enterable = true

namespace FileTree

theorem unrestricted_of_not_directory {tree : FileTree}
    (h : ∀ listable enterable, tree.kind ≠ .directory listable enterable) : tree.Unrestricted := by
  intro names listable enterable entries hat
  cases tree with
  | directory listable' enterable' => exact absurd rfl (h listable' enterable')
  | file =>
      cases names with
      | nil => cases hat
      | cons name rest => cases hat
  | link =>
      cases names with
      | nil => cases hat
      | cons name rest => cases hat

theorem unrestricted_directory {entries : List (Text × FileTree)}
    (h : ∀ entry ∈ entries, entry.2.Unrestricted) :
    (directory true true entries).Unrestricted := by
  intro names listable enterable entries' hat
  cases names with
  | nil =>
      cases hat
      exact ⟨rfl, rfl⟩
  | cons name rest =>
      rcases Option.bind_eq_some_iff.1 hat with ⟨child, hchild, hrest⟩
      exact h _ (mem_of_lookup hchild) _ _ _ _ hrest

theorem Unrestricted.at? {tree sub : FileTree} {names : List Text} (hopen : tree.Unrestricted)
    (h : tree.at? names = some sub) : sub.Unrestricted := by
  intro more listable enterable entries hsub
  refine hopen (names ++ more) listable enterable entries ?_
  rw [at?_append, h]
  exact hsub

theorem Unrestricted.of_find (hopen : ws.root.Unrestricted) {tree : FileTree}
    (h : ws.find root = .ok tree) : tree.Unrestricted := by
  rcases Workspace.find_eq_ok_iff.1 h with ⟨place, _, hat⟩
  exact hopen.at? hat

/-- Without restrictions all directories above a place are open. -/
theorem Unrestricted.openAbove {tree sub : FileTree} {names : List Text}
    (hopen : tree.Unrestricted) (hat : tree.at? names = some sub) : tree.OpenAbove names := by
  rintro above ⟨rest, rfl⟩ hne
  rw [at?_append, Option.bind_eq_some_iff] at hat
  rcases hat with ⟨holder, habove, hrest⟩
  cases rest with
  | nil => exact absurd (List.append_nil above).symm hne
  | cons name more =>
      -- only a directory has something below it
      cases holder with
      | file => cases hrest
      | link => cases hrest
      | directory listable enterable entries =>
          rcases hopen _ _ _ _ habove with ⟨rfl, rfl⟩
          exact ⟨entries, habove⟩

/-- Without restrictions a walk gets to a place unless the path of its directory is too long. -/
theorem walked_concat_iff {tree sub : FileTree} {path : Path} {dir : List Text} {name : Text}
    {reachable : Bool} (hwf : tree.WellFormed) (hopen : tree.Unrestricted) :
    Walked path tree (dir ++ [name]) reachable sub ↔
      reachable = true ∧ (path.below dir).isTooLong = false ∧
        tree.at? (dir ++ [name]) = some sub := by
  constructor
  · intro h
    have hat := h.at? hwf
    -- a walk to a place below the root ends with a step from a directory that was listed
    generalize hnames : dir ++ [name] = names at h
    cases h with
    | root => exact absurd hnames (by simp)
    | @into dir' _ _ _ _ _ _ hwalked hlisted _ =>
        rcases List.append_inj' hnames rfl with ⟨rfl, hlast⟩
        cases hlast
        exact ⟨(hopen _ _ _ _ (hwalked.at? hwf)).2, (listingFault?_eq_none_iff.1 hlisted).1, hat⟩
  · rintro ⟨rfl, hshort, hat⟩
    rcases hopen.openAbove hat dir (List.prefix_append _ _) (by simp) with ⟨entries, hdir⟩
    rw [at?_concat hdir] at hat
    have hwalked := walked_of_openAbove (hopen.openAbove hdir) hshort hdir
    exact hwalked.into (listingFault?_eq_none_iff.2 ⟨hshort, rfl, rfl⟩) (mem_of_lookup hat)

theorem Walked.reachable_of_unrestricted {tree sub : FileTree} {path : Path} {names : List Text}
    {reachable : Bool} (hwf : tree.WellFormed) (hopen : tree.Unrestricted)
    (h : Walked path tree names reachable sub) : reachable = true := by
  cases h with
  | root => rfl
  | into hwalked _ _ => exact (hopen _ _ _ _ (hwalked.at? hwf)).2

end FileTree

/-! ## What one root holds -/

/-- The path of a file at a root or below it, or of a link there that leads to a file.  The names on
the way go through no link. -/
def FileBelow (ws : Workspace) (root path : Path) : Prop :=
  ∃ tree names sub, ws.find root = .ok tree ∧ tree.at? names = some sub ∧
    path = root.below names ∧ (sub.kind = .file ∨ sub.isLink = true ∧ ws.isFile path = true)

/-- The path of a directory below a root that is too long, while that of the directory above is
not. -/
def TooLongBelow (ws : Workspace) (root path : Path) : Prop :=
  ∃ tree dir name listable enterable entries, ws.find root = .ok tree ∧
    tree.at? (dir ++ [name]) = some (.directory listable enterable entries) ∧
    path = root.below (dir ++ [name]) ∧
    (root.below dir).isTooLong = false ∧ path.isTooLong = true

/-- A scan holds what it should hold, and skips what it cannot walk through. -/
structure Scan.Exact (ws : Workspace) (extensions ignore : List Text) (root : Path)
    (found : Scan) : Prop where
  nodup : found.files.Nodup
  sorted : found.files.Pairwise fun a b => Text.noLater a.normalized b.normalized = true
  sound : ∀ path ∈ found.files, FileBelow ws root path ∧ Wanted extensions ignore path
  complete : ∀ path, FileBelow ws root path → Wanted extensions ignore path →
    path.isTooLong = false → path ∈ found.files
  nodup_skipped : found.skipped.Nodup
  mem_skipped_iff : ∀ path, path ∈ found.skipped ↔ TooLongBelow ws root path

namespace Scan

/-- A list of the paths of visits of one kind holds each path once. -/
theorem nodup_filterMap_visits {f : Visit → Option Path} (isEntry : Bool) {visits : List Visit}
    (hf : ∀ visit path, f visit = some path → visit.path = path ∧ visit.isEntry = isEntry)
    (h : visits.Pairwise Visit.Apart) : (visits.filterMap f).Nodup := by
  refine List.pairwise_filterMap.2 (h.imp ?_)
  intro a b hapart path ha path' hb heq
  rcases hf a path ha with ⟨rfl, hkind⟩
  rcases hf b path' hb with ⟨rfl, hkind'⟩
  exact hapart heq (hkind.trans hkind'.symm)

/-- Visits of different paths make no file twice. -/
theorem nodup_files_ofVisits {visits : List Visit} (h : visits.Pairwise Visit.Apart) :
    (ofVisits ws filter visits).files.Nodup := by
  refine (List.mergeSort_perm _ _).nodup_iff.2 (nodup_filterMap_visits true ?_ h)
  intro visit path hfile
  cases visit with
  | unreadable => cases hfile
  | entry =>
      rcases Option.ite_some_none_eq_some.1 hfile with ⟨_, rfl⟩
      exact ⟨rfl, rfl⟩

theorem nodup_skipped_ofVisits {visits : List Visit} (h : visits.Pairwise Visit.Apart) :
    (ofVisits ws filter visits).skipped.Nodup := by
  refine nodup_filterMap_visits false ?_ h
  intro visit path hskipped
  cases visit with
  | entry => cases hskipped
  | unreadable =>
      cases hskipped
      exact ⟨rfl, rfl⟩

/-- The files of a scan are in the order of their normalised paths. -/
theorem sorted_files_ofVisits (visits : List Visit) :
    (ofVisits ws filter visits).files.Pairwise fun a b =>
      Text.noLater a.normalized b.normalized = true := by
  have htrans : ∀ a b c, noLater a b = true → noLater b c = true → noLater a c = true :=
    fun _ _ _ => Text.noLater_trans
  have htotal : ∀ a b, (noLater a b || noLater b a) = true := fun _ _ => Text.noLater_total _ _
  exact List.pairwise_mergeSort htrans htotal _

end Scan

/-- What a walk finds to be a file under a path is a file or a link. -/
theorem fileBelow_of_walked {tree sub : FileTree} {names : List Text} {reachable : Bool}
    (hwf : ws.root.WellFormed) (hfind : ws.find root = .ok tree)
    (h : FileTree.Walked root tree names reachable sub)
    (hfile : ws.isFile (root.below names) = true) : FileBelow ws root (root.below names) := by
  refine ⟨tree, names, sub, hfind, h.at? (Workspace.wellFormed_of_find hwf hfind), rfl, ?_⟩
  cases sub with
  | file => exact Or.inl rfl
  | link => exact Or.inr ⟨rfl, hfile⟩
  | directory =>
      rw [Workspace.isFile, h.find_below hwf hfind rfl] at hfile
      split_ifs at hfile

/-- A file below a root whose path is not too long is met by the walk and found by its path. -/
theorem FileBelow.exists_walked {path : Path} (hwf : ws.root.WellFormed)
    (hopen : ws.root.Unrestricted) (hshort : path.isTooLong = false)
    (h : FileBelow ws root path) :
    ∃ tree names sub, ws.find root = .ok tree ∧ FileTree.Walked root tree names true sub ∧
      path = root.below names ∧ ws.isFile path = true := by
  rcases h with ⟨tree, names, sub, hfind, hat, rfl, hkind⟩
  have hopen' : tree.Unrestricted := FileTree.Unrestricted.of_find hopen hfind
  have hwalked := FileTree.walked_of_openAbove (hopen'.openAbove hat) hshort hat
  refine ⟨tree, names, sub, hfind, hwalked, rfl, ?_⟩
  rcases hkind with hkind | ⟨_, hfile⟩
  · cases sub with
    | file => rw [isFile_of_walked hwf hfind hwalked, hshort]; rfl
    | link => cases hkind
    | directory => cases hkind
  · exact hfile

/-- A walk without restrictions leaves out the directories whose paths are too long. -/
theorem unreadable_mem_visits_iff_tooLongBelow {tree : FileTree} {path : Path}
    (hwf : ws.root.WellFormed) (hopen : ws.root.Unrestricted) (hfind : ws.find root = .ok tree) :
    (∃ fault, Visit.unreadable path fault ∈ tree.visits root true) ↔
      TooLongBelow ws root path := by
  have hwf' : tree.WellFormed := Workspace.wellFormed_of_find hwf hfind
  have hopen' : tree.Unrestricted := FileTree.Unrestricted.of_find hopen hfind
  constructor
  · rintro ⟨fault, hvisit⟩
    rcases FileTree.unreadable_mem_visits_iff.1 hvisit with
      ⟨names, reachable, sub, hwalked, rfl, hfault⟩
    cases sub with
    | file => cases hfault
    | link => cases hfault
    | directory listable enterable entries =>
        change FileTree.listingFault? _ _ _ = _ at hfault
        have hreach := hwalked.reachable_of_unrestricted hwf' hopen'
        have hlist := (hopen' _ _ _ _ (hwalked.at? hwf')).1
        -- nothing but its length is wrong with the path
        have hlong : (root.below names).isTooLong = true := by
          by_contra hshort
          rw [FileTree.listingFault?_eq_none_iff.2 ⟨eq_false_of_ne_true hshort, hreach, hlist⟩]
            at hfault
          cases hfault
        rcases List.eq_nil_or_concat' names with rfl | ⟨dir, name, rfl⟩
        · have hshort := Workspace.isTooLong_of_find hfind
          change root.isTooLong = true at hlong
          rw [hshort] at hlong
          cases hlong
        · rcases (FileTree.walked_concat_iff hwf' hopen').1 hwalked with ⟨_, hshort, hat⟩
          exact ⟨tree, dir, name, _, _, _, hfind, hat, rfl, hshort, hlong⟩
  · rintro ⟨tree', dir, name, listable, enterable, entries, hfind', hat, rfl, hshort, hlong⟩
    rw [hfind] at hfind'
    cases hfind'
    have hwalked := (FileTree.walked_concat_iff hwf' hopen').2 ⟨rfl, hshort, hat⟩
    refine ⟨.nameTooLong, FileTree.unreadable_mem_visits_iff.2 ⟨_, _, _, hwalked, rfl, ?_⟩⟩
    exact if_pos hlong

/-- Without restrictions a scan holds what it should hold and skips what it cannot walk through. -/
theorem exact_of_scan {found : Scan} (hwf : ws.root.WellFormed) (hopen : ws.root.Unrestricted)
    (hfilter : Filter.compile extensions ignore = .ok filter)
    (h : (ws.scan filter root).outcome = .ok found) : found.Exact ws extensions ignore root := by
  rcases scan_outcome_eq_ok_iff.1 h with ⟨visits, hvisits, rfl⟩
  rcases rootVisits_eq_ok_iff.1 hvisits with ⟨tree, hfind, _, rfl⟩
  have hapart : (tree.visits root true).Pairwise Visit.Apart :=
    FileTree.pairwise_apart_visits tree (Workspace.ne_nil_of_find hfind)
      (Workspace.wellFormed_of_find hwf hfind)
  refine ⟨Scan.nodup_files_ofVisits hapart, Scan.sorted_files_ofVisits _, ?_, ?_,
    Scan.nodup_skipped_ofVisits hapart, ?_⟩
  · -- what is kept was met by the walk and looked up
    intro path hmem
    rcases Scan.mem_files_ofVisits_iff.1 hmem with ⟨⟨isLink, hvisit⟩, hfile, hincludes⟩
    rcases FileTree.entry_mem_visits_iff.1 hvisit with ⟨names, reachable, sub, hwalked, rfl, _⟩
    exact ⟨fileBelow_of_walked hwf hfind hwalked hfile,
      (Filter.includes_iff_wanted hfilter).1 hincludes⟩
  · -- the walk gets to a file by the path that it is found by
    intro path hbelow hwanted hshort
    rcases hbelow.exists_walked hwf hopen hshort with
      ⟨tree', names, sub, hfind', hwalked, rfl, hfile⟩
    rw [hfind] at hfind'
    cases hfind'
    refine Scan.mem_files_ofVisits_iff.2 ⟨⟨sub.isLink, ?_⟩, hfile,
      (Filter.includes_iff_wanted hfilter).2 hwanted⟩
    exact FileTree.entry_mem_visits_iff.2 ⟨names, true, sub, hwalked, rfl, rfl⟩
  · intro path
    rw [Scan.mem_skipped_ofVisits_iff, unreadable_mem_visits_iff_tooLongBelow hwf hopen hfind]

/-! ## When a selection succeeds -/

/-- Without restrictions nothing can be wrong with a root but that it leads nowhere. -/
theorem forall_not_rootFault_iff (hopen : ws.root.Unrestricted) :
    (∀ failure, ¬ RootFault ws root failure) ↔ ws.leadsSomewhere root = true := by
  rw [Workspace.leadsSomewhere]
  cases hfind : ws.find root with
  | error fault =>
      refine iff_of_false (fun h => ?_) Bool.false_ne_true
      exact h _ (Or.inl ⟨⟨fault, hfind⟩, rfl⟩)
  | ok tree =>
      refine iff_of_true ?_ rfl
      rintro failure (⟨⟨fault, hfault⟩, _⟩ | ⟨⟨enterable, entries, hclosed⟩, _⟩)
      · rw [hfind] at hfault
        cases hfault
      · have hlisted := (FileTree.Unrestricted.of_find hopen hclosed [] _ _ _ rfl).1
        cases hlisted

/-- With valid patterns and without restrictions a selection succeeds exactly if every root leads
somewhere. -/
theorem exists_selection_iff (hopen : ws.root.Unrestricted)
    (hvalid : ∀ raw ∈ ignore, ∃ pattern, Pattern.compile raw = .ok pattern) :
    (∃ selection, (ws.select paths extensions ignore).outcome = .ok selection) ↔
      ∀ root ∈ paths, ws.leadsSomewhere root = true := by
  have hcompiled : ∃ filter, Filter.compile extensions ignore = .ok filter :=
    Filter.exists_compile_iff.2 hvalid
  rcases hcompiled with ⟨filter, hfilter⟩
  have hselect : (ws.select paths extensions ignore).outcome =
      (ws.scanAll filter {} paths).outcome := by
    rw [Workspace.select, Logged.outcome_bind, Logged.outcome_ofExcept, hfilter]
    rfl
  rw [hselect, exists_ok_iff]
  simp only [ne_eq, scanAll_outcome_eq_error_iff, forall_not_firstFault_iff,
    forall_not_rootFault_iff hopen]

/-! ## The whole selection -/

/-- In a tree without restrictions, with patterns that can be used, a selection succeeds exactly if
every root leads somewhere.  It is then made of one scan for each root, in order: every scan holds
each wanted file at or below its root once, unless the file's path is too long, sorted by normalised
paths; every file is tagged with its own extension; and what is skipped are the directories whose
paths are too long. -/
theorem select_exact (hwf : ws.root.WellFormed) (hopen : ws.root.Unrestricted)
    (hvalid : ∀ raw ∈ ignore, ∃ pattern, Pattern.compile raw = .ok pattern) :
    ((∃ selection, (ws.select paths extensions ignore).outcome = .ok selection) ↔
      ∀ root ∈ paths, ws.leadsSomewhere root = true) ∧
    ∀ selection, (ws.select paths extensions ignore).outcome = .ok selection →
      ∃ scans, List.Forall₂ (Scan.Exact ws extensions ignore) paths scans ∧
        selection.files.map (·.path) = scans.flatMap (·.files) ∧
        (∀ file ∈ selection.files, file.path.extension? = some file.extension) ∧
        selection.skipped = scans.flatMap (·.skipped) := by
  refine ⟨exists_selection_iff hopen hvalid, ?_⟩
  intro selection h
  rcases select_outcome_eq_ok_iff.1 h with ⟨filter, scans, hfilter, hscans, rfl⟩
  refine ⟨scans, hscans.imp fun root found hscan => ?_, map_path_files_ofScans hscans,
    fun file hmem => (extension?_of_mem_ofScans hmem).1, rfl⟩
  exact exact_of_scan hwf hopen hfilter hscan

/-- A directory with a file, a link to a file beside it, a dangling link and a link in a circle. -/
def linked : Workspace where
  root := .directory true true [
    ("r.py".toList, .file false []),
    ("d".toList, .directory true true [
      ("up".toList, .link "../d".toList),
      ("b.py".toList, .link "../r.py".toList),
      ("gone.py".toList, .link "nowhere".toList),
      ("a.py".toList, .file true [])])]
  home := []

theorem wellFormed_linked : linked.root.WellFormed := by
  refine FileTree.wellFormed_directory (by decide) (by decide) ?_
  simp only [List.forall_mem_cons]
  refine ⟨FileTree.wellFormed_file _ _, ?_, nofun⟩
  refine FileTree.wellFormed_directory (by decide) (by decide) ?_
  simp only [List.forall_mem_cons]
  exact ⟨FileTree.wellFormed_link _, FileTree.wellFormed_link _, FileTree.wellFormed_link _,
    FileTree.wellFormed_file _ _, nofun⟩

theorem unrestricted_linked : linked.root.Unrestricted := by
  refine FileTree.unrestricted_directory ?_
  simp only [List.forall_mem_cons]
  refine ⟨FileTree.unrestricted_of_not_directory nofun, FileTree.unrestricted_directory ?_, nofun⟩
  -- the directory holds links and a file only
  simp only [List.forall_mem_cons]
  exact ⟨FileTree.unrestricted_of_not_directory nofun, FileTree.unrestricted_of_not_directory nofun,
    FileTree.unrestricted_of_not_directory nofun, FileTree.unrestricted_of_not_directory nofun,
    nofun⟩

/-- Links to files are selected, those that dangle or lead in a circle are not, and a root may be a
file. -/
theorem select_exact_linked :
    (linked.select ["d".toList, "r.py".toList] ["py".toList] ["a".toList]).outcome =
        .ok ⟨[⟨"d/b.py".toList, "py".toList⟩, ⟨"r.py".toList, "py".toList⟩], []⟩ ∧
      ∃ scans, List.Forall₂ (Scan.Exact linked ["py".toList] ["a".toList])
          ["d".toList, "r.py".toList] scans ∧
        ["d/b.py".toList, "r.py".toList] = scans.flatMap (·.files) := by
  have h : (linked.select ["d".toList, "r.py".toList] ["py".toList] ["a".toList]).outcome =
      .ok ⟨[⟨"d/b.py".toList, "py".toList⟩, ⟨"r.py".toList, "py".toList⟩], []⟩ := by
    decide +kernel
  have hvalid : ∀ raw ∈ ["a".toList], ∃ pattern, Pattern.compile raw = .ok pattern := by
    simp only [List.forall_mem_singleton]
    exact ⟨_, rfl⟩
  rcases (select_exact wellFormed_linked unrestricted_linked hvalid).2 _ h with
    ⟨scans, hscans, hfiles, _, _⟩
  exact ⟨h, scans, hscans, hfiles⟩

/-! ## Paths that are too long -/

/-- Names behind a path are written behind it, each with a slash in front. -/
theorem Path.below_eq_append {path : Path} {names : List Text} (hpath : path ≠ [])
    (hslash : path.getLast? ≠ some '/') (hnames : ∀ name ∈ names, IsName name) :
    path.below names = path ++ names.flatMap ('/' :: ·) := by
  induction names generalizing path with
  | nil => exact (List.append_nil path).symm
  | cons name rest ih =>
      rcases List.forall_mem_cons.1 hnames with ⟨hname, hrest⟩
      have hjoin : path.join name = path ++ '/' :: name := by
        simp [join, hpath, hslash]
      -- a name does not end in a slash either
      have hslash' : (path.join name).getLast? ≠ some '/' := by
        intro hlast
        rw [hjoin, List.getLast?_append_of_ne_nil _ (List.cons_ne_nil _ _), List.getLast?_cons,
          List.getLast?_eq_some_getLast hname.nonempty, Option.getD_some] at hlast
        exact hname.no_slash (Option.some.inj hlast ▸ List.getLast_mem hname.nonempty)
      change (path.join name).below rest = _
      rw [ih (join_ne_nil hpath name) hslash' hrest, hjoin, List.flatMap_cons, List.append_assoc]

def longName : Text :=
  List.replicate 255 'a'

/-- Directories with long names, one in the other, and a file in the last. -/
def nested : Nat → FileTree
  | 0 => .directory true true [("a.py".toList, .file true [])]
  | depth + 1 => .directory true true [(longName, nested depth)]

theorem at?_nested (depth more : Nat) :
    (nested (depth + more)).at? (List.replicate depth longName) = some (nested more) := by
  induction depth with
  | zero =>
      rw [Nat.zero_add]
      rfl
  | succ depth ih =>
      rw [Nat.succ_add, List.replicate_succ]
      change (([(longName, nested (depth + more))].lookup longName).bind _) = _
      rw [List.lookup_cons_self]
      exact ih

theorem wellFormed_nested (depth : Nat) : (nested depth).WellFormed := by
  induction depth with
  | zero => exact wellFormed_single (by decide) (FileTree.wellFormed_file true [])
  | succ depth ih => exact wellFormed_single (by decide +kernel) ih

theorem unrestricted_nested (depth : Nat) : (nested depth).Unrestricted := by
  induction depth with
  | zero =>
      refine FileTree.unrestricted_directory ?_
      rw [List.forall_mem_singleton]
      exact FileTree.unrestricted_of_not_directory nofun
  | succ depth ih =>
      refine FileTree.unrestricted_directory ?_
      simpa only [List.forall_mem_singleton] using ih

/-- With every level the path grows by the length of a name and a slash. -/
theorem length_encode_below_replicate (depth : Nat) :
    (Utf8.encode (Path.below "d".toList (List.replicate depth longName))).length =
      1 + depth * 256 := by
  have hname : IsName longName := by decide +kernel
  -- the name takes 255 bytes
  have hstep : (Utf8.encode ('/' :: longName)).length = 256 := by decide +kernel
  have hnames : (Utf8.encode ((List.replicate depth longName).flatMap ('/' :: ·))).length =
      depth * 256 := by
    induction depth with
    | zero => rfl
    | succ depth ih =>
        rw [List.replicate_succ, List.flatMap_cons, Utf8.encode, List.flatMap_append,
          List.length_append, ← Utf8.encode, ← Utf8.encode, ih, hstep]
        omega
  rw [Path.below_eq_append (by decide) (by decide)
    fun name hmem => List.eq_of_mem_replicate hmem ▸ hname, Utf8.encode, List.flatMap_append,
    List.length_append, ← Utf8.encode, ← Utf8.encode, hnames]
  rfl

/-- Nothing is closed in a tree that is deep enough to have a path too long, yet the selection skips
a directory. -/
theorem select_skips_nested :
    (holding (nested 16)).root.WellFormed ∧ (holding (nested 16)).root.Unrestricted ∧
      ∃ selection,
        ((holding (nested 16)).select ["d".toList] ["py".toList] []).outcome = .ok selection ∧
        selection.skipped ≠ [] := by
  have hwf := wellFormed_holding (wellFormed_nested 16)
  have hopen : (holding (nested 16)).root.Unrestricted := by
    refine FileTree.unrestricted_directory ?_
    simpa only [List.forall_mem_singleton] using unrestricted_nested 16
  have hfind : (holding (nested 16)).find "d".toList = .ok (nested 16) :=
    find_holding true true _
  have hsucceeds : ∃ selection,
      ((holding (nested 16)).select ["d".toList] ["py".toList] []).outcome = .ok selection := by
    refine (exists_selection_iff hopen (List.forall_mem_nil _)).2 ?_
    rw [List.forall_mem_singleton, Workspace.leadsSomewhere, hfind]
    rfl
  -- the sixteenth directory has a path of 4097 bytes, the one above it is not too long
  have hbeyond : TooLongBelow (holding (nested 16)) "d".toList
      (Path.below "d".toList (List.replicate 15 longName ++ [longName])) := by
    have hshort := length_encode_below_replicate 15
    have hlong := length_encode_below_replicate 16
    refine ⟨nested 16, List.replicate 15 longName, longName, true, true, _, hfind,
      at?_nested 16 0, rfl, ?_, ?_⟩
    · rw [Path.isTooLong, hshort]
      decide
    · rw [Path.isTooLong, ← List.replicate_succ', hlong]
      decide
  rcases hsucceeds with ⟨selection, h⟩
  refine ⟨hwf, hopen, selection, h, ?_⟩
  have hskipped := (mem_skipped_of_select_iff h).2
    ⟨"d".toList, List.mem_singleton_self _, _, rootVisits_eq_ok_iff.2 ⟨_, hfind, nofun, rfl⟩,
      (unreadable_mem_visits_iff_tooLongBelow hwf hopen hfind).2 hbeyond⟩
  exact List.ne_nil_of_mem hskipped

end TextHygiene
