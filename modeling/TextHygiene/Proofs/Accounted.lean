import TextHygiene.Proofs.Select
import TextHygiene.Proofs.Walk

/-!
# Files that a selection accounts for

A wanted file below a root should be selected, or else a skipped path should tell where the walk
came to an end.  This is so for every file but the hidden ones.  A directory that can be listed but
is closed to what is in it shows the names of its files, yet none of them can be looked up: what is
met under such a name is taken for something that is no file, and nothing is recorded.  The same
happens to a file whose path is too long.
-/

namespace TextHygiene

variable {ws : Workspace} {paths extensions ignore : List Text} {selection : Selection}

/-- A file below a root is selected, or its own path or one of a directory on the way is skipped. -/
def AccountedFor (selection : Selection) (root : Path) (names : List Text) : Prop :=
  (∃ file ∈ selection.files, file.path = root.below names) ∨
    ∃ above, above <+: names ∧ root.below above ∈ selection.skipped

/-- A file is met on a walk without being found: all is open down to its directory, which can be
listed, but either that directory is closed to what is in it or the path of the file is too long. -/
def Hidden (root : Path) (tree : FileTree) (names : List Text) : Prop :=
  ∃ dir name enterable entries, names = dir ++ [name] ∧ tree.OpenAbove dir ∧
    tree.at? dir = some (.directory true enterable entries) ∧
    (root.below dir).isTooLong = false ∧
    (enterable = false ∨ (root.below names).isTooLong = true)

/-! ## Hidden files -/

/-- Above a hidden file every directory is found and can be listed. -/
theorem Hidden.find_above {root : Path} {tree : FileTree} {names above : List Text}
    (hwf : ws.root.WellFormed) (hfind : ws.find root = .ok tree) (h : Hidden root tree names)
    (habove : above <+: names) (hne : above ≠ names) :
    ∃ enterable entries, tree.at? above = some (.directory true enterable entries) ∧
      ws.find (root.below above) = .ok (.directory true enterable entries) := by
  rcases h with ⟨dir, name, enterable, entries, rfl, hopen, hdir, hshort, _⟩
  rcases List.prefix_concat_iff.1 habove with heq | hprefix
  · exact absurd heq hne
  -- the directory of the file need not be open, all others are
  have hat : ∃ enterable' entries',
      tree.at? above = some (.directory true enterable' entries') := by
    by_cases hlast : above = dir
    · exact ⟨enterable, entries, hlast ▸ hdir⟩
    · exact ⟨true, hopen above hprefix hlast⟩
  rcases hat with ⟨enterable', entries', hat⟩
  have hopen' : tree.OpenAbove above := by
    intro higher hhigher hne'
    refine hopen higher (hhigher.trans hprefix) ?_
    rintro rfl
    exact hne' (hhigher.eq_of_length_le hprefix.length_le)
  have hshort' : (root.below above).isTooLong = false := by
    rcases hprefix with ⟨rest, rfl⟩
    exact Path.isTooLong_below_of_append hshort
  refine ⟨enterable', entries', hat, ?_⟩
  have hwalked := FileTree.walked_of_openAbove hopen' hshort' hat
  rw [hwalked.find_below hwf hfind rfl, hshort']
  rfl

/-- A file that a walk gets to is found if its directory is open and its path is not too long. -/
theorem isFile_of_walked {root : Path} {tree : FileTree} {names : List Text}
    {readable reachable : Bool} {bytes : List UInt8} (hwf : ws.root.WellFormed)
    (hfind : ws.find root = .ok tree)
    (h : FileTree.Walked root tree names reachable (.file readable bytes)) :
    ws.isFile (root.below names) = (reachable && !(root.below names).isTooLong) := by
  rw [Workspace.isFile, h.find_below hwf hfind rfl]
  cases (root.below names).isTooLong with
  | true => simp
  | false =>
      cases reachable with
      | true => rfl
      | false => rfl

/-- A hidden file does not pass for a file, since what its path leads to cannot be told. -/
theorem Hidden.not_isFile {root : Path} {tree : FileTree} {names : List Text} {readable : Bool}
    {bytes : List UInt8} (hwf : ws.root.WellFormed) (hfind : ws.find root = .ok tree)
    (hfile : tree.at? names = some (.file readable bytes)) (h : Hidden root tree names) :
    ws.isFile (root.below names) = false := by
  rcases h with ⟨dir, name, enterable, entries, rfl, hopen, hdir, hshort, hlost⟩
  rw [FileTree.at?_concat hdir] at hfile
  -- the directory is listed, so the walk gets to the file
  have hlisted : FileTree.listingFault? (root.below dir) true true = none :=
    FileTree.listingFault?_eq_none_iff.2 ⟨hshort, rfl, rfl⟩
  have hwalked := (FileTree.walked_of_openAbove hopen hshort hdir).into hlisted
    (FileTree.mem_of_lookup hfile)
  rw [isFile_of_walked hwf hfind hwalked]
  rcases hlost with hclosed | hlong
  · rw [hclosed, Bool.false_and]
  · rw [hlong, Bool.not_true, Bool.and_false]

/-- What a walk gets to without finding it is hidden. -/
theorem hidden_of_walked {root : Path} {tree sub : FileTree} {names : List Text} {reachable : Bool}
    (hwf : tree.WellFormed) (hshort : root.isTooLong = false)
    (h : FileTree.Walked root tree names reachable sub)
    (hlost : (reachable && !(root.below names).isTooLong) = false) : Hidden root tree names := by
  cases h with
  | root =>
      change (true && !root.isTooLong) = false at hlost
      rw [hshort] at hlost
      cases hlost
  | @into dir _ _ _ entries name _ hdir hlisted hmem =>
      rcases FileTree.listingFault?_eq_none_iff.1 hlisted with ⟨hshort', rfl, rfl⟩
      refine ⟨dir, name, reachable, entries, rfl, hdir.openAbove hwf rfl, hdir.at? hwf, hshort', ?_⟩
      rwa [Bool.and_eq_false_iff, Bool.not_eq_false'] at hlost

/-! ## Skipped paths -/

/-- What is known of a skipped path: an entry of a directory that can be listed has it, the entry is
a directory itself, and no directory that can be listed is found by the path. -/
theorem leftOut_of_mem_skipped (hwf : ws.root.WellFormed)
    (h : (ws.select paths extensions ignore).outcome = .ok selection) {path : Path}
    (hmem : path ∈ selection.skipped) :
    (∃ holder name enterable entries listable' enterable' entries',
      path = Path.join holder name ∧ IsName name ∧
      ws.find holder = .ok (.directory true enterable entries) ∧
      entries.lookup name = some (.directory listable' enterable' entries')) ∧
    ∀ enterable entries, ws.find path ≠ .ok (.directory true enterable entries) := by
  rcases (mem_skipped_of_select_iff h).1 hmem with ⟨root, _, visits, hvisits, fault, hvisit⟩
  rcases rootVisits_eq_ok_iff.1 hvisits with ⟨tree, hfind, hlistable, rfl⟩
  rcases FileTree.unreadable_mem_visits_iff.1 hvisit with
    ⟨names, reachable, sub, hwalked, rfl, hfault⟩
  have hwf' : tree.WellFormed := Workspace.wellFormed_of_find hwf hfind
  cases sub with
  | file => cases hfault
  | link => cases hfault
  | directory listable enterable entries =>
      change FileTree.listingFault? _ _ _ = _ at hfault
      refine ⟨?_, ?_⟩
      · -- only what is below the root can be skipped
        cases hwalked with
        | root =>
            -- the root has been listed
            have hlisted : listable = true := by
              cases listable with
              | true => rfl
              | false => exact absurd rfl (hlistable enterable entries)
            have hnone : FileTree.listingFault? (Path.below root []) true listable = none :=
              FileTree.listingFault?_eq_none_iff.2
                ⟨Workspace.isTooLong_of_find hfind, rfl, hlisted⟩
            rw [hnone] at hfault
            cases hfault
        | @into dir _ _ _ holding name _ hdir hlisted hentry =>
            rcases FileTree.listingFault?_eq_none_iff.1 hlisted with ⟨hshort, rfl, rfl⟩
            rcases hwf' _ _ _ _ (hdir.at? hwf') with ⟨hnodup, hnames⟩
            refine ⟨Path.below root dir, name, reachable, holding, listable, enterable, entries,
              Path.below_concat root dir name, hnames _ hentry, ?_,
              FileTree.lookup_of_mem hnodup hentry⟩
            rw [hdir.find_below hwf hfind rfl, hshort]
            rfl
      · -- what is found by the path could have been listed
        intro enterable' entries' hfound
        rw [hwalked.find_below hwf hfind rfl] at hfound
        split_ifs at hfound with hlong hreach
        cases hfound
        have hnone : FileTree.listingFault? (Path.below root names) reachable true = none :=
          FileTree.listingFault?_eq_none_iff.2 ⟨eq_false_of_ne_true hlong, hreach, rfl⟩
        rw [hnone] at hfault
        cases hfault

/-- No skipped path tells of a hidden file. -/
theorem Hidden.not_mem_skipped {root : Path} {tree : FileTree} {names above : List Text}
    {readable : Bool} {bytes : List UInt8} (hwf : ws.root.WellFormed)
    (hselect : (ws.select paths extensions ignore).outcome = .ok selection)
    (hfind : ws.find root = .ok tree) (hfile : tree.at? names = some (.file readable bytes))
    (h : Hidden root tree names) (habove : above <+: names) :
    root.below above ∉ selection.skipped := by
  intro hskipped
  -- what was skipped is a directory that cannot be listed, and the file is none
  rcases leftOut_of_mem_skipped hwf hselect hskipped with
    ⟨⟨holder, name, _, entries, _, _, _, hjoin, hname, hholder, hlookup⟩, hunlisted⟩
  by_cases hne : above = names
  · -- the path would belong to the file and to a directory in the same place
    subst hne
    have hsplit := h
    rcases hsplit with ⟨dir, last, _, _, rfl, _⟩
    rcases h.find_above hwf hfind (List.prefix_append dir [last]) (by simp) with
      ⟨_, entries', hdir, hfound⟩
    rw [FileTree.at?_concat hdir] at hfile
    have hlast : IsName last :=
      ((Workspace.wellFormed_of_find hwf hfind) _ _ _ _ hdir).2 _ (FileTree.mem_of_lookup hfile)
    rw [Path.below_concat] at hjoin
    rcases Workspace.directory_eq_of_join_eq hlast hname hfound hholder hjoin with ⟨rfl, rfl⟩
    rw [hfile] at hlookup
    cases hlookup
  · -- the directories above could be listed
    rcases h.find_above hwf hfind habove hne with ⟨_, _, _, hfound⟩
    exact hunlisted _ _ hfound

/-! ## Accounting -/

/-- A wanted file below a root is accounted for exactly if it is not hidden. -/
theorem select_accounts_iff {root : Path} {tree : FileTree} {names : List Text} {readable : Bool}
    {bytes : List UInt8} (hwf : ws.root.WellFormed)
    (h : (ws.select paths extensions ignore).outcome = .ok selection) (hroot : root ∈ paths)
    (hfind : ws.find root = .ok tree) (hfile : tree.at? names = some (.file readable bytes))
    (hwanted : Wanted extensions ignore (root.below names)) :
    AccountedFor selection root names ↔ ¬ Hidden root tree names := by
  have hwf' : tree.WellFormed := Workspace.wellFormed_of_find hwf hfind
  constructor
  · rintro (⟨file, hmem, hpath⟩ | ⟨above, habove, hskipped⟩) hhidden
    · -- a selected file is found by its path
      have hfound := ((mem_files_of_select_iff h).1 hmem).2.1
      rw [hpath, hhidden.not_isFile hwf hfind hfile] at hfound
      cases hfound
    · exact hhidden.not_mem_skipped hwf h hfind hfile habove hskipped
  · intro hhidden
    rcases rootVisits_of_select h hroot with ⟨visits, hvisits⟩
    rcases rootVisits_eq_ok_iff.1 hvisits with ⟨tree', hfind', _, rfl⟩
    rw [hfind] at hfind'
    cases hfind'
    -- on the way down the walk either reaches the file or is stopped once
    rcases FileTree.walked_or_stopped root hfile with
      ⟨reachable, hwalked⟩ | ⟨above, reachable, dir, fault, habove, hwalked, hfault⟩
    · -- the walk gets to the file, and looks it up
      have hfound : ws.isFile (root.below names) = true := by
        rw [isFile_of_walked hwf hfind hwalked]
        by_contra hlost
        exact hhidden (hidden_of_walked hwf' (Workspace.isTooLong_of_find hfind) hwalked
          (eq_false_of_ne_true hlost))
      rcases hwanted.1 with ⟨e, _, hextension⟩
      refine Or.inl ⟨⟨root.below names, e⟩, (mem_files_of_select_iff h).2 ?_, rfl⟩
      refine ⟨⟨root, hroot, _, hvisits, false, ?_⟩, hfound, hwanted, hextension⟩
      exact FileTree.entry_mem_visits_iff.2 ⟨names, reachable, _, hwalked, rfl, rfl⟩
    · -- the walk stops at a directory above
      refine Or.inr ⟨above, habove, (mem_skipped_of_select_iff h).2 ?_⟩
      refine ⟨root, hroot, _, hvisits, fault, ?_⟩
      exact FileTree.unreadable_mem_visits_iff.2 ⟨above, reachable, dir, hwalked, rfl, hfault⟩

/-- A directory with a file, and with a directory that is closed to listing and holds another. -/
def unlisted : FileTree :=
  .directory true true
    [("a.py".toList, .file true []),
      ("sub".toList, .directory false true [("b.py".toList, .file true [])])]

/-- A directory that can be listed but is closed to what is in it. -/
def unentered : FileTree :=
  .directory true false [("a.py".toList, .file true [])]

def holding (tree : FileTree) : Workspace where
  root := .directory true true [("d".toList, tree)]
  home := []

theorem wellFormed_single {listable enterable : Bool} {name : Text} {child : FileTree}
    (hname : IsName name) (hchild : child.WellFormed) :
    (FileTree.directory listable enterable [(name, child)]).WellFormed := by
  refine FileTree.wellFormed_directory (by simp) ?_ ?_
  · simpa only [List.forall_mem_singleton] using hname
  · simpa only [List.forall_mem_singleton] using hchild

theorem wellFormed_holding {tree : FileTree} (h : tree.WellFormed) :
    (holding tree).root.WellFormed :=
  wellFormed_single (by decide) h

theorem find_holding (listable enterable : Bool) (entries : List (Text × FileTree)) :
    (holding (.directory listable enterable entries)).find "d".toList =
      .ok (.directory listable enterable entries) := by
  refine Workspace.find_eq_ok_iff.2 ⟨["d".toList], ?_, rfl⟩
  rfl

/-- Without ignore patterns the extension alone decides which paths are wanted. -/
theorem wanted_below_holding (names : List Text)
    (h : (Path.below "d".toList names).extension? = some "py".toList) :
    Wanted ["py".toList] [] (Path.below "d".toList names) := by
  refine ⟨⟨_, List.mem_singleton.2 rfl, h⟩, ?_⟩
  intro raw hraw
  exact absurd hraw List.not_mem_nil

/-- A file in a directory that is closed to listing is accounted for by that directory. -/
theorem select_accounts_unlisted :
    ∃ selection, ((holding unlisted).select ["d".toList] ["py".toList] []).outcome = .ok selection ∧
      AccountedFor selection "d".toList ["sub".toList, "b.py".toList] ∧
      ¬ Hidden "d".toList unlisted ["sub".toList, "b.py".toList] := by
  have h : ((holding unlisted).select ["d".toList] ["py".toList] []).outcome =
      .ok ⟨[⟨"d/a.py".toList, "py".toList⟩], ["d/sub".toList]⟩ := by
    decide +kernel
  have hsub : (FileTree.directory false true [("b.py".toList, .file true [])]).WellFormed :=
    wellFormed_single (by decide) (FileTree.wellFormed_file true [])
  have hwf : unlisted.WellFormed := by
    refine FileTree.wellFormed_directory (by decide) ?_ ?_
    · simp only [List.forall_mem_cons]
      decide
    · simp only [List.forall_mem_cons]
      exact ⟨FileTree.wellFormed_file true [], hsub, nofun⟩
  -- the skipped directory stands for the file in it
  have haccounted : AccountedFor ⟨[⟨"d/a.py".toList, "py".toList⟩], ["d/sub".toList]⟩ "d".toList
      ["sub".toList, "b.py".toList] :=
    Or.inr ⟨["sub".toList], ⟨["b.py".toList], rfl⟩, List.mem_singleton.2 rfl⟩
  refine ⟨_, h, haccounted, ?_⟩
  exact (select_accounts_iff (wellFormed_holding hwf) h (List.mem_singleton.2 rfl)
    (find_holding true true _) rfl (wanted_below_holding _ (by decide))).1 haccounted

/-- A file in a directory that is closed only to what is in it is neither selected nor skipped. -/
theorem select_passes_over_unentered :
    ∃ selection,
      ((holding unentered).select ["d".toList] ["py".toList] []).outcome = .ok selection ∧
      (holding unentered).root.WellFormed ∧
      (holding unentered).find "d".toList = .ok unentered ∧
      unentered.at? ["a.py".toList] = some (.file true []) ∧
      Wanted ["py".toList] [] (Path.below "d".toList ["a.py".toList]) ∧
      ¬ AccountedFor selection "d".toList ["a.py".toList] := by
  have h : ((holding unentered).select ["d".toList] ["py".toList] []).outcome = .ok ⟨[], []⟩ := by
    decide +kernel
  have hwf : unentered.WellFormed :=
    wellFormed_single (by decide) (FileTree.wellFormed_file true [])
  refine ⟨_, h, wellFormed_holding hwf, find_holding true false _, rfl,
    wanted_below_holding _ (by decide), ?_⟩
  rintro (⟨file, hmem, _⟩ | ⟨above, _, hmem⟩)
  · exact List.not_mem_nil hmem
  · exact List.not_mem_nil hmem

end TextHygiene
