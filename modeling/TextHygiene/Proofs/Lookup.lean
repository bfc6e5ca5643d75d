import TextHygiene.Proofs.Stages
import TextHygiene.Tree.Lookup

/-!
# Looking into a directory

A path that leads to a directory, made longer by the name of an entry, leads to that entry, unless
the path has become too long or the directory is closed to what is in it.  The steps of a path
decide where it leads, apart from how long it is: after some steps either the search has failed,
whatever follows, or the rest is taken from a place of its own.
-/

namespace TextHygiene

/-! ## Names -/

/-- A name that an entry of a directory can have. -/
structure IsName (name : Text) : Prop where
  nonempty : name ≠ []
  not_current : name ≠ ['.']
  not_parent : name ≠ ['.', '.']
  no_slash : '/' ∉ name
  no_nul : '\x00' ∉ name

instance (name : Text) : Decidable (IsName name) :=
  decidable_of_iff
    (name ≠ [] ∧ name ≠ ['.'] ∧ name ≠ ['.', '.'] ∧ '/' ∉ name ∧ '\x00' ∉ name)
    ⟨fun ⟨h₁, h₂, h₃, h₄, h₅⟩ => ⟨h₁, h₂, h₃, h₄, h₅⟩,
      fun ⟨h₁, h₂, h₃, h₄, h₅⟩ => ⟨h₁, h₂, h₃, h₄, h₅⟩⟩

theorem IsName.ofPiece? {name : Text} (hname : IsName name) :
    Step.ofPiece? name = some (.down name) := by
  have hempty : name.isEmpty = false := by
    simpa using hname.nonempty
  simp [Step.ofPiece?, hempty, hname.not_current, hname.not_parent]

/-- The entries of every directory have names, and no two of them the same. -/
def FileTree.WellFormed (tree : FileTree) : Prop :=
  ∀ names listable enterable entries,
    tree.at? names = some (.directory listable enterable entries) →
      (entries.map (·.1)).Nodup ∧ ∀ entry ∈ entries, IsName entry.1

namespace FileTree

def isLink : FileTree → Bool
  | .link _ => true
  | _ => false

/-- Going down names is going down the first of them and then the rest. -/
theorem at?_append (tree : FileTree) (names more : List Text) :
    tree.at? (names ++ more) = (tree.at? names).bind (·.at? more) := by
  induction names generalizing tree with
  | nil => rfl
  | cons name rest ih =>
      rw [List.cons_append, at?, at?, Option.bind_assoc]
      exact congrArg _ (funext ih)

/-- What is in a well-formed tree is well formed. -/
theorem WellFormed.at? {tree sub : FileTree} {names : List Text} (hwf : tree.WellFormed)
    (h : tree.at? names = some sub) : sub.WellFormed := by
  intro more listable enterable entries hsub
  refine hwf (names ++ more) listable enterable entries ?_
  rw [at?_append, h]
  exact hsub

theorem mem_of_lookup {entries : List (Text × FileTree)} {name : Text} {child : FileTree}
    (h : entries.lookup name = some child) : (name, child) ∈ entries := by
  rcases List.lookup_eq_some_iff.1 h with ⟨before, after, rfl, _⟩
  exact List.mem_append_right _ List.mem_cons_self

theorem wellFormed_file (readable : Bool) (bytes : List UInt8) :
    (file readable bytes).WellFormed := by
  intro names listable enterable entries h
  cases names with
  | nil => cases h
  | cons name rest => cases h

theorem wellFormed_link (target : Path) : (link target).WellFormed := by
  intro names listable enterable entries h
  cases names with
  | nil => cases h
  | cons name rest => cases h

theorem wellFormed_directory {listable enterable : Bool} {entries : List (Text × FileTree)}
    (hnodup : (entries.map (·.1)).Nodup) (hnames : ∀ entry ∈ entries, IsName entry.1)
    (hwf : ∀ entry ∈ entries, entry.2.WellFormed) :
    (directory listable enterable entries).WellFormed := by
  intro names listable' enterable' entries' h
  cases names with
  | nil =>
      cases h
      exact ⟨hnodup, hnames⟩
  | cons name rest =>
      rcases Option.bind_eq_some_iff.1 h with ⟨child, hchild, hat⟩
      exact hwf _ (mem_of_lookup hchild) _ _ _ _ hat

theorem lookup_of_mem {entries : List (Text × FileTree)} {name : Text} {child : FileTree}
    (hnodup : (entries.map (·.1)).Nodup) (hmem : (name, child) ∈ entries) :
    entries.lookup name = some child := by
  induction entries with
  | nil => exact absurd hmem List.not_mem_nil
  | cons entry rest ih =>
      rcases entry with ⟨other, tree⟩
      rcases List.nodup_cons.1 hnodup with ⟨hfresh, hrest⟩
      rcases List.mem_cons.1 hmem with heq | hin
      · cases heq
        exact List.lookup_cons_self
      · -- a later entry has another name
        have hne : name ≠ other := by
          rintro rfl
          exact hfresh (List.mem_map.2 ⟨_, hin, rfl⟩)
        rw [List.lookup_cons, beq_eq_false_iff_ne.2 hne]
        exact ih hrest hin

theorem at?_concat {tree : FileTree} {names : List Text} {listable enterable : Bool}
    {entries : List (Text × FileTree)}
    (h : tree.at? names = some (.directory listable enterable entries)) (name : Text) :
    tree.at? (names ++ [name]) = entries.lookup name := by
  rw [at?_append, h]
  change (entries.lookup name).bind (·.at? []) = _
  cases entries.lookup name with
  | none => rfl
  | some child => rfl

end FileTree

/-! ## The steps of a path -/

/-- The steps of a path without those of trailing slashes. -/
def Step.between (path : Path) : List Step :=
  (path.splitOn '/').filterMap ofPiece?

theorem Step.between_join {path : Path} {name : Text} (hpath : path ≠ []) (hname : IsName name) :
    Step.between (path.join name) = Step.between path ++ [.down name] := by
  have hsingle : name.splitOn '/' = [name] := List.splitOn_eq_singleton hname.no_slash
  have hempty : path.isEmpty = false := by
    simpa using hpath
  rw [between, between, Path.join, hempty, Bool.false_or]
  by_cases hslash : path.getLast? = some '/'
  · -- the path ends in a slash already: the last piece is empty and makes no step
    rcases List.getLast?_eq_some_iff.1 hslash with ⟨front, rfl⟩
    rw [if_pos (beq_iff_eq.2 hslash), List.append_assoc]
    have hlast : ofPiece? [] = none := rfl
    simp only [List.singleton_append, List.splitOn_append_cons_self, hsingle, List.splitOn_nil,
      List.filterMap_append, List.filterMap_cons, List.filterMap_nil, hlast, hname.ofPiece?,
      List.append_nil]
  · rw [if_neg (by simpa using hslash), List.splitOn_append_cons_self, hsingle,
      List.filterMap_append, List.filterMap_cons, hname.ofPiece?, List.filterMap_nil]

/-- A name below a directory adds one step to the steps of its path. -/
theorem Step.ofPath_join {path : Path} {name : Text} (hpath : path ≠ []) (hname : IsName name) :
    Step.ofPath (path.join name) = Step.between path ++ [.down name] := by
  have hlast : (path.join name).getLast? ≠ some '/' := by
    intro h
    -- the last character is one of the name
    have hsuffix : (path.join name).getLast? = name.getLast? := by
      rw [Path.join]
      split
      · rw [List.getLast?_append_of_ne_nil _ hname.nonempty]
      · rw [List.getLast?_append_of_ne_nil _ (List.cons_ne_nil _ _), List.getLast?_cons,
          List.getLast?_eq_some_getLast hname.nonempty, Option.getD_some]
    rw [hsuffix] at h
    exact hname.no_slash (List.mem_of_getLast? h)
  have hnone : ((path.join name).getLast? == some '/') = false := by
    simpa using hlast
  rw [ofPath, hnone]
  simpa [Step.between] using Step.between_join hpath hname

theorem head?_join {path : Path} (name : Text) (hpath : path ≠ []) :
    (path.join name).head? = path.head? := by
  cases path with
  | nil => exact absurd rfl hpath
  | cons c rest =>
      rw [Path.join]
      split
      · rfl
      · rfl

theorem mem_join {path : Path} {name : Text} {c : Char} (hc : c ∈ path.join name) :
    c ∈ path ∨ c = '/' ∨ c ∈ name := by
  rw [Path.join] at hc
  split at hc
  · rcases List.mem_append.1 hc with h | h
    · exact Or.inl h
    · exact Or.inr (Or.inr h)
  · rcases List.mem_append.1 hc with h | h
    · exact Or.inl h
    · exact Or.inr (List.mem_cons.1 h)

namespace Workspace

variable {ws : Workspace}

/-! ## Going on from a place -/

/-- After some steps a search has failed, whatever follows, or it goes on from a place. -/
def Settles (ws : Workspace) (search : List Step → Except AccessFault (List Text))
    (steps : List Step) : Prop :=
  (∃ fault, ∀ more, search (steps ++ more) = .error fault) ∨
    ∃ left place, ∀ more, search (steps ++ more) = ws.walk left place more

/-- A step fails, leads to a place or comes upon a link, whatever follows. -/
def Proceeds (ws : Workspace) (follow : List Text → List Step → Except AccessFault (List Text))
    (here : List Text) (step : Step) : Prop :=
  (∃ fault, ∀ rest, ws.takeSteps follow here (step :: rest) = .error fault) ∨
    (∃ next, ∀ rest, ws.takeSteps follow here (step :: rest) = ws.takeSteps follow next rest) ∨
    ∃ start steps, ∀ rest,
      ws.takeSteps follow here (step :: rest) = follow start (steps ++ rest)

theorem proceeds_down {follow : List Text → List Step → Except AccessFault (List Text)}
    {here : List Text} {name : Text} {listable : Bool} {entries : List (Text × FileTree)}
    (hat : ws.root.at? here = some (.directory listable true entries)) :
    ws.Proceeds follow here (.down name) := by
  cases hchild : ws.root.at? (here ++ [name]) with
  | none => exact Or.inl ⟨.ofMissing name, fun rest => by simp [takeSteps, hat, hchild]⟩
  | some child =>
      cases child with
      | link target =>
          exact Or.inr (Or.inr ⟨startOf here target, Step.ofPath target, fun rest => by
            simp [takeSteps, hat, hchild]⟩)
      | file =>
          exact Or.inr (Or.inl ⟨here ++ [name], fun rest => by simp [takeSteps, hat, hchild]⟩)
      | directory =>
          exact Or.inr (Or.inl ⟨here ++ [name], fun rest => by simp [takeSteps, hat, hchild]⟩)

/-- Every step fails, leads to a place or comes upon a link, whatever follows. -/
theorem proceeds (ws : Workspace)
    (follow : List Text → List Step → Except AccessFault (List Text)) (here : List Text)
    (step : Step) : ws.Proceeds follow here step := by
  cases hat : ws.root.at? here with
  | none => exact Or.inl ⟨.notFound, fun rest => by simp [takeSteps, hat]⟩
  | some tree =>
      cases tree with
      | file => exact Or.inl ⟨.notDirectory, fun rest => by simp [takeSteps, hat]⟩
      | link => exact Or.inl ⟨.notDirectory, fun rest => by simp [takeSteps, hat]⟩
      | directory listable enterable entries =>
          -- only a trailing slash asks nothing of the directory
          by_cases hstep : step = .directory
          · exact Or.inr (Or.inl ⟨here, fun rest => by simp [takeSteps, hat, hstep]⟩)
          · cases enterable with
            | false => exact Or.inl ⟨.denied, fun rest => by simp [takeSteps, hat, hstep]⟩
            | true =>
                cases step with
                | directory => exact absurd rfl hstep
                | stay => exact Or.inr (Or.inl ⟨here, fun rest => by simp [takeSteps, hat]⟩)
                | up =>
                    exact Or.inr (Or.inl ⟨here.dropLast, fun rest => by simp [takeSteps, hat]⟩)
                | down name => exact proceeds_down hat

/-- Whether a search fails within some steps does not depend on what follows them, if this is so of
the search behind links. -/
theorem takeSteps_settles {follow : List Text → List Step → Except AccessFault (List Text)}
    (left : Nat) (hwalk : ws.walk left = ws.takeSteps follow)
    (hfollow : ∀ here steps, ws.Settles (follow here) steps) (here : List Text)
    (steps : List Step) : ws.Settles (ws.takeSteps follow here) steps := by
  induction steps generalizing here with
  | nil =>
      refine Or.inr ⟨left, here, ?_⟩
      intro more
      rw [hwalk, List.nil_append]
  | cons step rest ih =>
      rcases ws.proceeds follow here step with
        ⟨fault, hfails⟩ | ⟨next, hnext⟩ | ⟨start, target, hlink⟩
      · exact Or.inl ⟨fault, fun more => hfails (rest ++ more)⟩
      · simpa only [Settles, List.cons_append, hnext] using ih next
      · -- the remaining steps are taken behind those of the target
        simpa only [Settles, List.cons_append, hlink, List.append_assoc] using
          hfollow start (target ++ rest)

/-- Whether a search fails within some steps does not depend on what follows them. -/
theorem walk_settles (links : Nat) :
    ∀ here steps, ws.Settles (ws.walk links here) steps := by
  -- every link that is followed leaves one fewer to follow
  induction links with
  | zero =>
      refine takeSteps_settles 0 rfl ?_
      intro here steps
      exact Or.inl ⟨.tooManyLinks, fun more => rfl⟩
  | succ links ih =>
      intro here steps
      exact takeSteps_settles (links + 1) rfl ih here steps

theorem walk_eq_takeSteps (ws : Workspace) (left : Nat) :
    ∃ follow, ws.walk left = ws.takeSteps follow := by
  cases left with
  | zero => exact ⟨_, rfl⟩
  | succ links => exact ⟨_, rfl⟩

/-- Slashes at the end of a path lead nowhere else. -/
theorem walk_trailing {left : Nat} {mid place : List Text} {slash : Bool}
    (h : ws.walk left mid (if slash then [.directory] else []) = .ok place) : mid = place := by
  rcases ws.walk_eq_takeSteps left with ⟨follow, hwalk⟩
  rw [hwalk] at h
  cases slash with
  | false => exact Except.ok.inj h
  | true =>
      simp only [if_true, takeSteps] at h
      split at h
      · exact Except.ok.inj h
      · cases h
      · cases h

/-- A name that is no link leads down, if the directory is open to what is in it. -/
theorem walk_down {left : Nat} {mid : List Text} {name : Text} {listable enterable : Bool}
    {entries : List (Text × FileTree)} {child : FileTree}
    (hat : ws.root.at? mid = some (.directory listable enterable entries))
    (hchild : ws.root.at? (mid ++ [name]) = some child) (hlink : child.isLink = false) :
    ws.walk left mid [.down name] =
      if enterable then .ok (mid ++ [name]) else .error .denied := by
  rcases ws.walk_eq_takeSteps left with ⟨follow, hwalk⟩
  rw [hwalk, takeSteps, hat]
  cases enterable with
  | false => rfl
  | true =>
      cases child with
      | link target => cases hlink
      | file => simp [hchild, takeSteps]
      | directory => simp [hchild, takeSteps]

/-! ## Directories -/

/-- What a path leads to is what is at the place that it leads to. -/
theorem find_eq_ok_iff {path : Path} {tree : FileTree} :
    ws.find path = .ok tree ↔
      ∃ place, ws.locate path = .ok place ∧ ws.root.at? place = some tree := by
  rw [find, bind_eq_ok_iff]
  refine exists_congr fun place => and_congr_right fun _ => ?_
  cases ws.root.at? place with
  | none => simp
  | some found => simp [pure, Except.pure]

theorem wellFormed_of_find {path : Path} {tree : FileTree} (hwf : ws.root.WellFormed)
    (h : ws.find path = .ok tree) : tree.WellFormed := by
  rcases find_eq_ok_iff.1 h with ⟨place, _, hat⟩
  exact hwf.at? hat

/-- A path that can be looked up, and how the search for what is below it goes on. -/
structure OpensAt (ws : Workspace) (path : Path) (place : List Text) : Prop where
  nonempty : path ≠ []
  no_nul : '\x00' ∉ path
  short : path.isTooLong = false
  goesOn : ∃ left, ∀ more, ws.walk linkLimit (startOf ws.home path) (Step.between path ++ more) =
    ws.walk left place more

/-- A path leads to a place if it is not empty, not too long and without zeros, and the search
succeeds. -/
theorem locate_eq_ok_iff {path : Path} {place : List Text} :
    ws.locate path = .ok place ↔
      '\x00' ∉ path ∧ path ≠ [] ∧ path.isTooLong = false ∧
        ws.walk linkLimit (startOf ws.home path) (Step.ofPath path) = .ok place := by
  rw [locate]
  by_cases hnul : '\x00' ∈ path
  · simp [hnul]
  · by_cases hempty : path = []
    · simp [hempty]
    · by_cases hlong : path.isTooLong = true
      · simp [hnul, hempty, hlong]
      · simp [hnul, hempty, hlong]

theorem ne_nil_of_find {path : Path} {tree : FileTree} (h : ws.find path = .ok tree) :
    path ≠ [] := by
  rcases find_eq_ok_iff.1 h with ⟨place, hlocate, _⟩
  exact (locate_eq_ok_iff.1 hlocate).2.1

theorem isTooLong_of_find {path : Path} {tree : FileTree} (h : ws.find path = .ok tree) :
    path.isTooLong = false := by
  rcases find_eq_ok_iff.1 h with ⟨place, hlocate, _⟩
  exact (locate_eq_ok_iff.1 hlocate).2.2.1

/-- The place of a directory is one that the search goes on from. -/
theorem opensAt_of_find {path : Path} {listable enterable : Bool}
    {entries : List (Text × FileTree)}
    (h : ws.find path = .ok (.directory listable enterable entries)) :
    ∃ place, ws.OpensAt path place ∧
      ws.root.at? place = some (.directory listable enterable entries) := by
  rcases find_eq_ok_iff.1 h with ⟨place, hlocate, hat⟩
  rcases locate_eq_ok_iff.1 hlocate with ⟨hnul, hempty, hshort, hwalk⟩
  rcases walk_settles linkLimit (startOf ws.home path) (Step.between path) with
    ⟨fault, hfails⟩ | ⟨left, mid, hgoes⟩
  · rw [Step.ofPath, ← Step.between, hfails] at hwalk
    cases hwalk
  · -- a trailing slash leads nowhere else
    have hmid : mid = place := by
      rw [Step.ofPath, ← Step.between, hgoes] at hwalk
      exact walk_trailing hwalk
    subst hmid
    exact ⟨mid, ⟨hempty, hnul, hshort, left, hgoes⟩, hat⟩

/-- An entry is found by the path of its directory with its name behind, unless that path is too
long or the directory is closed. -/
theorem find_join {path : Path} {name : Text} {listable enterable : Bool}
    {entries : List (Text × FileTree)} {child : FileTree} (hname : IsName name)
    (h : ws.find path = .ok (.directory listable enterable entries))
    (hchild : entries.lookup name = some child) (hlink : child.isLink = false) :
    ws.find (path.join name) =
      if (path.join name).isTooLong then .error .nameTooLong
      else if enterable then .ok child else .error .denied := by
  rcases opensAt_of_find h with ⟨place, hopens, hat⟩
  rcases hopens.goesOn with ⟨left, hgoes⟩
  have hat' : ws.root.at? (place ++ [name]) = some child := by
    rw [FileTree.at?_concat hat, hchild]
  have hnul : '\x00' ∉ path.join name := by
    intro hmem
    rcases mem_join hmem with hin | heq | hin
    · exact hopens.no_nul hin
    · exact absurd heq (by decide)
    · exact hname.no_nul hin
  -- the longer path starts where the path of the directory does
  have hempty : path.join name ≠ [] := by
    intro heq
    have hhead := head?_join name hopens.nonempty
    rw [heq] at hhead
    exact hopens.nonempty (List.head?_eq_none_iff.1 hhead.symm)
  have hstart : startOf ws.home (path.join name) = startOf ws.home path := by
    rw [startOf, startOf, head?_join name hopens.nonempty]
  have hlocate : ws.locate (path.join name) =
      if (path.join name).isTooLong then .error .nameTooLong
      else if enterable then .ok (place ++ [name]) else .error .denied := by
    rw [locate, if_neg (by simpa using hnul), if_neg (by simpa using hempty), hstart,
      Step.ofPath_join hopens.nonempty hname, hgoes, walk_down hat hat' hlink]
  by_cases hlong : (path.join name).isTooLong = true
  · rw [if_pos hlong] at hlocate ⊢
    rw [find, hlocate]
    rfl
  · rw [if_neg hlong] at hlocate ⊢
    cases enterable with
    | false =>
        rw [find, hlocate]
        rfl
    | true => exact find_eq_ok_iff.2 ⟨_, hlocate, hat'⟩

/-- One path names an entry of one directory only. -/
theorem directory_eq_of_join_eq {path path' : Path} {name name' : Text}
    {listable enterable listable' enterable' : Bool} {entries entries' : List (Text × FileTree)}
    (hname : IsName name) (hname' : IsName name')
    (h : ws.find path = .ok (.directory listable enterable entries))
    (h' : ws.find path' = .ok (.directory listable' enterable' entries'))
    (heq : path.join name = path'.join name') : name = name' ∧ entries = entries' := by
  rcases opensAt_of_find h with ⟨place, hopens, hat⟩
  rcases opensAt_of_find h' with ⟨place', hopens', hat'⟩
  rcases hopens.goesOn with ⟨left, hgoes⟩
  rcases hopens'.goesOn with ⟨left', hgoes'⟩
  have hsteps : Step.between path ++ [.down name] = Step.between path' ++ [.down name'] := by
    rw [← Step.between_join hopens.nonempty hname, heq, Step.between_join hopens'.nonempty hname']
  rcases List.append_inj' hsteps rfl with ⟨hbetween, hlast⟩
  have hstart : startOf ws.home path = startOf ws.home path' := by
    rw [startOf, startOf, ← head?_join name hopens.nonempty, heq,
      head?_join name' hopens'.nonempty]
  -- both searches take the same steps from the same start
  have hplaces : ws.walk left place [] = ws.walk left' place' [] := by
    rw [← hgoes, ← hgoes', hbetween, hstart]
  have hplace : place = place' := by
    rcases ws.walk_eq_takeSteps left with ⟨follow, hwalk⟩
    rcases ws.walk_eq_takeSteps left' with ⟨follow', hwalk'⟩
    rw [hwalk, hwalk'] at hplaces
    exact Except.ok.inj hplaces
  subst hplace
  rw [hat] at hat'
  cases hat'
  cases hlast
  exact ⟨rfl, rfl⟩

end Workspace

end TextHygiene
