import TextHygiene.Config
import TextHygiene.Proofs.Stages

/-!
# Workspaces with the same outline

Two workspaces have the same outline if every place holds the same kind of thing in both: a file, a
directory with the same permissions, or a link with the same target.  What is in the files, and
whether it can be read, may differ.  Paths lead to the same places in both, since a search never
looks into a file.
-/

namespace TextHygiene

/-! ## Outlines -/

/-- What stands at a place, apart from what is in it. -/
inductive Kind where
  | file
  | directory (listable enterable : Bool)
  | link (target : Path)
deriving DecidableEq, Repr

def FileTree.kind : FileTree → Kind
  | .file _ _ => .file
  | .directory listable enterable _ => .directory listable enterable
  | .link target => .link target

/-- Two workspaces differ in nothing but their files: in what they hold and if they can be read. -/
structure SameOutline (a b : Workspace) : Prop where
  home : a.home = b.home
  kind : ∀ place, (a.root.at? place).map FileTree.kind = (b.root.at? place).map FileTree.kind

namespace Workspace

/-- What a step comes to depends on the kinds of things on the way only. -/
theorem takeSteps_cons (ws : Workspace)
    (follow : List Text → List Step → Except AccessFault (List Text)) (here : List Text)
    (step : Step) (rest : List Step) :
    ws.takeSteps follow here (step :: rest) =
      match (ws.root.at? here).map FileTree.kind with
      | some (.directory _ enterable) =>
          if step = .directory then ws.takeSteps follow here rest
          else if !enterable then .error .denied
          else
            match step with
            | .stay | .directory => ws.takeSteps follow here rest
            | .up => ws.takeSteps follow here.dropLast rest
            | .down name =>
                match (ws.root.at? (here ++ [name])).map FileTree.kind with
                | none => .error (.ofMissing name)
                | some (.link target) => follow (startOf here target) (Step.ofPath target ++ rest)
                | some _ => ws.takeSteps follow (here ++ [name]) rest
      | some _ => .error .notDirectory
      | none => .error .notFound := by
  -- only the kinds of the place and of the child are looked at
  cases hat : ws.root.at? here with
  | none => simp [takeSteps, hat]
  | some tree =>
      cases tree with
      | file => simp [takeSteps, hat, FileTree.kind]
      | link => simp [takeSteps, hat, FileTree.kind]
      | directory listable enterable entries =>
          cases step with
          | stay => simp [takeSteps, hat, FileTree.kind]
          | up => simp [takeSteps, hat, FileTree.kind]
          | directory => simp [takeSteps, hat, FileTree.kind]
          | down name =>
              cases hchild : ws.root.at? (here ++ [name]) with
              | none => simp [takeSteps, hat, hchild, FileTree.kind]
              | some child =>
                  cases child with
                  | file => simp [takeSteps, hat, hchild, FileTree.kind]
                  | link => simp [takeSteps, hat, hchild, FileTree.kind]
                  | directory => simp [takeSteps, hat, hchild, FileTree.kind]

/-- What kind of thing a path leads to is the kind of what stands at its place. -/
theorem find_map_kind (ws : Workspace) (path : Path) :
    (ws.find path).map FileTree.kind =
      ws.locate path >>= fun place =>
        ((ws.root.at? place).map FileTree.kind).elim (.error .notFound) .ok := by
  rw [find]
  cases ws.locate path with
  | error fault => rfl
  | ok place =>
      simp only [bind, Except.bind]
      cases ws.root.at? place with
      | none => rfl
      | some tree => rfl

theorem isFile_iff_kind {ws : Workspace} {path : Path} :
    ws.isFile path = true ↔ (ws.find path).map FileTree.kind = .ok .file := by
  rw [isFile]
  cases ws.find path with
  | error fault => simp [Except.map]
  | ok tree =>
      cases tree with
      | file => simp [Except.map, FileTree.kind]
      | directory => simp [Except.map, FileTree.kind]
      | link => simp [Except.map, FileTree.kind]

end Workspace

/-! ## Searching -/

namespace SameOutline

variable {a b : Workspace}

/-- Steps lead to the same places, since what is in files is never looked at on the way. -/
theorem takeSteps (h : SameOutline a b)
    (follow : List Text → List Step → Except AccessFault (List Text)) (here : List Text)
    (steps : List Step) : a.takeSteps follow here steps = b.takeSteps follow here steps := by
  induction steps generalizing here with
  | nil => rfl
  | cons step rest ih =>
      rw [Workspace.takeSteps_cons, Workspace.takeSteps_cons]
      simp only [h.kind, ih]

/-- A search leads to the same places, however many links it may follow. -/
theorem walk (h : SameOutline a b) (links : Nat) : a.walk links = b.walk links := by
  -- every link that is followed leaves one fewer to follow
  induction links with
  | zero =>
      funext here steps
      exact h.takeSteps _ here steps
  | succ links ih =>
      funext here steps
      rw [Workspace.walk, Workspace.walk, ih]
      exact h.takeSteps _ here steps

theorem locate (h : SameOutline a b) (path : Path) : a.locate path = b.locate path := by
  rw [Workspace.locate, Workspace.locate, h.walk, h.home]

/-- A path leads to things of the same kind. -/
theorem find (h : SameOutline a b) (path : Path) :
    (a.find path).map FileTree.kind = (b.find path).map FileTree.kind := by
  rw [Workspace.find_map_kind, Workspace.find_map_kind, h.locate]
  simp only [h.kind]

theorem isFile (h : SameOutline a b) (path : Path) : a.isFile path = b.isFile path := by
  rw [Bool.eq_iff_iff, Workspace.isFile_iff_kind, Workspace.isFile_iff_kind, h.find]

end SameOutline

end TextHygiene
