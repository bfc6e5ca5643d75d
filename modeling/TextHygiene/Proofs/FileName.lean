import TextHygiene.Proofs.Select

/-!
# The name at the end of a path

The extension of a path is that of its last component, if this is a name.  Slashes and `.`
components at the end of a path do not count.  `Path.EndsIn` says in four rules which name a path
ends in, without taking the path apart.  A filter finds an extension in a path exactly if this name
is made of a stem, a dot and the extension, which is one of the filter and has no dot itself.
-/

namespace TextHygiene

/-- A text that can be the name of a file. -/
structure IsFileName (name : Text) : Prop where
  nonempty : name ≠ []
  notCurrent : name ≠ ['.']
  notParent : name ≠ ['.', '.']
  noSlash : '/' ∉ name

instance (name : Text) : Decidable (IsFileName name) :=
  decidable_of_iff (name ≠ [] ∧ name ≠ ['.'] ∧ name ≠ ['.', '.'] ∧ '/' ∉ name)
    ⟨fun ⟨h₁, h₂, h₃, h₄⟩ => ⟨h₁, h₂, h₃, h₄⟩, fun ⟨h₁, h₂, h₃, h₄⟩ => ⟨h₁, h₂, h₃, h₄⟩⟩

namespace Path

variable {path front : Path} {name last piece : Text}

/-- The last component of a path is a name, slashes and `.` components at the end aside. -/
inductive EndsIn (name : Text) : Path → Prop where
  | alone : EndsIn name name
  | behind (front : Path) : EndsIn name (front ++ '/' :: name)
  | slash {path : Path} : EndsIn name path → EndsIn name (path ++ ['/'])
  | current {path : Path} : EndsIn name path → EndsIn name (path ++ ['/', '.'])

/-! ## The last component -/

theorem component?_eq_none_iff : component? piece = none ↔ piece = [] ∨ piece = ['.'] := by
  by_cases hskipped : piece = [] ∨ piece = ['.']
  · simp [component?, hskipped]
  · by_cases hparent : piece = ['.', '.']
    · simp [component?, hparent]
    · simp [component?, hskipped, hparent]

/-- A piece between two slashes is a name unless it is empty, `.` or `..`. -/
theorem component?_eq_name_iff :
    component? piece = some (.name name) ↔
      piece = name ∧ piece ≠ [] ∧ piece ≠ ['.'] ∧ piece ≠ ['.', '.'] := by
  by_cases hskipped : piece = [] ∨ piece = ['.']
  · have hnone : component? piece = none := component?_eq_none_iff.2 hskipped
    rw [hnone]
    refine iff_of_false nofun ?_
    rintro ⟨_, hempty, hcurrent, _⟩
    exact hskipped.elim hempty hcurrent
  · rw [not_or] at hskipped
    by_cases hparent : piece = ['.', '.']
    · simp [component?, hparent]
    · simp [component?, hskipped, hparent]

/-- The file name of a path is its last component, if that is a name. -/
theorem fileName?_eq_some_iff_getLast? :
    path.fileName? = some name ↔ path.components.getLast? = some (.name name) := by
  rw [fileName?]
  cases path.components.getLast? with
  | none => simp
  | some component =>
      cases component with
      | name text => simp
      | _ => simp

theorem fileName?_of_noSlash (h : '/' ∉ path) :
    path.fileName? = some name ↔ component? path = some (.name name) := by
  have hcomponents : path.components = (firstComponent? path false).toList := by
    rw [components, List.splitOn_eq_singleton h]
    simp
  rw [fileName?_eq_some_iff_getLast?, hcomponents]
  -- only an empty path and `.` count otherwise in front than between slashes
  by_cases hskipped : path = [] ∨ path = ['.']
  · rcases hskipped with rfl | rfl
    · simp [firstComponent?, component?]
    · simp [firstComponent?, component?]
  · rw [not_or] at hskipped
    have hfirst : firstComponent? path false = component? path := by
      simp [firstComponent?, hskipped]
    rw [hfirst]
    cases component? path with
    | none => rfl
    | some component => rfl

/-- What stands behind the last slash decides the name, unless it does not count. -/
theorem fileName?_append_slash (hlast : '/' ∉ last) :
    fileName? (front ++ '/' :: last) = some name ↔
      component? last = some (.name name) ∨
        component? last = none ∧ front.fileName? = some name := by
  rcases List.exists_cons_of_ne_nil (List.splitOn_ne_nil '/' front) with ⟨piece, pieces, hpieces⟩
  have hfront : front.components =
      (firstComponent? piece !pieces.isEmpty).toList ++ pieces.filterMap component? := by
    rw [components, hpieces]
  have hboth : components (front ++ '/' :: last) =
      (firstComponent? piece true).toList ++ pieces.filterMap component? ++
        (component? last).toList := by
    have hmore : (pieces ++ [last]).isEmpty = false := by simp
    have hlastComponent : [last].filterMap component? = (component? last).toList := by
      cases h : component? last with
      | none => simp [h]
      | some component => simp [h]
    rw [components, List.splitOn_append_cons_self, hpieces, List.splitOn_eq_singleton hlast,
      List.cons_append]
    simp only [hmore, List.filterMap_append, hlastComponent, Bool.not_false, List.append_assoc]
  rw [fileName?_eq_some_iff_getLast?, fileName?_eq_some_iff_getLast?, hboth, hfront]
  cases hcomponent : component? last with
  | some component => simp
  | none =>
      cases pieces with
      | cons next pieces => simp
      | nil =>
          -- the one piece in front of the slash is empty in a path that starts with this slash
          by_cases hempty : piece = []
          · simp [firstComponent?, hempty]
          · simp [firstComponent?, hempty]

theorem exists_eq_append_slash (h : '/' ∈ path) :
    ∃ front last, path = front ++ '/' :: last ∧ '/' ∉ last := by
  rcases List.eq_append_cons_of_mem (List.mem_reverse.2 h) with ⟨last, front, heq, hlast⟩
  refine ⟨front.reverse, last.reverse, ?_, by simpa using hlast⟩
  calc
    path = path.reverse.reverse := (List.reverse_reverse path).symm
    _ = (last ++ '/' :: front).reverse := congrArg List.reverse heq
    _ = front.reverse ++ '/' :: last.reverse := by simp

/-- A path ends in its file name. -/
theorem endsIn_of_fileName? (h : path.fileName? = some name) :
    IsFileName name ∧ EndsIn name path := by
  -- on how long the path is, from its last slash to the one before
  induction hlength : path.length using Nat.strongRecOn generalizing path with
  | ind n ih =>
      by_cases hslash : '/' ∈ path
      · rcases exists_eq_append_slash hslash with ⟨front, last, rfl, hlast⟩
        rcases (fileName?_append_slash hlast).1 h with hname | ⟨hnone, hfront⟩
        · rcases component?_eq_name_iff.1 hname with ⟨rfl, hempty, hcurrent, hparent⟩
          exact ⟨⟨hempty, hcurrent, hparent, hlast⟩, .behind front⟩
        · have hshorter : front.length < n := by
            rw [← hlength, List.length_append, List.length_cons]
            omega
          rcases ih front.length hshorter hfront rfl with ⟨hname, hends⟩
          rcases component?_eq_none_iff.1 hnone with rfl | rfl
          · exact ⟨hname, hends.slash⟩
          · exact ⟨hname, hends.current⟩
      · rcases component?_eq_name_iff.1 ((fileName?_of_noSlash hslash).1 h) with
          ⟨rfl, hempty, hcurrent, hparent⟩
        exact ⟨⟨hempty, hcurrent, hparent, hslash⟩, .alone⟩

/-- The last component of a path is the name that the path ends in. -/
theorem fileName?_eq_some_iff :
    path.fileName? = some name ↔ IsFileName name ∧ EndsIn name path := by
  constructor
  · exact endsIn_of_fileName?
  · rintro ⟨hname, hends⟩
    have hcomponent : component? name = some (.name name) :=
      component?_eq_name_iff.2 ⟨rfl, hname.nonempty, hname.notCurrent, hname.notParent⟩
    induction hends with
    | alone => exact (fileName?_of_noSlash hname.noSlash).2 hcomponent
    | behind front => exact (fileName?_append_slash hname.noSlash).2 (Or.inl hcomponent)
    | slash _ ih => exact (fileName?_append_slash List.not_mem_nil).2 (Or.inr ⟨rfl, ih⟩)
    | current _ ih => exact (fileName?_append_slash (by decide)).2 (Or.inr ⟨rfl, ih⟩)

/-! ## Extensions -/

/-- An extension is what stands behind the last dot, if something stands in front of that dot. -/
theorem nameExtension?_eq_some_iff {e : Text} :
    nameExtension? name = some e ↔ '.' ∉ e ∧ ∃ stem, stem ≠ [] ∧ name = stem ++ '.' :: e := by
  -- the name is cut at the first dot from behind, which needs something in front
  have hread : nameExtension? name = some e ↔
      ∃ ending stem, Text.cut? (· == '.') name.reverse = some (ending, stem) ∧ stem ≠ [] ∧
        ending.reverse = e := by
    simp only [nameExtension?, Option.bind_eq_bind, Option.bind_eq_some_iff, Prod.exists]
    refine exists_congr fun ending => exists_congr fun stem => and_congr_right fun _ => ?_
    cases stem with
    | nil => simp
    | cons c rest => simp
  rw [hread]
  constructor
  · rintro ⟨ending, stem, hcut, hstem, rfl⟩
    rcases Text.cut?_eq_some_iff.1 hcut with ⟨c, hreverse, hdot, hending⟩
    cases eq_of_beq hdot
    refine ⟨?_, stem.reverse, by simpa using hstem, ?_⟩
    · intro hmem
      exact absurd (hending '.' (List.mem_reverse.1 hmem)) (by decide)
    · calc
        name = name.reverse.reverse := (List.reverse_reverse name).symm
        _ = (ending ++ '.' :: stem).reverse := congrArg List.reverse hreverse
        _ = stem.reverse ++ '.' :: ending.reverse := by simp
  · rintro ⟨hdot, stem, hstem, rfl⟩
    refine ⟨e.reverse, stem.reverse, ?_, by simpa using hstem, List.reverse_reverse e⟩
    refine Text.cut?_eq_some_iff.2 ⟨'.', by simp, rfl, ?_⟩
    intro c hc
    rw [beq_eq_false_iff_ne]
    rintro rfl
    exact hdot (List.mem_reverse.1 hc)

/-- An extension is what stands behind the last dot of the name that a path ends in, if something
stands in front of that dot. -/
theorem extension?_eq_some_iff {e : Text} :
    path.extension? = some e ↔
      '.' ∉ e ∧ ∃ stem, stem ≠ [] ∧ IsFileName (stem ++ '.' :: e) ∧
        path.EndsIn (stem ++ '.' :: e) := by
  simp only [extension?, Option.bind_eq_some_iff, fileName?_eq_some_iff, nameExtension?_eq_some_iff]
  constructor
  · rintro ⟨_, ⟨hname, hends⟩, hdot, stem, hstem, rfl⟩
    exact ⟨hdot, stem, hstem, hname, hends⟩
  · rintro ⟨hdot, stem, hstem, hname, hends⟩
    exact ⟨_, ⟨hname, hends⟩, hdot, stem, hstem, rfl⟩

/-- Nothing of a path but the name that it ends in decides its extension. -/
theorem extension?_congr {other : Path} (hname : IsFileName name) (hpath : path.EndsIn name)
    (hother : other.EndsIn name) : path.extension? = other.extension? := by
  rw [extension?, extension?, fileName?_eq_some_iff.2 ⟨hname, hpath⟩,
    fileName?_eq_some_iff.2 ⟨hname, hother⟩]

/-- A name with no dot but the one at its front has no extension. -/
theorem extension?_of_dotFile {rest : Text} (hname : IsFileName ('.' :: rest)) (hdot : '.' ∉ rest)
    (hpath : path.EndsIn ('.' :: rest)) : path.extension? = none := by
  rw [extension?, fileName?_eq_some_iff.2 ⟨hname, hpath⟩, Option.bind_some,
    Option.eq_none_iff_forall_ne_some]
  intro e he
  rcases nameExtension?_eq_some_iff.1 he with ⟨_, stem, hstem, heq⟩
  cases stem with
  | nil => exact hstem rfl
  | cons c stem =>
      -- the dot in front of an extension would be another one
      have hrest : rest = stem ++ '.' :: e := (List.cons.inj heq).2
      exact hdot (hrest ▸ List.mem_append_right stem List.mem_cons_self)

end Path

/-- A filter finds an extension in a path exactly if it is one of the filter, has no dot, and stands
behind a stem and a dot in the name that the path ends in.  Of two paths that end in one name it
finds the same; in a name with no dot but one at the front it finds nothing; and it never finds an
extension with a dot. -/
theorem Filter.extension_exact (filter : Filter) :
    (∀ path e, filter.extension? path = some e ↔
        e ∈ filter.extensions ∧ '.' ∉ e ∧
          ∃ stem, stem ≠ [] ∧ IsFileName (stem ++ '.' :: e) ∧
            Path.EndsIn (stem ++ '.' :: e) path) ∧
      (∀ name, IsFileName name → ∀ path other, Path.EndsIn name path → Path.EndsIn name other →
        filter.extension? path = filter.extension? other) ∧
      (∀ rest, IsFileName ('.' :: rest) → '.' ∉ rest → ∀ path, Path.EndsIn ('.' :: rest) path →
        filter.extension? path = none) ∧
      ∀ e, '.' ∈ e → ∀ path, filter.extension? path ≠ some e := by
  refine ⟨?_, ?_, ?_, ?_⟩
  · intro path e
    rw [Filter.extension?_eq_some_iff, Path.extension?_eq_some_iff]
    exact and_comm
  · intro name hname path other hpath hother
    rw [Filter.extension?, Filter.extension?, Path.extension?_congr hname hpath hother]
  · intro rest hname hdot path hpath
    rw [Filter.extension?, Path.extension?_of_dotFile hname hdot hpath, Option.bind_none]
  · intro e hdot path h
    exact (Path.extension?_eq_some_iff.1 (Filter.extension?_eq_some_iff.1 h).1).1 hdot

def dottedFilter : Filter :=
  ⟨["tar.gz".toList, "gz".toList, "py".toList], []⟩

/-- Below `..`, which is below a directory with a dot in its name, and with slashes and `.` behind
it. -/
def archivePath : Path :=
  "v1.py/..//x.tar.gz/.//".toList

/-- Only what follows the last dot counts, and nothing but the last component does. -/
theorem Filter.extension_exact_archive :
    dottedFilter.extension? archivePath = some "gz".toList ∧
      dottedFilter.extension? archivePath = dottedFilter.extension? "x.tar.gz".toList ∧
      dottedFilter.extension? archivePath ≠ some "tar.gz".toList ∧
      dottedFilter.extension? "x.py/.gz/".toList = none := by
  have hname : IsFileName "x.tar.gz".toList := by decide
  have hends : Path.EndsIn "x.tar.gz".toList archivePath :=
    ((Path.EndsIn.behind "v1.py/../".toList).current.slash).slash
  have hhidden : Path.EndsIn ".gz".toList "x.py/.gz/".toList :=
    (Path.EndsIn.behind "x.py".toList).slash
  rcases Filter.extension_exact dottedFilter with ⟨hfound, hsame, hdotFile, hdotted⟩
  refine ⟨?_, ?_, ?_, ?_⟩
  · exact (hfound archivePath "gz".toList).2
      ⟨by decide, by decide, "x.tar".toList, by decide, hname, hends⟩
  · exact hsame "x.tar.gz".toList hname _ _ hends .alone
  · exact hdotted "tar.gz".toList (by decide) archivePath
  · exact hdotFile "gz".toList (by decide) (by decide) _ hhidden

end TextHygiene
