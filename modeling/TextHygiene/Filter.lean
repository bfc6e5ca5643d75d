import TextHygiene.Failure

/-!
# File filters

A filter keeps the files with one of some extensions whose path no ignore pattern hits.
-/

namespace TextHygiene

/-- Which files are inspected. -/
structure Filter where
  /-- The extensions to inspect, without a dot. -/
  extensions : List Text
  ignore : List Pattern
deriving DecidableEq, Repr

namespace Filter

/-- A filter from ignore patterns as they are written.  The first that cannot be used decides the
error. -/
def compile (extensions ignore : List Text) : Except PatternError Filter :=
  (ignore.mapM Pattern.compile).map fun patterns => ⟨extensions, patterns⟩

/-- The extension of a path, if it is one of those to inspect. -/
def extension? (filter : Filter) (path : Path) : Option Text :=
  path.extension?.bind fun e => filter.extensions.find? (· == e)

def ignores (filter : Filter) (path : Path) : Bool :=
  filter.ignore.any (·.hits path.normalized)

def includes (filter : Filter) (path : Path) : Bool :=
  (filter.extension? path).isSome && !filter.ignores path

end Filter

/-! ## Extensions as they are given -/

/-- An extension without blanks around it and without leading dots. -/
def bareExtension (raw : Text) : Text :=
  (Text.trim raw).dropWhile (· == '.')

/-- Adds an extension at the end, unless it is empty or there already. -/
def addExtension (extensions : List Text) (raw : Text) : List Text :=
  let e := bareExtension raw
  if e.isEmpty || extensions.contains e then extensions else extensions ++ [e]

/-- The extensions to inspect: bare, without empty ones, each once and in the order given.  At least
one must be left. -/
def normalizeExtensions (raw : List Text) : Except Failure (List Text) :=
  match raw.foldl addExtension [] with
  | [] => .error .noExtension
  | extensions => .ok extensions

end TextHygiene
