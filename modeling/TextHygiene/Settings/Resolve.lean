import TextHygiene.Ini
import TextHygiene.Settings
import TextHygiene.Text.Digits

/-!
# Settings from sections

The settings for a file extension are the built-in ones, overlaid with the options of the section
`default` and then with those of the section named like the extension.  Options are laid over one
another in the order of their section, each on its own; keys that mean nothing are passed over.
-/

namespace TextHygiene

/-- An option whose value cannot be used. -/
inductive OptionError where
  /-- A size that is not a number from one up. -/
  | badSize (sectionName key value : Text)
  /-- A rule that is turned neither on nor off. -/
  | badToggle (sectionName key value : Text)
deriving DecidableEq, Repr

def OptionError.message : OptionError → Text
  | badSize sectionName key value =>
      "[".toList ++ sectionName ++ "] ".toList ++ key ++
        " must be a positive integer, got '".toList ++ value ++ "'".toList
  | badToggle sectionName key value =>
      "[".toList ++ sectionName ++ "] ".toList ++ key ++
        " must be 'enable' or 'disable', got '".toList ++ value ++ "'".toList

namespace Settings

/-! ## Options -/

/-- What an option key stands for. -/
inductive Key where
  | indentSize
  | maxLineLength
  | headerLength
  | maxBlankLines
  | lineComment
  | toggle (rule : Rule)
deriving DecidableEq, Repr

/-- The meaning of a key.  Most keys have none. -/
def Key.of? (key : Text) : Option Key :=
  if key = "indent_size".toList then some .indentSize
  else if key = "max_line_length".toList then some .maxLineLength
  else if key = "section_header_length".toList then some .headerLength
  else if key = "max_blank_lines".toList then some .maxBlankLines
  else if key = "line_comment".toList then some .lineComment
  else (Rule.ofKey? key).map .toggle

/-- A size that an option can set. -/
abbrev Size :=
  {n : UInt64 // 0 < n}

def size? (value : Text) : Option Size :=
  (Text.word? value).bind fun n => if h : 0 < n then some ⟨n, h⟩ else none

def enablingWords : List Text :=
  ["enable".toList, "enabled".toList, "on".toList, "true".toList]

def disablingWords : List Text :=
  ["disable".toList, "disabled".toList, "off".toList, "false".toList]

def toggle? (value : Text) : Option Bool :=
  if enablingWords.contains (Text.lowercase value) then some true
  else if disablingWords.contains (Text.lowercase value) then some false
  else none

def setRule (settings : Settings) (rule : Rule) (on : Bool) : Settings :=
  { settings with
    disabled := if on then settings.disabled.erase rule else settings.disabled.insert rule }

def applyOption (sectionName : Text) (settings : Settings) (option : Text × Text) :
    Except OptionError Settings :=
  let (key, value) := option
  let size : Except OptionError Size :=
    match size? value with
    | some n => .ok n
    | none => .error (.badSize sectionName key value)
  -- a size is only complained about under a key that is one
  match Key.of? key with
  | none => .ok settings
  | some .indentSize => size.map fun n => { settings with indentSize := n.val }
  | some .maxLineLength => size.map fun n => { settings with maxLineLength := n.val }
  | some .headerLength => size.map fun n => { settings with headerLength := n.val }
  | some .maxBlankLines => size.map fun n => { settings with maxBlankLines := n.val }
  | some .lineComment =>
      .ok { settings with lineComment := if value.isEmpty then none else some value }
  | some (.toggle rule) =>
      match toggle? value with
      | some on => .ok (settings.setRule rule on)
      | none => .error (.badToggle sectionName key value)

def applyOptions (sectionName : Text) (settings : Settings) :
    List (Text × Text) → Except OptionError Settings
  | [] => .ok settings
  | option :: rest =>
      match applyOption sectionName settings option with
      | .ok next => applyOptions sectionName next rest
      | .error e => .error e

/-! ## Overlays -/

def defaultSection : Text :=
  "default".toList

/-- Lays a section over the settings, if there is such a section. -/
def applySection (sections : Sections) (settings : Settings) (name : Text) :
    Except OptionError Settings :=
  match sections.get? name with
  | some options => applyOptions name settings options.entries
  | none => .ok settings

/-- The settings for an extension. -/
def resolve (sections : Sections) (extension : Text) : Except OptionError Settings := do
  let settings ← applySection sections {} defaultSection
  if extension = defaultSection then pure settings
  else applySection sections settings extension

/-- The settings for several extensions.  The first extension that fails decides the error. -/
def resolveAll (sections : Sections) (extensions : List Text) :
    Except OptionError (Dict Settings) :=
  (extensions.mapM fun extension =>
    (resolve sections extension).map fun settings => (extension, settings)).map Dict.ofList

end Settings

end TextHygiene
