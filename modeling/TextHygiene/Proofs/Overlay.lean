import TextHygiene.Proofs.Assignments
import TextHygiene.Proofs.Reading
import TextHygiene.Proofs.Splitting

/-!
# One configuration file laid over another

What two configuration files in a row come to.  The sections of the first file keep their places and
the new ones of the second follow; inside a section the same goes for the keys, and a key that both
files set has the value that the second gives it.  The second file is read with a section of the
first still open, but this makes no difference: a file that can be read on its own sets nothing
above its first header.
-/

namespace TextHygiene

namespace Dict

variable {β : Type}

/-! ## Overlays -/

/-- The entries of `base` in their places, each combined with the one of `top` that has its key,
and behind them the entries of `top` that have new keys. -/
def overlayEntries (combine : β → β → β) (base top : Dict β) : List (Text × β) :=
  base.entries.map (fun (key, value) => (key, (top.get? key).elim value (combine value))) ++
    top.entries.filter fun entry => !base.keys.contains entry.1

variable (combine : β → β → β) (base top : Dict β)

theorem keys_overlayEntries :
    (overlayEntries combine base top).map (·.1) =
      base.keys ++ top.keys.filter fun key => !base.keys.contains key := by
  rw [overlayEntries, List.map_append, List.map_map, keys, keys, List.filter_map]
  rfl

theorem nodup_overlayEntries : ((overlayEntries combine base top).map (·.1)).Nodup := by
  rw [keys_overlayEntries]
  apply List.nodup_append.2
  refine ⟨base.nodup, top.nodup.filter _, ?_⟩
  intro key hbase other htop heq
  subst heq
  simp [hbase] at htop

/-- A dictionary laid over another one. -/
def overlay : Dict β :=
  ⟨overlayEntries combine base top, nodup_overlayEntries combine base top⟩

/-- Keys of the base come first, and new keys behind them. -/
theorem keys_overlay :
    (overlay combine base top).keys =
      base.keys ++ top.keys.filter fun key => !base.keys.contains key :=
  keys_overlayEntries combine base top

/-- Under each key stands what either dictionary has, or both values combined. -/
theorem get?_overlay (key : Text) :
    (overlay combine base top).get? key =
      Option.merge combine (base.get? key) (top.get? key) := by
  cases hbase : base.get? key with
  | some value =>
      -- the key keeps its entry
      have hmem : (key, (top.get? key).elim value (combine value)) ∈
          (overlay combine base top).entries := by
        apply List.mem_append_left
        exact List.mem_map.2 ⟨(key, value), get?_eq_some_iff.1 hbase, rfl⟩
      rw [get?_eq_some_iff.2 hmem]
      cases top.get? key with
      | none => rfl
      | some new => rfl
  | none =>
      have hfresh : key ∉ base.keys := get?_eq_none_iff.1 hbase
      cases htop : top.get? key with
      | some new =>
          have hmem : (key, new) ∈ (overlay combine base top).entries := by
            apply List.mem_append_right
            exact List.mem_filter.2 ⟨get?_eq_some_iff.1 htop, by simpa using hfresh⟩
          rw [get?_eq_some_iff.2 hmem]
          rfl
      | none =>
          have hnone : key ∉ (overlay combine base top).keys := by
            rw [keys_overlay, List.mem_append, not_or]
            refine ⟨hfresh, fun hmem => ?_⟩
            exact get?_eq_none_iff.1 htop (List.mem_filter.1 hmem).1
          rw [get?_eq_none_iff.2 hnone]
          rfl

/-- Changing the upper dictionary changes what comes of both, provided the change does to a combined
value what it does to the upper one. -/
theorem overlay_update {key : Text} {f g : Option β → β}
    (hcombine : ∀ low high,
      Option.merge combine low (some (f high)) = some (g (Option.merge combine low high))) :
    overlay combine base (top.update key f) = (overlay combine base top).update key g := by
  apply ext_get?
  · -- the key comes last if both dictionaries lack it, and otherwise stays in its place
    rw [keys_update, keys_overlay, keys_overlay, keys_update]
    by_cases htop : key ∈ top.keys
    · by_cases hbase : key ∈ base.keys
      · simp [htop, hbase]
      · simp [htop, hbase]
    · by_cases hbase : key ∈ base.keys
      · simp [htop, hbase]
      · simp [htop, hbase]
  · intro other
    rw [get?_overlay]
    by_cases hkey : other = key
    · subst hkey
      rw [get?_update_self, get?_update_self, get?_overlay]
      exact hcombine _ _
    · rw [get?_update_of_ne _ _ hkey, get?_update_of_ne _ _ hkey, get?_overlay]

theorem overlay_empty : overlay combine base empty = base := by
  apply ext_get?
  · rw [keys_overlay]
    simp [keys, empty]
  · intro key
    rw [get?_overlay]
    simp [get?, empty]

theorem empty_overlay : overlay combine empty top = top := by
  apply ext_get?
  · rw [keys_overlay]
    simp [keys, empty]
  · intro key
    rw [get?_overlay]
    simp [get?, empty]

end Dict

namespace Ini

open Line

/-! ## Sections laid over sections -/

/-- Options laid over options: a key that is set in both has its new value. -/
def overlayOptions (base top : Options) : Options :=
  Dict.overlay (fun _ new => new) base top

/-- Sections laid over sections, option by option. -/
def overlay (base top : Sections) : Sections :=
  Dict.overlay overlayOptions base top

/-- A section may be opened before or after the base is put below. -/
theorem overlay_openSection (base top : Sections) (name : Text) :
    overlay base (openSection top name) = openSection (overlay base top) name := by
  apply Dict.overlay_update
  intro low high
  cases low with
  | none =>
      cases high with
      | none => rfl
      | some options => rfl
  | some old =>
      cases high with
      | none => exact congrArg some (Dict.overlay_empty _ old)
      | some options => rfl

theorem overlayOptions_set (base top : Options) (key value : Text) :
    overlayOptions base (top.set key value) = (overlayOptions base top).set key value := by
  apply Dict.overlay_update
  intro low high
  cases low with
  | none => rfl
  | some old => rfl

/-- An option may be set before or after the base is put below. -/
theorem overlay_setOption (base top : Sections) (name key value : Text) :
    overlay base (setOption top name key value) =
      setOption (overlay base top) name key value := by
  apply Dict.overlay_update
  intro low high
  cases low with
  | none =>
      cases high with
      | none => rfl
      | some options => rfl
  | some old =>
      cases high with
      | none =>
          -- the first option that the upper sections have for this name
          have hset : overlayOptions old (Dict.empty.set key value) = old.set key value := by
            rw [overlayOptions_set, overlayOptions, Dict.overlay_empty]
          exact congrArg some hset
      | some options => exact congrArg some (overlayOptions_set old options key value)

/-! ## Reading behind another file -/

/-- Reading goes on behind a first file as it starts without one, except that what is read is laid
over `base` and that `left` stays open until the first header. -/
theorem State.step_overlay {state next : State} {item : Item} (h : state.step item = .ok next)
    (base : Sections) (left : Option Text) :
    State.step ⟨overlay base state.sections, state.current.or left⟩ item =
      .ok ⟨overlay base next.sections, next.current.or left⟩ := by
  rcases State.step_cases h with ⟨rfl, rfl⟩ | ⟨name, rfl, rfl⟩ | ⟨name, key, value, rfl, hopen, rfl⟩
  · rfl
  · rw [overlay_openSection]
    rfl
  · -- above its first header the second file sets nothing, so a section of its own is open
    rw [overlay_setOption, hopen]
    rfl

/-- Reading lines over what was read before comes to the overlay of both, and the section that was
left open counts until the lines open one. -/
theorem State.run_overlay {number : Nat} {state final : State} {lines : List Text}
    (h : state.run number lines = .ok final) (base : Sections) (left : Option Text)
    (behind : Nat) :
    State.run behind ⟨overlay base state.sections, state.current.or left⟩ lines =
      .ok ⟨overlay base final.sections, final.current.or left⟩ := by
  -- both runs make the same steps; only the numbers of their lines are different
  induction lines generalizing number state behind with
  | nil =>
      cases h
      rfl
  | cons line rest ih =>
      rcases State.run_cons_eq_ok_iff.1 h with ⟨next, hstep, hrest⟩
      apply State.run_cons_eq_ok_iff.2
      exact ⟨_, State.step_overlay hstep base left, ih hrest (behind + 1)⟩

/-! ## Both files -/

/-- `both` is what comes of `base` when `top` is laid over it.  Sections and keys of `base` come
first, and no option of either is lost or gets into another section. -/
structure Overlaid (base top both : Sections) : Prop where
  sections : both.keys = base.keys ++ top.keys.filter fun name => !base.keys.contains name
  keys : ∀ name, (optionsOf both name).keys = (optionsOf base name).keys ++
    (optionsOf top name).keys.filter fun key => !(optionsOf base name).keys.contains key
  values : ∀ name key, (optionsOf both name).get? key =
    ((optionsOf top name).get? key).or ((optionsOf base name).get? key)

/-- Section by section the options are laid over one another. -/
theorem optionsOf_overlay (base top : Sections) (name : Text) :
    optionsOf (overlay base top) name =
      overlayOptions (optionsOf base name) (optionsOf top name) := by
  rw [optionsOf, overlay, Dict.get?_overlay, optionsOf, optionsOf]
  cases base.get? name with
  | none =>
      cases top.get? name with
      | none => exact (Dict.overlay_empty _ Dict.empty).symm
      | some new => exact (Dict.empty_overlay _ new).symm
  | some old =>
      cases top.get? name with
      | none => exact (Dict.overlay_empty _ old).symm
      | some new => rfl

/-- The overlay has the sections and keys of both files in their order, and loses none. -/
theorem overlaid_overlay (base top : Sections) : Overlaid base top (overlay base top) := by
  constructor
  · exact Dict.keys_overlay _ base top
  · intro name
    rw [optionsOf_overlay]
    exact Dict.keys_overlay _ _ _
  · intro name key
    -- where both files set the key, the value of the upper one is dropped
    rw [optionsOf_overlay, overlayOptions, Dict.get?_overlay]
    cases (optionsOf base name).get? key with
    | none =>
        cases (optionsOf top name).get? key with
        | none => rfl
        | some new => rfl
    | some old =>
        cases (optionsOf top name).get? key with
        | none => rfl
        | some new => rfl

/-- Two configuration files in a row, the first of which ends with a line feed, are read as the
sections of the second laid over those of the first. -/
theorem read_append {first second : Text} {base top : Sections} (hfirst : read first = .ok base)
    (hsecond : read second = .ok top) (hend : first = [] ∨ first.getLast? = some '\n') :
    read (first ++ second) = .ok (overlay base top) ∧
      Overlaid base top (overlay base top) := by
  refine ⟨?_, overlaid_overlay base top⟩
  have hsplit : split (first ++ second) = split first ++ split second := by
    rcases hend with rfl | hend
    · rfl
    · exact split_append second hend
  rcases read_eq_ok_iff.1 hfirst with ⟨upper, hupper, rfl⟩
  rcases read_eq_ok_iff.1 hsecond with ⟨lower, hlower, rfl⟩
  apply read_eq_ok_iff.2
  refine ⟨⟨overlay upper.sections lower.sections, lower.current.or upper.current⟩, ?_, rfl⟩
  have hrun := State.run_overlay hlower upper.sections upper.current
    (1 + ((split first).map (·.text)).length)
  rw [hsplit, List.map_append, State.run_append, hupper]
  -- the second file starts with no section of its own
  have hstart : overlay upper.sections ({} : State).sections = upper.sections :=
    Dict.overlay_empty _ _
  rw [hstart] at hrun
  exact hrun

def upperFile : Text :=
  "[default]\nindent_size = 2\nCD0401 = off\n[py]\nline_comment = #\n".toList

/-- A file that opens a section of `upperFile` again and sets a key of it in other letters. -/
def lowerFile : Text :=
  "; more\n[c]\nline_comment: //\n[default]\ncd0402 = off\ncd0401 = on".toList

/-- A section that the upper file leaves open goes on in the lower one. -/
theorem read_append_reopened :
    ∃ base top, read upperFile = .ok base ∧ read lowerFile = .ok top ∧
      read (upperFile ++ lowerFile) = .ok (overlay base top) ∧
      (overlay base top).keys = ["default".toList, "py".toList, "c".toList] ∧
      (optionsOf (overlay base top) "default".toList).entries =
        [("indent_size".toList, "2".toList), ("cd0401".toList, "on".toList),
          ("cd0402".toList, "off".toList)] := by
  -- both files are evaluated at once, and what matters about them is read off
  have hboth : ((read upperFile).toOption.bind fun base =>
      (read lowerFile).toOption.map fun top => ((overlay base top).keys,
        (optionsOf (overlay base top) "default".toList).entries)) =
      some (["default".toList, "py".toList, "c".toList],
        [("indent_size".toList, "2".toList), ("cd0401".toList, "on".toList),
          ("cd0402".toList, "off".toList)]) := by
    decide +kernel
  rcases Option.bind_eq_some_iff.1 hboth with ⟨base, hbase, hboth⟩
  rcases Option.map_eq_some_iff.1 hboth with ⟨top, htop, hboth⟩
  rcases Prod.mk.inj hboth with ⟨hkeys, hentries⟩
  have hfirst := toOption_eq_some_iff.1 hbase
  have hsecond := toOption_eq_some_iff.1 htop
  have hread := (read_append hfirst hsecond (Or.inr (by decide))).1
  exact ⟨base, top, hfirst, hsecond, hread, hkeys, hentries⟩

end Ini

end TextHygiene
