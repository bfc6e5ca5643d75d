import Mathlib.Order.Monotone.Basic
import TextHygiene.Proofs.Grammar
import TextHygiene.Proofs.Reading
import TextHygiene.Proofs.Splitting
import TextHygiene.Proofs.Trimming

/-!
# The layout of configuration files

Blank lines, comments, white space at the ends of lines, the style of line breaks and a line break
at the end of a file make no difference to what is read.  Reading goes by the rows of a text, which
are what stands between its line feeds without the white space around it: a change of layout puts a
row that is passed over among them, or changes such a row at the end, and leaves the others as they
are.  If a text cannot be read, neither can it after a change of layout, for the same reason and
because of the same line, wherever that line has moved.
-/

namespace TextHygiene

/-- Any text is a piece without line feeds, or such a piece, a line feed and a shorter text. -/
@[elab_as_elim]
theorem Text.lineInduction {motive : Text → Prop} (last : ∀ piece, '\n' ∉ piece → motive piece)
    (line : ∀ piece rest, '\n' ∉ piece → motive rest → motive (piece ++ '\n' :: rest))
    (t : Text) : motive t := by
  by_cases hmem : '\n' ∈ t
  · rcases List.eq_append_cons_of_mem hmem with ⟨piece, rest, heq, hpiece⟩
    rw [heq]
    exact line piece rest hpiece (lineInduction last line rest)
  · exact last t hmem
termination_by t.length
decreasing_by
  rw [heq, List.length_append, List.length_cons]
  omega

namespace Ini

open Line

/-! ## Changes of layout -/

/-- Text that stops where a line starts. -/
inductive AtLineStart : Text → Prop
  | start : AtLineStart []
  | lineFeed (front : Text) : AtLineStart (front ++ ['\n'])

/-- Text that starts where a line stops: at the end of the file, or with a line break. -/
inductive AtLineEnd : Text → Prop
  | stop : AtLineEnd []
  | lineFeed (rest : Text) : AtLineEnd ('\n' :: rest)
  | carriageReturn (rest : Text) : AtLineEnd ('\r' :: '\n' :: rest)

def IsSpacing (blanks : Text) : Prop :=
  ∀ c ∈ blanks, isBlank c = true ∧ c ≠ '\n'

/-- Where line `n` goes when a line is put in below the first `above` lines. -/
def movedBelow (above n : Nat) : Nat :=
  if n ≤ above then n else n + 1

/-- One change of layout, with the number that each line gets. -/
inductive Edit : Text → Text → (Nat → Nat) → Prop
  /-- A blank line or a comment is put in front of a line, or behind all lines. -/
  | insertLine {before : Text} (line after : Text) :
      AtLineStart before → '\n' ∉ line → IsIgnorable (Text.trim line) →
      Edit (before ++ after) (before ++ line ++ '\n' :: after) (movedBelow (before.count '\n'))
  /-- A blank line or a comment without a line break is put behind all lines.  If the last of them
  has no line break either, that is put there first. -/
  | insertLastLine {before : Text} (line : Text) :
      AtLineStart before → '\n' ∉ line → IsIgnorable (Text.trim line) →
      Edit before (before ++ line) id
  /-- White space is put in front of a line. -/
  | spaceInFront {before : Text} (blanks after : Text) : AtLineStart before → IsSpacing blanks →
      Edit (before ++ after) (before ++ blanks ++ after) id
  /-- White space is put behind a line. -/
  | spaceBehind {after : Text} (before blanks : Text) : AtLineEnd after → IsSpacing blanks →
      Edit (before ++ after) (before ++ blanks ++ after) id
  /-- A line feed gets a carriage return. -/
  | carriageReturn (before after : Text) :
      Edit (before ++ '\n' :: after) (before ++ '\r' :: '\n' :: after) id
  /-- A line feed is put at the end of the text. -/
  | finalLineFeed (t : Text) : Edit t (t ++ ['\n']) id

/-- Changes of layout one after the other. -/
inductive Edits : Text → Text → (Nat → Nat) → Prop
  | refl (t : Text) : Edits t t id
  | step {t u v : Text} {moved move : Nat → Nat} :
      Edits t u moved → Edit u v move → Edits t v (move ∘ moved)

variable {t u v before after blanks line : Text} {lines : List Text} {move moved : Nat → Nat}

/-! ## Rows -/

/-- What stands between the line feeds of a text, without the white space around it.  Behind a final
line feed there is one more row, which is empty. -/
def rows (t : Text) : List Text :=
  (t.splitOn '\n').map Text.trim

theorem rows_of_not_mem (h : '\n' ∉ t) : rows t = [Text.trim t] := by
  rw [rows, List.splitOn_eq_singleton h, List.map_singleton]

/-- A line feed parts the rows in front of it from those behind it. -/
theorem rows_append_lineFeed (first second : Text) :
    rows (first ++ '\n' :: second) = rows first ++ rows second := by
  rw [rows, List.splitOn_append_cons_self, List.map_append, rows, rows]

/-- There is one row more than there are line feeds. -/
theorem length_rows (t : Text) : (rows t).length = t.count '\n' + 1 := by
  induction t using Text.lineInduction with
  | last piece hpiece => rw [rows_of_not_mem hpiece, List.count_eq_zero.2 hpiece]; rfl
  | line piece rest hpiece ih =>
      rw [rows_append_lineFeed, rows_of_not_mem hpiece, List.singleton_append, List.length_cons, ih,
        List.count_append, List.count_eq_zero.2 hpiece, List.count_cons_self, Nat.zero_add]

/-- The lines of a text are its rows, but for an empty row behind the last line feed. -/
theorem rows_eq (t : Text) :
    ∃ extra, rows t = (split t).map (Text.trim ·.text) ++ extra ∧ ∀ row ∈ extra, row = [] := by
  induction t using Text.lineInduction with
  | last piece hpiece =>
      rw [rows_of_not_mem hpiece]
      cases piece with
      | nil => exact ⟨[[]], rfl, fun row hrow => List.mem_singleton.1 hrow⟩
      | cons c rest =>
          refine ⟨[], ?_, nofun⟩
          rw [split_of_not_mem (List.cons_ne_nil c rest) hpiece]
          rfl
  | line piece rest hpiece ih =>
      rcases ih with ⟨extra, heq, hextra⟩
      -- the first line is done at its line feed, with or without a carriage return
      have hfirst : split (piece ++ ['\n']) = [dropReturn ⟨piece, true⟩] := by
        rw [split, cutAtLineFeeds_concat hpiece]
        rfl
      refine ⟨extra, ?_, hextra⟩
      rw [rows_append_lineFeed, rows_of_not_mem hpiece, heq, split_append_lineFeed, hfirst,
        List.singleton_append, List.singleton_append, List.map_cons, Text.trim_dropReturn,
        List.cons_append]

/-- A row that is not empty is that of a line. -/
theorem getElem?_rows_iff {row : Text} {place : Nat} (hrow : row ≠ []) :
    (rows t)[place]? = some row ↔
      ∃ line, numbered? (split t) (place + 1) = some line ∧ Text.trim line.text = row := by
  rcases rows_eq t with ⟨extra, heq, hextra⟩
  have hline : ((split t).map (Text.trim ·.text))[place]? = some row ↔
      ∃ line, numbered? (split t) (place + 1) = some line ∧ Text.trim line.text = row := by
    rw [List.getElem?_map, Option.map_eq_some_iff, numbered?_succ]
  rw [← hline, heq, List.getElem?_append]
  split
  · rfl
  · -- behind the lines there are empty rows only
    next hout =>
      refine iff_of_false (fun hsome => ?_) (fun hsome => ?_)
      · exact hrow (hextra row (List.mem_of_getElem? hsome))
      · exact hout (List.getElem?_eq_some_iff.1 hsome).1

/-! ## Rows that are passed over -/

/-- The second list of rows comes from the first by a change in rows that are passed over: at the
end, or by one that is put in. -/
inductive Respaced : List Text → List Text → (Nat → Nat) → Prop
  | atEnd {old new : List Text} (done : List Text) : (∀ row ∈ old, Item.ofLine row = .ignored) →
      (∀ row ∈ new, Item.ofLine row = .ignored) → Respaced (done ++ old) (done ++ new) id
  | between {row : Text} (done rest : List Text) : Item.ofLine row = .ignored →
      Respaced (done ++ rest) (done ++ row :: rest) (movedBelow done.length)

theorem Respaced.refl (lines : List Text) : Respaced lines lines id := by
  have hnone : ∀ row ∈ ([] : List Text), Item.ofLine row = .ignored := nofun
  simpa using Respaced.atEnd lines hnone hnone

theorem ofLine_trim_of_isIgnorable (h : IsIgnorable (Text.trim line)) :
    Item.ofLine (Text.trim line) = .ignored := by
  rw [Item.ofLine, Text.trim_trim]
  cases htrim : Text.trim line with
  | nil => rfl
  | cons c rest =>
      rw [htrim] at h
      have hcomment : (c == '#' || c == ';') = true := by simpa [IsIgnorable] using h
      rw [Item.ofTrimmed, if_pos hcomment]

/-- Where a line starts, new rows start. -/
theorem AtLineStart.rows_append (h : AtLineStart before) :
    ∃ done, done.length = before.count '\n' ∧
      ∀ after, rows (before ++ after) = done ++ rows after := by
  cases h with
  | start => exact ⟨[], rfl, fun _ => rfl⟩
  | lineFeed front =>
      refine ⟨rows front, ?_, fun after => ?_⟩
      · rw [length_rows, List.count_append, List.count_singleton_self]
      · rw [List.append_assoc, List.singleton_append, rows_append_lineFeed]

theorem exists_atLineStart_append (t : Text) :
    ∃ first last, t = first ++ last ∧ '\n' ∉ last ∧ AtLineStart first := by
  rcases exists_eq_append_last t with ⟨first, last, heq, hlast, rfl | hend⟩
  · exact ⟨[], last, heq, hlast, .start⟩
  · rcases List.getLast?_eq_some_iff.1 hend with ⟨front, rfl⟩
    exact ⟨front ++ ['\n'], last, heq, hlast, .lineFeed front⟩

theorem IsSpacing.isBlank (h : IsSpacing blanks) : ∀ c ∈ blanks, isBlank c = true :=
  fun c hc => (h c hc).1

theorem IsSpacing.lineFeed_not_mem (h : IsSpacing blanks) : '\n' ∉ blanks :=
  fun hmem => (h _ hmem).2 rfl

/-- White space in front of a line changes no row. -/
theorem rows_append_of_isSpacing (h : IsSpacing blanks) (after : Text) :
    rows (blanks ++ after) = rows after := by
  induction after using Text.lineInduction with
  | last piece hpiece =>
      have hnone : '\n' ∉ blanks ++ piece := by simp [h.lineFeed_not_mem, hpiece]
      rw [rows_of_not_mem hpiece, rows_of_not_mem hnone, Text.trim_append_left h.isBlank]
  | line piece rest hpiece _ =>
      have hnone : '\n' ∉ blanks ++ piece := by simp [h.lineFeed_not_mem, hpiece]
      rw [← List.append_assoc, rows_append_lineFeed, rows_append_lineFeed, rows_of_not_mem hpiece,
        rows_of_not_mem hnone, Text.trim_append_left h.isBlank]

/-- White space at the end of a line leaves its row as it is. -/
theorem AtLineEnd.rows_append (h : AtLineEnd after) (hblanks : IsSpacing blanks)
    (hline : '\n' ∉ line) : rows (line ++ blanks ++ after) = rows (line ++ after) := by
  have hnone : '\n' ∉ line ++ blanks := by simp [hblanks.lineFeed_not_mem, hline]
  cases h with
  | stop =>
      rw [List.append_nil, List.append_nil, rows_of_not_mem hline, rows_of_not_mem hnone,
        Text.trim_append_right hblanks.isBlank]
  | lineFeed rest =>
      rw [rows_append_lineFeed, rows_append_lineFeed, rows_of_not_mem hline, rows_of_not_mem hnone,
        Text.trim_append_right hblanks.isBlank]
  | carriageReturn rest =>
      -- the carriage return is white space itself, and goes with what stands in front
      have hparted : ∀ t : Text, '\n' ∉ t →
          rows (t ++ '\r' :: '\n' :: rest) = Text.trim t :: rows rest := by
        intro t ht
        have hnone : '\n' ∉ t ++ ['\r'] := by simp [ht]
        rw [List.append_cons, rows_append_lineFeed, rows_of_not_mem hnone,
          Text.trim_append_right Text.isBlank_of_mem_return, List.singleton_append]
      rw [hparted _ hnone, hparted _ hline, Text.trim_append_right hblanks.isBlank]

/-- White space behind a line changes no row. -/
theorem rows_spaceBehind (before : Text) (h : AtLineEnd after) (hblanks : IsSpacing blanks) :
    rows (before ++ blanks ++ after) = rows (before ++ after) := by
  -- only the line that the white space is put behind has a part in it
  rcases exists_atLineStart_append before with ⟨first, last, rfl, hlast, hfirst⟩
  rcases hfirst.rows_append with ⟨done, _, hdone⟩
  rw [List.append_assoc, List.append_assoc, List.append_assoc, hdone, hdone, ← List.append_assoc,
    h.rows_append hblanks hlast]

/-- A change of layout changes rows that are passed over and no other. -/
theorem Edit.respaced (h : Edit t u move) : Respaced (rows t) (rows u) move := by
  cases h with
  | insertLine line after hbefore hline hignorable =>
      rcases hbefore.rows_append with ⟨done, hlength, hdone⟩
      rw [List.append_assoc, hdone, hdone, rows_append_lineFeed, rows_of_not_mem hline, ← hlength]
      exact .between done (rows after) (ofLine_trim_of_isIgnorable hignorable)
  | insertLastLine line hbefore hline hignorable =>
      -- the empty row behind the last line feed makes room for the new line
      rcases hbefore.rows_append with ⟨done, _, hdone⟩
      have hrows := hdone []
      rw [List.append_nil] at hrows
      rw [hrows, hdone, rows_of_not_mem hline]
      refine .atEnd done (fun row hrow => ?_) (fun row hrow => ?_)
      · rw [List.mem_singleton.1 hrow]
        rfl
      · rw [List.mem_singleton.1 hrow]
        exact ofLine_trim_of_isIgnorable hignorable
  | spaceInFront blanks after hbefore hblanks =>
      rcases hbefore.rows_append with ⟨done, _, hdone⟩
      rw [List.append_assoc, hdone, hdone, rows_append_of_isSpacing hblanks]
      exact .refl _
  | spaceBehind before blanks hafter hblanks =>
      rw [rows_spaceBehind before hafter hblanks]
      exact .refl _
  | carriageReturn before after =>
      have hreturn : IsSpacing ['\r'] := Text.forall_mem_of_all (by decide)
      rw [List.append_cons before '\r', rows_spaceBehind before (.lineFeed after) hreturn]
      exact .refl _
  | finalLineFeed t =>
      have hnone : ∀ row ∈ ([] : List Text), Item.ofLine row = .ignored := nofun
      have hempty : ∀ row ∈ rows [], Item.ofLine row = .ignored := by
        intro row hrow
        rw [List.mem_singleton.1 hrow]
        rfl
      have hend := Respaced.atEnd (rows t) hnone hempty
      rwa [List.append_nil, ← rows_append_lineFeed] at hend

/-! ## Reading rows -/

/-- The same fault, at the line that has moved. -/
def SyntaxError.relocated (move : Nat → Nat) (error : SyntaxError) : SyntaxError :=
  ⟨move error.line, error.fault⟩

theorem mapError_relocated_id {α : Type} (x : Except SyntaxError α) :
    x.mapError (SyntaxError.relocated id) = x := by
  cases x with
  | error error => rfl
  | ok a => rfl

theorem mapError_relocated_comp {α : Type} (x : Except SyntaxError α) (first second : Nat → Nat) :
    (x.mapError (SyntaxError.relocated first)).mapError (SyntaxError.relocated second) =
      x.mapError (SyntaxError.relocated (second ∘ first)) := by
  cases x with
  | error error => rfl
  | ok a => rfl

/-- Rows that are passed over leave the reader as it is. -/
theorem State.run_ignored {number : Nat} {state : State}
    (h : ∀ row ∈ lines, Item.ofLine row = .ignored) : state.run number lines = .ok state := by
  induction lines generalizing number with
  | nil => rfl
  | cons row rest ih =>
      rcases List.forall_mem_cons.1 h with ⟨hrow, hrest⟩
      rw [State.run, hrow]
      exact ih hrest

theorem State.run_append_ignored {number : Nat} {state : State} (done : List Text)
    (h : ∀ row ∈ lines, Item.ofLine row = .ignored) :
    state.run number (done ++ lines) = state.run number done := by
  rw [run_append]
  cases state.run number done with
  | error error => rfl
  | ok next => exact run_ignored h

/-- A reader that starts one line later reports its faults one line later. -/
theorem State.run_succ (number : Nat) (state : State) (lines : List Text) :
    state.run (number + 1) lines =
      (state.run number lines).mapError (SyntaxError.relocated (· + 1)) := by
  induction lines generalizing number state with
  | nil => rfl
  | cons row rest ih =>
      rw [State.run, State.run]
      cases state.step (Item.ofLine row) with
      | error fault => rfl
      | ok next => exact ih (number + 1) next

/-- A row that is passed over only moves the rows below, here numbered from `above + 1`. -/
theorem State.run_between {row : Text} (hrow : Item.ofLine row = .ignored) (above : Nat)
    (state : State) (done rest : List Text) :
    state.run (above + 1) (done ++ row :: rest) =
      (state.run (above + 1) (done ++ rest)).mapError
        (SyntaxError.relocated (movedBelow (above + done.length))) := by
  induction done generalizing above state with
  | nil =>
      -- the new row takes the number of the first row below
      have hskip : state.run (above + 1) (row :: rest) = state.run (above + 1 + 1) rest := by
        rw [State.run, hrow]
        rfl
      rw [List.nil_append, List.nil_append, hskip, run_succ]
      -- an error is in a row below the new one
      cases hrun : state.run (above + 1) rest with
      | ok final => rfl
      | error error =>
          have hbelow : ¬ error.line ≤ above := Nat.not_le.2 (le_of_run_error hrun)
          have hmove : movedBelow (above + ([] : List Text).length) error.line = error.line + 1 :=
            if_neg hbelow
          rw [Except.mapError, Except.mapError, SyntaxError.relocated, SyntaxError.relocated, hmove]
  | cons first done ih =>
      rw [List.cons_append, List.cons_append, State.run, State.run]
      cases state.step (Item.ofLine first) with
      | error fault =>
          have hmove : movedBelow (above + (first :: done).length) (above + 1) = above + 1 :=
            if_pos (by rw [List.length_cons]; omega)
          rw [Except.mapError, SyntaxError.relocated, hmove]
      | ok next =>
          have hlength : above + (first :: done).length = above + 1 + done.length := by
            rw [List.length_cons]
            omega
          rw [hlength]
          exact ih (above + 1) next

/-- Rows with such a change are read alike, and faults move with their lines. -/
theorem Respaced.run {old new : List Text} (h : Respaced old new move) (state : State) :
    state.run 1 new = (state.run 1 old).mapError (SyntaxError.relocated move) := by
  cases h with
  | atEnd done hold hnew =>
      rw [State.run_append_ignored done hold, State.run_append_ignored done hnew,
        mapError_relocated_id]
  | between done rest hrow =>
      have hrun := State.run_between hrow 0 state done rest
      rwa [Nat.zero_add, Nat.zero_add] at hrun

/-- A row that is not passed over is found where it has moved. -/
theorem Respaced.getElem? {old new : List Text} (h : Respaced old new move) {place : Nat}
    {row : Text} (hold : old[place]? = some row) (hrow : Item.ofLine row ≠ .ignored) :
    ∃ place', move (place + 1) = place' + 1 ∧ new[place']? = some row := by
  cases h with
  | atEnd done hend _ =>
      refine ⟨place, rfl, ?_⟩
      rw [List.getElem?_append] at hold
      split at hold
      · next hplace => rw [List.getElem?_append_left hplace, hold]
      · exact absurd (hend row (List.mem_of_getElem? hold)) hrow
  | between done rest _ =>
      -- the row keeps its place above the new one, and moves down by one below
      rw [movedBelow]
      rw [List.getElem?_append] at hold
      split at hold
      · next hplace =>
          refine ⟨place, if_pos hplace, ?_⟩
          rw [List.getElem?_append_left hplace, hold]
      · next hplace =>
          refine ⟨place + 1, if_neg (by omega), ?_⟩
          rw [List.getElem?_append_right (by omega), Nat.sub_add_comm (by omega),
            List.getElem?_cons_succ, hold]

/-- Reading the rows of a text is reading its lines. -/
theorem run_rows (t : Text) (state : State) :
    state.run 1 (rows t) = state.run 1 ((split t).map (·.text)) := by
  rcases rows_eq t with ⟨extra, heq, hextra⟩
  have hignored : ∀ row ∈ extra, Item.ofLine row = .ignored := by
    intro row hrow
    rw [hextra row hrow]
    rfl
  have htrimmed : (split t).map (Text.trim ·.text) = ((split t).map (·.text)).map Text.trim := by
    rw [List.map_map]
    rfl
  rw [heq, State.run_append_ignored _ hignored, htrimmed, State.run_map Text.trim_trim]

/-! ## Reading texts -/

/-- Two texts are read alike, where `moved` is where each line of the first goes in the second. -/
structure ReadAlike (t u : Text) (moved : Nat → Nat) : Prop where
  /-- Both give the same sections in the same order, or both have the same fault, the second in the
  line that the line of the first has moved to. -/
  read : read u = (read t).mapError (SyntaxError.relocated moved)
  /-- Lines keep their order. -/
  strictMono : StrictMono moved
  /-- A line that is not passed over is found where it has moved, blanks around it aside. -/
  line : ∀ n line, numbered? (split t) n = some line → Item.ofLine line.text ≠ .ignored →
    ∃ line', numbered? (split u) (moved n) = some line' ∧
      Text.trim line'.text = Text.trim line.text

theorem ReadAlike.refl (t : Text) : ReadAlike t t id where
  read := (mapError_relocated_id (Ini.read t)).symm
  strictMono := strictMono_id
  line := fun _ line hline _ => ⟨line, hline, rfl⟩

/-- Changes that are made one after the other move lines one after the other. -/
theorem ReadAlike.trans (h : ReadAlike t u moved) (h' : ReadAlike u v move) :
    ReadAlike t v (move ∘ moved) := by
  refine ⟨?_, h'.strictMono.comp h.strictMono, ?_⟩
  · rw [h'.read, h.read, mapError_relocated_comp]
  · intro n line hline hitem
    rcases h.line n line hline hitem with ⟨middle, hmiddle, htrim⟩
    have hsame : Item.ofLine middle.text = Item.ofLine line.text := congrArg Item.ofTrimmed htrim
    rcases h'.line (moved n) middle hmiddle (hsame ▸ hitem) with ⟨line', hline', htrim'⟩
    exact ⟨line', hline', htrim'.trans htrim⟩

theorem strictMono_movedBelow (above : Nat) : StrictMono (movedBelow above) := by
  intro m n h
  simp only [movedBelow]
  split <;> split <;> omega

/-- No change of layout swaps two lines. -/
theorem Edit.strictMono (h : Edit t u move) : StrictMono move := by
  cases h with
  | insertLine => exact strictMono_movedBelow _
  | _ => exact strictMono_id

/-- A text is read alike after one change of layout. -/
theorem Edit.readAlike (h : Edit t u move) : ReadAlike t u move := by
  refine ⟨?_, h.strictMono, ?_⟩
  · rw [Ini.read, Ini.read, ← run_rows, ← run_rows, h.respaced.run]
    cases State.run 1 {} (rows t) with
    | error error => rfl
    | ok final => rfl
  · intro n line hline hitem
    -- the line is not blank, so it can be found by its row
    have hne : Text.trim line.text ≠ [] := by
      intro hnil
      rw [Item.ofLine, hnil] at hitem
      exact hitem rfl
    cases n with
    | zero => cases hline
    | succ place =>
        have hrow := (getElem?_rows_iff hne).2 ⟨line, hline, rfl⟩
        have hkept : Item.ofLine (Text.trim line.text) ≠ .ignored := by
          rwa [Item.ofLine, Text.trim_trim]
        rcases h.respaced.getElem? hrow hkept with ⟨place', hplace, hrow'⟩
        rw [hplace]
        exact (getElem?_rows_iff hne).1 hrow'

/-- Changes of layout do not matter, however many there are: a text gives the same sections in the
same order, or fails because of the same line for the same reason. -/
theorem readAlike_of_edits (h : Edits t u moved) : ReadAlike t u moved := by
  induction h with
  | refl => exact .refl t
  | step _ hlast ih => exact ih.trans hlast.readAlike

/-- A file that cannot be read, since the header in its last line is not closed. -/
def crowded : Text :=
  "[s]\n[".toList

/-- The same file with comments in front and behind, white space at both lines, a carriage return in
the first line break, and a second line break. -/
def spread : Text :=
  ";\n\u3000[s]\r\n[\t\n#".toList

/-- The second file comes from the first by changes of all four kinds. -/
theorem edits_spread : Edits crowded spread (movedBelow 0) := by
  have hcomment : Edit crowded ";\n[s]\n[".toList (movedBelow 0) :=
    .insertLine [';'] crowded .start (by decide) (Or.inr (Or.inr (by decide)))
  have hfront : Edit ";\n[s]\n[".toList ";\n\u3000[s]\n[".toList id :=
    .spaceInFront ['\u3000'] crowded (.lineFeed [';']) (Text.forall_mem_of_all (by decide))
  have hreturn : Edit ";\n\u3000[s]\n[".toList ";\n\u3000[s]\r\n[".toList id :=
    .carriageReturn ";\n\u3000[s]".toList ['[']
  have hbehind : Edit ";\n\u3000[s]\r\n[".toList ";\n\u3000[s]\r\n[\t".toList id :=
    .spaceBehind ";\n\u3000[s]\r\n[".toList ['\t'] .stop (Text.forall_mem_of_all (by decide))
  have hfinal : Edit ";\n\u3000[s]\r\n[\t".toList ";\n\u3000[s]\r\n[\t\n".toList id :=
    .finalLineFeed _
  have hlast : Edit ";\n\u3000[s]\r\n[\t\n".toList spread id :=
    .insertLastLine ['#'] (.lineFeed ";\n\u3000[s]\r\n[\t".toList) (by decide)
      (Or.inr (Or.inl (by decide)))
  exact ((((((Edits.refl crowded).step hcomment).step hfront).step hreturn).step hbehind).step
    hfinal).step hlast

/-- The fault of the file moves one line down. -/
theorem readAlike_of_edits_spread :
    Edits crowded spread (movedBelow 0) ∧ read crowded = .error ⟨2, .badHeader⟩ ∧
      read spread = .error ⟨3, .badHeader⟩ := by
  have hfault : (read crowded).map (fun _ => ()) = .error ⟨2, .badHeader⟩ := by
    decide +kernel
  have hcrowded : read crowded = .error ⟨2, .badHeader⟩ := map_eq_error_iff.1 hfault
  refine ⟨edits_spread, hcrowded, ?_⟩
  rw [(readAlike_of_edits edits_spread).read, hcrowded]
  rfl

end Ini

end TextHygiene
