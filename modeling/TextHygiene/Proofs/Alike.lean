import TextHygiene.Proofs.Context

/-!
# What a rule looks at

A rule sees much of a file and makes little use of it.  Only the rule about over-indentation
compares a line that is not blank with its neighbour.  All others look at the line alone, unless it
is blank or lacks its line break.
-/

namespace TextHygiene

open Line

/-! ## What a rule looks at -/

/-- Two contexts that all rules but the one about over-indentation take for the same: they are about
the same line, and they differ in no neighbour and no count that matters for it.  Neighbours and
counts matter for blank lines, and for a line that is not terminated it matters if it is the
last. -/
structure Context.Alike (a b : Context) : Prop where
  line : a.line = b.line
  isLast : a.line.terminated = false → a.isLast = b.isLast
  isFirst : a.line.isBlank = true → (a.number == 1) = (b.number == 1)
  above : a.line.isBlank = true → a.above = b.above
  below : a.line.isBlank = true → a.below = b.below
  blankRun : a.line.isBlank = true → a.blankRun = b.blankRun
  startsTrailingBlanks :
    a.line.isBlank = true → a.startsTrailingBlanks = b.startsTrailingBlanks

/-- A rule about blank lines answers alike if it answers alike about a blank line. -/
theorem Check.report_and_congr {guard x y : Bool} (message : Text) (h : guard = true → x = y) :
    Check.report (guard && x) message = Check.report (guard && y) message := by
  cases guard with
  | false => rfl
  | true => rw [h rfl]

/-- Every rule says the same of contexts that are alike.  Only the rule about over-indentation needs
the line above to be the same. -/
theorem Context.Alike.check {a b : Context} (h : Alike a b) {rule : Rule}
    (habove : rule = .overIndentation → a.above = b.above) (settings : Settings) :
    rule.check settings a = rule.check settings b := by
  have hline : a.line = b.line := h.line
  cases rule with
  | overIndentation =>
      simp only [Rule.check, Check.overIndentation, ← hline, habove rfl]
  | excessiveBlankLines =>
      simp only [Rule.check, Check.excessiveBlankLines, ← hline]
      exact Check.report_and_congr _ fun hblank => by rw [h.blankRun hblank]
  | trailingBlankLines =>
      simp only [Rule.check, Check.trailingBlankLines, ← hline]
      exact Check.report_and_congr _ h.startsTrailingBlanks
  | missingFinalNewline =>
      simp only [Rule.check, Check.missingFinalNewline, ← hline, Bool.and_comm _ (!_)]
      exact Check.report_and_congr _ fun hopen => h.isLast (by simpa using hopen)
  | leadingBlankLines =>
      simp only [Rule.check, Check.leadingBlankLines, ← hline]
      exact Check.report_and_congr _ h.isFirst
  | blankLineAfterOpeningBracket =>
      simp only [Rule.check, Check.blankLineAfterOpeningBracket, ← hline]
      exact Check.report_and_congr _ fun hblank => by rw [h.above hblank]
  | blankLineBeforeClosingBracket =>
      simp only [Rule.check, Check.blankLineBeforeClosingBracket, ← hline]
      exact Check.report_and_congr _ fun hblank => by rw [h.below hblank]
  | blankLineAfterSectionHeader =>
      simp only [Rule.check, Check.blankLineAfterSectionHeader, ← hline, Bool.and_assoc]
      exact Check.report_and_congr _ fun hblank => by rw [h.above hblank, h.below hblank]
  | _ =>
      -- the other rules see the line alone
      simp only [Rule.check, ← hline]

/-- Every line of a file has a context. -/
theorem Context.exists_isAt {lines : List Line} {line : Line} (h : numbered? lines n = some line) :
    ∃ ctx, IsAt lines n ctx := by
  cases n with
  | zero => cases h
  | succ i =>
      have hbound : i + 1 ≤ lines.length := (bounds_of_numbered? h).2
      have hlt : i < (list lines).length := by
        rw [list, length_listFrom]
        exact hbound
      exact ⟨_, list_getElem?_eq_some_iff.1 (List.getElem?_eq_getElem hlt)⟩

/-- A rule objects to one of two lines exactly if it objects to the other, if they are the same and
it answers alike in their contexts. -/
theorem Context.exists_check_congr {a b : List Line} {rule : Rule} {settings : Settings}
    {message : Text} (hline : numbered? a n = numbered? b k)
    (hsame : ∀ c d, IsAt a n c → IsAt b k d → rule.check settings c = rule.check settings d) :
    (∃ ctx, IsAt a n ctx ∧ rule.check settings ctx = some message) ↔
      ∃ ctx, IsAt b k ctx ∧ rule.check settings ctx = some message := by
  constructor
  · rintro ⟨c, hc, hcheck⟩
    rcases exists_isAt (hline ▸ hc.line) with ⟨d, hd⟩
    exact ⟨d, hd, (hsame c d hc hd) ▸ hcheck⟩
  · rintro ⟨d, hd, hcheck⟩
    rcases exists_isAt (hline ▸ hd.line) with ⟨c, hc⟩
    exact ⟨c, hc, (hsame c d hc hd) ▸ hcheck⟩

end TextHygiene
