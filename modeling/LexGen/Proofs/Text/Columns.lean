import LexGen.Proofs.Text.Append
import Mathlib.Data.List.DropRight

/-!
# Columns and carriage returns

Where a text ends, counted in columns from the last line break, and what a count makes of it that takes only line
feeds for breaks.

* `breakCount_eq`: the line breaks of a text are its line feeds and the carriage returns without a line feed.
* `columns_eq`: counting every character but line feeds comes to the column in which a text ends and to the
  characters of the lines before.
-/

namespace LexGen.Text

/-! ## Line breaks, character by character -/

/-- A character is a break unless it is a carriage return with a line feed after it, which is the same break. -/
theorem breakCount_cons (c : Char) (text : Text) :
    breakCount (c :: text) = breakCount text + (isCodeBreak c && !cutsBreak [c] text).toNat := by
  cases cut : cutsBreak [c] text with
  | true => rw [breakCount, betweenBreaks_of_cutsBreak cut, ← breakCount, Bool.not_true, Bool.and_false]; rfl
  | false =>
    obtain ⟨line, others, lines⟩ := List.exists_cons_of_ne_nil (betweenBreaks_ne_nil text)
    rw [breakCount, breakCount, betweenBreaks_cons cut, lines]
    cases isCodeBreak c <;> rfl

def loneReturns : Text → Nat
  | [] => 0
  | c :: text => (c == '\r' && !cutsBreak [c] text).toNat + loneReturns text

theorem breakCount_eq (text : Text) : breakCount text = text.count '\n' + loneReturns text := by
  induction text with
  | nil => rfl
  | cons c text ih =>
    rw [breakCount_cons, loneReturns, List.count_cons, ih]
    by_cases feed : c = '\n'
    · subst feed
      simp [isCodeBreak, cutsBreak]
      omega
    · rw [isCodeBreak, beq_eq_false_iff_ne.2 feed, Bool.false_or, if_neg Bool.false_ne_true]
      omega

/-! ## The last line -/

theorem lastLine_eq_self {text : Text} (unbroken : breakCount text = 0) : lastLine text = text := by
  obtain ⟨line, others, lines⟩ := List.exists_cons_of_ne_nil (betweenBreaks_ne_nil text)
  obtain rfl : others = [] := by simpa [breakCount, lines] using unbroken
  rw [lastLine, lines]
  exact betweenBreaks_eq_singleton lines

theorem lastLine_cons {c : Char} {text : Text} (broken : breakCount (c :: text) ≠ 0) :
    lastLine (c :: text) = lastLine text := by
  cases cut : cutsBreak [c] text with
  | true => rw [lastLine, betweenBreaks_of_cutsBreak cut, ← lastLine]
  | false =>
    obtain ⟨line, others, lines⟩ := List.exists_cons_of_ne_nil (betweenBreaks_ne_nil text)
    rw [breakCount, betweenBreaks_cons cut, lines] at broken
    rw [lastLine, lastLine, betweenBreaks_cons cut, lines]
    split at broken
    · simp [*]
    · cases others with
      | nil => simp at broken
      | cons next others => simp [*]

theorem lastLine_append_of_broken (left : Text) {right : Text} (broken : breakCount right ≠ 0) :
    breakCount (left ++ right) ≠ 0 ∧ lastLine (left ++ right) = lastLine right := by
  induction left with
  | nil => exact ⟨broken, rfl⟩
  | cons c left ih =>
    have more : breakCount (c :: (left ++ right)) ≠ 0 := by
      rw [breakCount_cons]
      omega
    exact ⟨more, (lastLine_cons more).trans ih.2⟩

theorem exists_append_lastLine (text : Text) : ∃ earlier, text = earlier ++ lastLine text ∧ '\n' ∉ lastLine text := by
  induction text with
  | nil => exact ⟨[], rfl, by simp [lastLine, betweenBreaks]⟩
  | cons c text ih =>
    by_cases broken : breakCount (c :: text) = 0
    · refine ⟨[], (lastLine_eq_self broken).symm, ?_⟩
      rw [lastLine_eq_self broken, ← List.count_eq_zero]
      exact Nat.eq_zero_of_add_eq_zero_right ((breakCount_eq _).symm.trans broken)
    · obtain ⟨earlier, whole, unfed⟩ := ih
      rw [lastLine_cons broken]
      exact ⟨c :: earlier, by rw [List.cons_append, ← whole], unfed⟩

/-! ## Columns -/

def endColumn (first : Int) (text : Text) : Int :=
  (if breakCount text = 0 then first else 0) + (lastLine text).length

def unfedCount (text : Text) : Nat := text.countP (· != '\n')

theorem unfedCount_eq_length {text : Text} (unfed : '\n' ∉ text) : unfedCount text = text.length := by
  rw [unfedCount, List.countP_eq_length]
  intro c mem
  exact bne_iff_ne.2 fun feed => unfed (feed ▸ mem)

/-- By how much a column is too large in which line feeds are all that has been skipped: by the column in which the
text begins and the characters of its lines before the last one, if it has line breaks. -/
def overshoot (first : Int) (text : Text) : Int :=
  if breakCount text = 0 then 0 else first + unfedCount (text.rdrop (lastLine text).length)

theorem columns_eq (first : Int) (text : Text) :
    first + unfedCount text = endColumn first text + overshoot first text := by
  obtain ⟨earlier, whole, unfed⟩ := exists_append_lastLine text
  have line : breakCount text = 0 → lastLine text = text := lastLine_eq_self
  rw [endColumn, overshoot]
  generalize lastLine text = last at whole unfed line ⊢
  subst whole
  have count : unfedCount (earlier ++ last) = unfedCount earlier + last.length := by
    rw [unfedCount, List.countP_append, ← unfedCount, ← unfedCount, unfedCount_eq_length unfed]
  have front : (earlier ++ last).rdrop last.length = earlier := by
    rw [List.rdrop, List.length_append, Nat.add_sub_cancel, List.take_left]
  rw [count, front]
  split
  · rename_i unbroken
    obtain rfl : earlier = [] := List.self_eq_append_left.1 (line unbroken)
    simp [unfedCount]
  · omega

end LexGen.Text
