import LexGen.Text.Lines

/-!
# Texts that are put together

* `upTo_append`: cutting off the second of two texts leaves the first.
* `breakCount_append`, `lastLine_append`: counting line breaks piece by piece comes to the same as counting
  them at once, unless a piece ends within a break, between a carriage return and a line feed.
-/

namespace LexGen.Text

theorem upTo_append (kept back : Text) :
    upTo (kept ++ back) (((kept ++ back).length : Int) - (back.length : Int)) = kept := by
  have cut : ((kept ++ back).length : Int) - back.length = (kept.length : Int) := by
    rw [List.length_append]
    omega
  have position : position (kept ++ back).length (kept.length : Int) = kept.length := by
    rw [position, if_neg (by omega), List.length_append]
    omega
  rw [upTo, cut, position, List.take_left]

/-! ## Line breaks -/

def cutsBreak (left right : Text) : Bool :=
  left.getLast? == some '\r' && right.head? == some '\n'

theorem cutsBreak_cons (c : Char) {left right : Text} (whole : cutsBreak (c :: left) right = false) :
    cutsBreak left right = false := by
  cases left with
  | nil => rfl
  | cons d left => simpa [cutsBreak] using whole

theorem cutsBreak_take {left right : Text} (n : Nat) (whole : cutsBreak left right = false) :
    cutsBreak left (right.take n) = false := by
  cases n with
  | zero => simp [cutsBreak]
  | succ n => simpa [cutsBreak, List.head?_take] using whole

theorem betweenBreaks_ne_nil (text : Text) : betweenBreaks text ≠ [] := by
  fun_induction betweenBreaks text <;> simp_all

theorem betweenBreaks_of_cutsBreak {c : Char} {text : Text} (cut : cutsBreak [c] text = true) :
    betweenBreaks (c :: text) = betweenBreaks text := by
  obtain ⟨rfl, feed⟩ : c = '\r' ∧ text.head? = some '\n' := by simpa [cutsBreak] using cut
  obtain ⟨text, rfl⟩ := List.head?_eq_some_iff.1 feed
  cases lines : betweenBreaks text with
  | nil => exact absurd lines (betweenBreaks_ne_nil text)
  | cons line others => simp [betweenBreaks, lines, isCodeBreak]

theorem betweenBreaks_cons {c : Char} {text : Text} (whole : cutsBreak [c] text = false) :
    betweenBreaks (c :: text) =
      if isCodeBreak c then [] :: betweenBreaks text else (betweenBreaks text).modifyHead (c :: ·) := by
  rw [betweenBreaks]
  · cases lines : betweenBreaks text with
    | nil => exact absurd lines (betweenBreaks_ne_nil text)
    | cons line lines => rfl
  · rintro feed rfl rfl
    simp [cutsBreak] at whole

theorem betweenBreaks_append {left right : Text} (whole : cutsBreak left right = false) :
    ∃ lines last first others, betweenBreaks left = lines ++ [last] ∧ betweenBreaks right = first :: others ∧
      betweenBreaks (left ++ right) = lines ++ (last ++ first) :: others := by
  induction left with
  | nil =>
    obtain ⟨first, others, lines⟩ := List.exists_cons_of_ne_nil (betweenBreaks_ne_nil right)
    exact ⟨[], [], first, others, rfl, lines, lines⟩
  | cons c left ih =>
    obtain ⟨lines, last, first, others, before, after, both⟩ := ih (cutsBreak_cons c whole)
    have next : cutsBreak [c] (left ++ right) = cutsBreak [c] left := by
      cases left with
      | nil => simpa [cutsBreak] using whole
      | cons d left => rfl
    by_cases cut : cutsBreak [c] left = true
    · refine ⟨lines, last, first, others, ?_, after, ?_⟩
      · rw [betweenBreaks_of_cutsBreak cut, before]
      · rw [List.cons_append, betweenBreaks_of_cutsBreak (next.trans cut), both]
    · rw [Bool.not_eq_true] at cut
      rw [List.cons_append, betweenBreaks_cons cut, betweenBreaks_cons (next.trans cut), before, both]
      by_cases break? : isCodeBreak c = true
      · exact ⟨[] :: lines, last, first, others, by simp [break?], after, by simp [break?]⟩
      · cases lines with
        | nil => exact ⟨[], c :: last, first, others, by simp [break?], after, by simp [break?]⟩
        | cons line lines =>
          exact ⟨(c :: line) :: lines, last, first, others, by simp [break?], after, by simp [break?]⟩

theorem breakCount_append {left right : Text} (whole : cutsBreak left right = false) :
    breakCount (left ++ right) = breakCount left + breakCount right := by
  obtain ⟨lines, last, first, others, before, after, both⟩ := betweenBreaks_append whole
  simp [breakCount, before, after, both]

theorem betweenBreaks_eq_singleton {text line : Text} (h : betweenBreaks text = [line]) : line = text := by
  induction text generalizing line with
  | nil => exact (List.singleton_inj.1 h).symm
  | cons c text ih =>
    by_cases cut : cutsBreak [c] text = true
    · obtain ⟨rfl, feed⟩ : c = '\r' ∧ text.head? = some '\n' := by simpa [cutsBreak] using cut
      obtain ⟨text, rfl⟩ := List.head?_eq_some_iff.1 feed
      exact absurd (List.cons_eq_cons.1 h).2 (betweenBreaks_ne_nil text)
    · rw [Bool.not_eq_true] at cut
      rw [betweenBreaks_cons cut] at h
      split at h
      · exact absurd (List.cons_eq_cons.1 h).2 (betweenBreaks_ne_nil text)
      · cases lines : betweenBreaks text with
        | nil => exact absurd lines (betweenBreaks_ne_nil text)
        | cons first others =>
          rw [lines, List.modifyHead_cons] at h
          obtain ⟨rfl, rfl⟩ := List.cons_eq_cons.1 h
          rw [ih lines]

theorem lastLine_append {left right : Text} (whole : cutsBreak left right = false) :
    lastLine (left ++ right) = if breakCount right = 0 then lastLine left ++ right else lastLine right := by
  obtain ⟨lines, last, first, others, before, after, both⟩ := betweenBreaks_append whole
  rcases List.eq_nil_or_concat others with rfl | ⟨others, line, rfl⟩
  · obtain rfl := betweenBreaks_eq_singleton after
    simp [breakCount, lastLine, before, after, both]
  · have broken : breakCount right ≠ 0 := by simp [breakCount, after]
    rw [if_neg broken, lastLine, lastLine, both, after, List.concat_eq_append, ← List.cons_append,
      ← List.append_assoc, ← List.cons_append, List.getLastD_concat, List.getLastD_concat]

end LexGen.Text
