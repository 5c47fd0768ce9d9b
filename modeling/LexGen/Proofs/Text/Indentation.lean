import LexGen.Text.Lines

/-!
# Indented texts

Indenting puts spaces before every line that is not blank, also where a line begins inside a string literal.

* `exists_indent_feed`: what a line feed parts is indented separately.
* `length_indent_spaces`: spaces before a text stay before it.
* `mem_indent`: nothing else is put into a text.
-/

namespace LexGen.Text

/-! ## Lines -/

theorem linesBy_cons {isBreak : Char → Bool} {current text : Text} {c : Char} (noReturn : c ≠ '\r') :
    linesBy isBreak current (c :: text) =
      if isBreak c then (c :: current).reverse :: linesBy isBreak [] text else linesBy isBreak (c :: current) text := by
  rw [linesBy]
  rintro rest rfl
  exact absurd rfl noReturn

/-! ## Indentation piece by piece -/

theorem isBlank_append (left right : Text) : isBlank (left ++ right) = (isBlank left && isBlank right) :=
  List.all_append

theorem isBlank_spaces (n : Nat) : isBlank (spaces n) = true := by
  refine List.all_eq_true.2 fun c mem => ?_
  rw [List.eq_of_mem_replicate mem]
  decide

/-- A line after `lead`, unless it is blank. -/
def indentLine (lead line : Text) : Text := if isBlank line then line else lead ++ line

theorem indent_eq (lead text : Text) : indent lead text = ((textLines text).map (indentLine lead)).flatten := rfl

theorem exists_indentLine (lead line : Text) : ∃ front, indentLine lead (line ++ ['\n']) = front ++ ['\n'] := by
  unfold indentLine
  split
  · exact ⟨line, rfl⟩
  · exact ⟨lead ++ line, (List.append_assoc ..).symm⟩

theorem exists_indent_feed (lead text : Text) :
    ∃ front, ∀ rest, indent lead (text ++ '\n' :: rest) = front ++ '\n' :: indent lead rest := by
  have ended {current text : Text} (line : Text) (cut : ∀ rest, linesBy isLineBoundary current (text ++ '\n' :: rest) =
      (line ++ ['\n']) :: textLines rest) : ∃ front, ∀ rest,
      ((linesBy isLineBoundary current (text ++ '\n' :: rest)).map (indentLine lead)).flatten =
        front ++ '\n' :: indent lead rest := by
    obtain ⟨front, whole⟩ := exists_indentLine lead line
    exact ⟨front, fun rest => by rw [cut, List.map_cons, List.flatten_cons, whole, ← indent_eq]; simp⟩
  have lines (current : Text) : ∃ front, ∀ rest,
      ((linesBy isLineBoundary current (text ++ '\n' :: rest)).map (indentLine lead)).flatten =
        front ++ '\n' :: indent lead rest := by
    fun_induction linesBy isLineBoundary current text with
    | case1 current _ | case2 current _ =>
      refine ended current.reverse fun rest => ?_
      rw [List.nil_append, linesBy_cons (by decide), if_pos (by decide), List.reverse_cons]
      rfl
    | case3 current text ih =>
      obtain ⟨front, whole⟩ := ih
      refine ⟨indentLine lead ('\n' :: '\r' :: current).reverse ++ front, fun rest => ?_⟩
      rw [List.cons_append, List.cons_append, linesBy, List.map_cons, List.flatten_cons, whole, List.append_assoc]
    | case4 current c text other breaks ih =>
      by_cases returns : c = '\r' ∧ text = []
      · obtain ⟨rfl, rfl⟩ := returns
        refine ended ('\r' :: current).reverse fun rest => ?_
        rw [List.singleton_append, linesBy, List.reverse_cons]
        rfl
      · obtain ⟨front, whole⟩ := ih
        refine ⟨indentLine lead (c :: current).reverse ++ front, fun rest => ?_⟩
        rw [List.cons_append, linesBy, if_pos breaks, List.map_cons, List.flatten_cons, whole, List.append_assoc]
        intro rest' same feed
        cases text with
        | nil => exact returns ⟨same, rfl⟩
        | cons d text => exact other text same (congrArg (· :: text) (List.cons.inj feed).1)
    | case5 current c text other goesOn ih =>
      have noReturn : c ≠ '\r' := by
        rintro rfl
        exact goesOn (by decide)
      obtain ⟨front, whole⟩ := ih
      exact ⟨front, fun rest => by rw [List.cons_append, linesBy_cons noReturn, if_neg goesOn, whole]⟩
  exact lines []

theorem linesBy_begun (isBreak : Char → Bool) (current : Text) {text : Text} (more : text ≠ []) :
    linesBy isBreak current text = (linesBy isBreak [] text).modifyHead (current.reverse ++ ·) := by
  induction text generalizing current with
  | nil => exact absurd rfl more
  | cons c text ih =>
    by_cases pair : c = '\r' ∧ text.head? = some '\n'
    · obtain ⟨rfl, feed⟩ := pair
      obtain ⟨rest, rfl⟩ := List.head?_eq_some_iff.1 feed
      simp [linesBy]
    · have single (current : Text) : linesBy isBreak current (c :: text) =
          if isBreak c then (c :: current).reverse :: linesBy isBreak [] text
          else linesBy isBreak (c :: current) text := by
        rw [linesBy]
        rintro rest rfl rfl
        exact pair ⟨rfl, rfl⟩
      rw [single, single]
      split
      · simp
      · by_cases last : text = []
        · simp [last, linesBy]
        · rw [ih (c :: current) last, ih [c] last, List.modifyHead_modifyHead]
          simp [Function.comp_def]

theorem linesBy_spaces (n : Nat) (current text : Text) :
    linesBy isLineBoundary current (spaces n ++ text) = linesBy isLineBoundary (spaces n ++ current) text := by
  induction n generalizing current with
  | zero => rfl
  | succ n ih =>
    have longer : spaces n ++ ' ' :: current = spaces (n + 1) ++ current := by
      rw [spaces, spaces, List.replicate_succ', List.append_assoc, List.singleton_append]
    rw [← longer, ← ih, spaces, List.replicate_succ, List.cons_append, linesBy_cons (by decide), if_neg (by decide)]
    rfl

theorem length_indent_spaces (lead : Text) (n : Nat) {text : Text} (more : text ≠ []) :
    (indent lead (spaces n ++ text)).length = n + (indent lead text).length := by
  have lines : textLines (spaces n ++ text) = (textLines text).modifyHead (spaces n ++ ·) := by
    rw [textLines, linesBy_spaces, List.append_nil, linesBy_begun _ _ more, spaces, List.reverse_replicate]
    rfl
  have nonempty : textLines text ≠ [] := by
    intro none
    have whole : (textLines text).flatten = text := linesBy_flatten isLineBoundary [] text
    rw [none] at whole
    exact more whole.symm
  obtain ⟨first, others, cut⟩ := List.exists_cons_of_ne_nil nonempty
  have spaced : (indentLine lead (spaces n ++ first)).length = n + (indentLine lead first).length := by
    rw [indentLine, indentLine, isBlank_append, isBlank_spaces, Bool.true_and]
    split <;> simp only [List.length_append, spaces, List.length_replicate]
    omega
  rw [indent_eq, indent_eq, lines, cut]
  simp [spaced, Nat.add_assoc]

theorem mem_indent {lead text : Text} {c : Char} (mem : c ∈ indent lead text) : c ∈ lead ∨ c ∈ text := by
  obtain ⟨indented, indentedMem, mem⟩ := List.mem_flatten.1 mem
  obtain ⟨line, lineMem, rfl⟩ := List.mem_map.1 indentedMem
  have inText : c ∈ line → c ∈ text := fun mem => by
    have whole : (textLines text).flatten = text := linesBy_flatten isLineBoundary [] text
    exact whole ▸ List.mem_flatten.2 ⟨line, lineMem, mem⟩
  split at mem
  · exact .inr (inText mem)
  · exact (List.mem_append.1 mem).imp_right inText

end LexGen.Text
