import LexGen.Proofs.Text.Feeds
import LexGen.Proofs.Text.Indentation
import Mathlib.Data.List.DropRight
import Mathlib.Data.List.Forall2
import Mathlib.Data.List.TakeWhile

/-!
# Lines moved to the right

A block of code means the same wherever its lines begin, as long as they are moved together. Removing the indentation
that all lines have in common takes such a move back; trimming does not, since it only takes back that of the
first line.

* `Shifted`, `movedRight`: a block with its lines moved to the right.
* `dedent_shifted`: the common indentation takes the move with it.
* `trim_shifted`: what trimming leaves of the move.
-/

namespace LexGen.Text

/-- A line that has been moved to the right. A line without anything in it may stay where it is. -/
inductive Deeper (lead : Text) : Text → Text → Prop
  | moved (line : Text) : Deeper lead line (lead ++ line)
  | blank {line : Text} : line.all isMarginSpace = true → Deeper lead line line

/-- A block of lines that have been moved to the right together by a number of spaces, after any number of line
feeds. -/
inductive Shifted (n : Nat) : Text → Text → Prop
  | lines {block other : Text} :
    List.Forall₂ (Deeper (spaces n)) (betweenFeeds block) (betweenFeeds other) → Shifted n block other
  | feed {block other : Text} : Shifted n block other → Shifted n block ('\n' :: other)

def movedRight (n : Nat) (block : Text) : Text :=
  join ['\n'] ((betweenFeeds block).map fun line => if line.all isMarginSpace then line else spaces n ++ line)

theorem shifted_movedRight (n : Nat) (block : Text) : Shifted n block (movedRight n block) := by
  refine .lines ?_
  rw [movedRight, betweenFeeds_join (by simpa using betweenFeeds_ne_nil block)]
  · refine List.forall₂_map_right_iff.2 (List.forall₂_same.2 fun line _ => ?_)
    split
    · exact .blank ‹_›
    · exact .moved line
  · intro other mem
    obtain ⟨line, lineMem, rfl⟩ := List.mem_map.1 mem
    have one := onOneLine_of_mem_betweenFeeds lineMem
    split
    · exact one
    · exact onOneLine_append (onOneLine_spaces n) one

theorem isMarginSpace_spaces (n : Nat) : (spaces n).all isMarginSpace = true := by
  rw [List.all_eq_true]
  intro c mem
  rw [List.eq_of_mem_replicate mem]
  rfl

/-! ## Common indentation -/

theorem commonStart_append (lead a b : Text) : commonStart (lead ++ a) (lead ++ b) = lead ++ commonStart a b := by
  induction lead with
  | nil => rfl
  | cons c lead ih => rw [List.cons_append, List.cons_append, commonStart, if_pos rfl, ih, List.cons_append]

theorem commonStart_isPrefix_left (a b : Text) : commonStart a b <+: a := by
  fun_induction commonStart a b with
  | case1 c as bs ih => exact List.cons_prefix_cons.2 ⟨rfl, ih⟩
  | case2 => exact List.nil_prefix
  | case3 => exact List.nil_prefix

theorem commonStart_isPrefix_right (a b : Text) : commonStart a b <+: b := by
  fun_induction commonStart a b with
  | case1 c as bs ih => exact List.cons_prefix_cons.2 ⟨rfl, ih⟩
  | case2 => exact List.nil_prefix
  | case3 => exact List.nil_prefix

theorem foldl_commonStart_append (lead first : Text) (others : List Text) :
    (others.map (lead ++ ·)).foldl commonStart (lead ++ first) = lead ++ others.foldl commonStart first := by
  induction others generalizing first with
  | nil => rfl
  | cons other others ih => rw [List.map_cons, List.foldl_cons, List.foldl_cons, commonStart_append, ih]

theorem foldl_commonStart_isPrefix (first : Text) (others : List Text) :
    ∀ text ∈ first :: others, others.foldl commonStart first <+: text := by
  induction others generalizing first with
  | nil => simp
  | cons other others ih =>
    have rest := ih (commonStart first other)
    rw [List.forall_mem_cons] at rest
    rw [List.forall_mem_cons, List.forall_mem_cons]
    exact ⟨rest.1.trans (commonStart_isPrefix_left _ _), rest.1.trans (commonStart_isPrefix_right _ _), rest.2⟩

def margins (lines : List Text) : List Text :=
  (lines.filter (·.any (!isMarginSpace ·))).map (·.takeWhile isMarginSpace)

theorem margin_eq (lines : List Text) : margin lines =
    match margins lines with
    | [] => []
    | first :: others => others.foldl commonStart first := rfl

theorem margin_isPrefix {lines : List Text} {line : Text} (mem : line ∈ lines)
    (shown : line.any (!isMarginSpace ·) = true) : margin lines <+: line := by
  have indented : line.takeWhile isMarginSpace ∈ margins lines :=
    List.mem_map_of_mem (List.mem_filter.2 ⟨mem, shown⟩)
  rw [margin_eq]
  cases found : margins lines with
  | nil => exact List.nil_prefix
  | cons first others =>
    rw [found] at indented
    exact (foldl_commonStart_isPrefix first others _ indented).trans (List.takeWhile_prefix _)

/-! ## Removing the common indentation -/

def bared (line : Text) : Text := if line.all isMarginSpace then [] else line

def movedBy (lead line : Text) : Text := if line.isEmpty then [] else lead ++ line

def without (common line : Text) : Text := (after? common line).getD line

theorem dedent_eq (text : Text) : dedent text =
    join ['\n'] (((betweenFeeds text).map bared).map (without (margin ((betweenFeeds text).map bared)))) := rfl

theorem without_nil (common : Text) : without common [] = [] := by
  cases common <;> rfl

theorem without_append (common rest : Text) : without common (common ++ rest) = rest := by
  rw [without, after?_eq_some.2 rfl, Option.getD_some]

theorem bared_eq (line : Text) : bared line = [] ∨ (bared line).any (!isMarginSpace ·) = true := by
  unfold bared
  split
  · exact .inl rfl
  · rename_i shown
    exact .inr (by simpa using shown)

section

variable {lead : Text} (blank : lead.all isMarginSpace = true)

include blank

theorem bared_deeper {line other : Text} (h : Deeper lead line other) : bared other = movedBy lead (bared line) := by
  cases h with
  | moved =>
    have same : (lead ++ line).all isMarginSpace = line.all isMarginSpace := by
      rw [List.all_append, blank, Bool.true_and]
    unfold bared
    rw [same]
    split
    · rfl
    · rename_i shown
      have nonempty : line ≠ [] := by
        rintro rfl
        exact shown rfl
      rw [movedBy, if_neg (by simpa using nonempty)]
  | blank bare => simp [bared, bare, movedBy]

theorem margins_movedBy (lines : List Text) : margins (lines.map (movedBy lead)) = (margins lines).map (lead ++ ·) := by
  have shown (line : Text) : (movedBy lead line).any (!isMarginSpace ·) = line.any (!isMarginSpace ·) := by
    cases line with
    | nil => rfl
    | cons c line =>
      have none : lead.any (!isMarginSpace ·) = false := by simpa using blank
      rw [movedBy, if_neg (by simp), List.any_append, none, Bool.false_or]
  induction lines with
  | nil => rfl
  | cons line lines ih =>
    rw [margins, margins] at ih
    rw [margins, margins, List.map_cons, List.filter_cons, List.filter_cons, shown line]
    by_cases nonblank : line.any (!isMarginSpace ·) = true
    · have nonempty : line ≠ [] := by
        rintro rfl
        cases nonblank
      have indent : (movedBy lead line).takeWhile isMarginSpace = lead ++ line.takeWhile isMarginSpace := by
        rw [movedBy, if_neg (by simpa using nonempty)]
        exact List.takeWhile_append_of_pos (by simpa using blank)
      rw [if_pos nonblank, if_pos nonblank, List.map_cons, List.map_cons, List.map_cons, indent, ih]
    · rw [if_neg nonblank, if_neg nonblank, ih]

theorem margin_movedBy {lines : List Text} (shown : margins lines ≠ []) :
    margin (lines.map (movedBy lead)) = lead ++ margin lines := by
  obtain ⟨first, others, found⟩ := List.exists_cons_of_ne_nil shown
  rw [margin_eq, margin_eq, margins_movedBy blank, found]
  exact foldl_commonStart_append lead first others

theorem without_margin_movedBy {lines : List Text}
    (bared : ∀ line ∈ lines, line = [] ∨ line.any (!isMarginSpace ·) = true) :
    (lines.map (movedBy lead)).map (without (margin (lines.map (movedBy lead)))) =
      lines.map (without (margin lines)) := by
  rw [List.map_map]
  refine List.map_congr_left fun line mem => ?_
  rcases bared line mem with rfl | shown
  · exact (without_nil _).trans (without_nil _).symm
  · have indented : margins lines ≠ [] := List.ne_nil_of_mem (List.mem_map_of_mem (List.mem_filter.2 ⟨mem, shown⟩))
    have nonempty : line ≠ [] := by
      rintro rfl
      cases shown
    obtain ⟨rest, whole⟩ := margin_isPrefix mem shown
    have moved : movedBy lead line = (lead ++ margin lines) ++ rest := by
      rw [movedBy, if_neg (by simpa using nonempty), ← whole, List.append_assoc]
    rw [Function.comp_apply, margin_movedBy blank indented, moved, without_append]
    conv_rhs => rw [← whole, without_append]

theorem dedent_of_deeper {block other : Text}
    (lines : List.Forall₂ (Deeper lead) (betweenFeeds block) (betweenFeeds other)) : dedent other = dedent block := by
  have moved : (betweenFeeds other).map bared = ((betweenFeeds block).map bared).map (movedBy lead) := by
    rw [List.map_map]
    exact (List.forall₂_eq_eq_eq ▸ List.forall₂_map_left_iff.2 (List.forall₂_map_right_iff.2
      (lines.flip.imp fun other line h => bared_deeper blank h)))
  rw [dedent_eq, dedent_eq, moved, without_margin_movedBy blank]
  intro line mem
  obtain ⟨given, -, rfl⟩ := List.mem_map.1 mem
  exact bared_eq given

end

theorem dedent_feed (text : Text) : dedent ('\n' :: text) = '\n' :: dedent text := by
  have same : margin ([] :: (betweenFeeds text).map bared) = margin ((betweenFeeds text).map bared) := rfl
  rw [dedent_eq, dedent_eq, betweenFeeds_feed, List.map_cons, show bared [] = [] from rfl, same, List.map_cons,
    without_nil, join_cons _ _ (by simpa using betweenFeeds_ne_nil text)]
  rfl

theorem dedent_shifted {n : Nat} {block other : Text} (h : Shifted n block other) :
    trimBy isFeed (dedent other) = trimBy isFeed (dedent block) := by
  induction h with
  | lines lines => rw [dedent_of_deeper (isMarginSpace_spaces n) lines]
  | feed _ ih => rw [dedent_feed, ← ih, trimBy, trimBy, List.dropWhile_cons, if_pos (by decide)]

/-! ## Trimming -/

theorem isSpace_of_isMarginSpace {c : Char} (h : isMarginSpace c = true) : Unicode.isSpace c = true := by
  simp only [isMarginSpace, Bool.or_eq_true, beq_iff_eq] at h
  rcases h with rfl | rfl <;> decide

theorem isBlank_deeper {n : Nat} {line other : Text} (h : Deeper (spaces n) line other) :
    isBlank other = isBlank line := by
  cases h with
  | moved => rw [isBlank_append, isBlank_spaces, Bool.true_and]
  | blank => rfl

theorem eq_of_deeper {n : Nat} {line other : Text} (h : Deeper (spaces n) line other) (shown : isBlank line = false) :
    other = spaces n ++ line := by
  cases h with
  | moved => rfl
  | blank bare =>
    have blank : isBlank line = true :=
      List.all_eq_true.2 fun c mem => isSpace_of_isMarginSpace (List.all_eq_true.1 bare c mem)
    rw [blank] at shown
    cases shown

theorem dropWhile_append {blank : Text} (h : isBlank blank = true) (text : Text) :
    (blank ++ text).dropWhile Unicode.isSpace = text.dropWhile Unicode.isSpace :=
  List.dropWhile_append_of_pos (List.all_eq_true.1 h)

theorem dropWhile_of_isBlank {text : Text} (h : isBlank text = true) : text.dropWhile Unicode.isSpace = [] :=
  List.dropWhile_eq_nil_iff.2 (List.all_eq_true.1 h)

theorem exists_dropWhile {text : Text} (shown : isBlank text = false) :
    ∃ c rest, text.dropWhile Unicode.isSpace = c :: rest ∧ Unicode.isSpace c = false := by
  have stops : text.dropWhile Unicode.isSpace ≠ [] := by
    rw [ne_eq, List.dropWhile_eq_nil_iff, ← List.all_eq_true]
    exact Bool.eq_false_iff.1 shown
  exact ⟨_, _, (List.cons_head_tail stops).symm, List.head_dropWhile_not _ stops⟩

def trimEnd (text : Text) : Text := text.rdropWhile Unicode.isSpace

theorem trim_eq (text : Text) : trim text = trimEnd (text.dropWhile Unicode.isSpace) := rfl

theorem trim_of_isBlank {text : Text} (h : isBlank text = true) : trim text = [] := by
  rw [trim_eq, dropWhile_of_isBlank h]
  rfl

theorem trim_append {blank : Text} (h : isBlank blank = true) (text : Text) : trim (blank ++ text) = trim text := by
  rw [trim_eq, dropWhile_append h, trim_eq]

theorem trim_feed (text : Text) : trim ('\n' :: text) = trim text := by
  have feed : isBlank ['\n'] = true := by decide
  exact trim_append feed text

theorem trimEnd_append_blank (text : Text) {blank : Text} (h : isBlank blank = true) :
    trimEnd (text ++ blank) = trimEnd text := by
  have backwards : isBlank blank.reverse = true := by rwa [isBlank, List.all_reverse]
  rw [trimEnd, List.rdropWhile, List.reverse_append, dropWhile_append backwards]
  rfl

theorem trimEnd_append (left : Text) {right : Text} (shown : isBlank right = false) :
    trimEnd (left ++ right) = left ++ trimEnd right := by
  have stops : (right.reverse.dropWhile Unicode.isSpace).isEmpty = false := by
    rw [List.isEmpty_eq_false_iff, ne_eq, List.dropWhile_eq_nil_iff, ← List.all_eq_true, List.all_reverse]
    exact Bool.eq_false_iff.1 shown
  rw [trimEnd, List.rdropWhile, List.reverse_append, List.dropWhile_append, stops]
  simp [trimEnd, List.rdropWhile]

theorem exists_trimEnd (text : Text) : ∃ blank, isBlank blank = true ∧ text = trimEnd text ++ blank := by
  refine ⟨(text.reverse.takeWhile Unicode.isSpace).reverse, ?_, ?_⟩
  · rw [isBlank, List.all_reverse, List.all_eq_true]
    exact fun c mem => List.mem_takeWhile_imp mem
  · rw [trimEnd, List.rdropWhile, ← List.reverse_append, List.takeWhile_append_dropWhile, List.reverse_reverse]

theorem isBlank_trimEnd (text : Text) : isBlank (trimEnd text) = isBlank text := by
  obtain ⟨blank, h, whole⟩ := exists_trimEnd text
  conv_rhs => rw [whole, isBlank_append, h, Bool.and_true]

theorem onOneLine_trimEnd {text : Text} (whole : OnOneLine text) : OnOneLine (trimEnd text) :=
  fun feed => whole ((List.rdropWhile_prefix _ _).subset feed)

def below (lines : List Text) : Text := lines.flatMap ('\n' :: ·)

theorem join_eq_below (line : Text) (lines : List Text) : join ['\n'] (line :: lines) = line ++ below lines := by
  induction lines generalizing line with
  | nil => simp [join, below]
  | cons other lines ih =>
    rw [join_cons _ _ (List.cons_ne_nil other lines), ih]
    simp [below]

theorem isBlank_below_cons (line : Text) (lines : List Text) :
    isBlank (below (line :: lines)) = (isBlank line && isBlank (below lines)) := by
  have feed : Unicode.isSpace '\n' = true := by decide
  rw [below, List.flatMap_cons, isBlank_append, isBlank, List.all_cons, feed, Bool.true_and]
  rfl

theorem append_below_cons (start line : Text) (lines : List Text) :
    start ++ below (line :: lines) = (start ++ '\n' :: line) ++ below lines := by
  simp [below]

/-- Behind the first line with something in it either there is nothing but white space, or the last line has been
moved. -/
theorem trimEnd_below {n : Nat} {lines others : List Text} (h : List.Forall₂ (Deeper (spaces n)) lines others)
    (whole : ∀ line ∈ lines, OnOneLine line) (start start' : Text) :
    (isBlank (below lines) = true ∧ isBlank (below others) = true) ∨
      ∃ front front' last, trimEnd (start ++ below lines) = start ++ front ++ '\n' :: last ∧
        trimEnd (start' ++ below others) = start' ++ front' ++ '\n' :: (spaces n ++ last) ∧
        OnOneLine last ∧ isBlank last = false := by
  induction h generalizing start start' with
  | nil => exact .inl ⟨rfl, rfl⟩
  | @cons line other lines others first rest ih =>
    rw [List.forall_mem_cons] at whole
    rw [isBlank_below_cons, isBlank_below_cons, isBlank_deeper first, append_below_cons, append_below_cons]
    rcases ih whole.2 (start ++ '\n' :: line) (start' ++ '\n' :: other) with ⟨blank, blank'⟩ | later
    · rw [blank, blank', Bool.and_true, trimEnd_append_blank _ blank, trimEnd_append_blank _ blank']
      cases shown : isBlank line with
      | true => exact .inl ⟨rfl, rfl⟩
      | false =>
        rw [eq_of_deeper first shown]
        have behind (start : Text) : trimEnd (start ++ line) = start ++ trimEnd line := trimEnd_append start shown
        refine .inr ⟨[], [], trimEnd line, ?_, ?_, onOneLine_trimEnd whole.1, (isBlank_trimEnd line).trans shown⟩
        · simpa using behind (start ++ ['\n'])
        · simpa using behind (start' ++ '\n' :: spaces n)
    · obtain ⟨front, front', last, text, text', one, shown⟩ := later
      exact .inr ⟨'\n' :: line ++ front, '\n' :: other ++ front', last, by simpa using text, by simpa using text',
        one, shown⟩

/-- Two texts of several lines that begin with the same character and end with the same line, which the second one has
moved. -/
def LastMoved (n : Nat) (text other : Text) : Prop :=
  ∃ c front front' last, text = c :: front ++ '\n' :: last ∧ other = c :: front' ++ '\n' :: (spaces n ++ last) ∧
    Unicode.isSpace c = false ∧ OnOneLine last ∧ isBlank last = false

theorem trim_join_blank {line : Text} (blank : isBlank line = true) {lines : List Text} (more : lines ≠ []) :
    trim (join ['\n'] (line :: lines)) = trim (join ['\n'] lines) := by
  have feed : isBlank (line ++ ['\n']) = true := by
    rw [isBlank_append, blank]
    decide
  rw [join_cons _ _ more, trim_append feed]

theorem trim_join_shown {n : Nat} {line : Text} (shown : isBlank line = false) (one : OnOneLine line)
    {lines others : List Text} (rest : List.Forall₂ (Deeper (spaces n)) lines others)
    (whole : ∀ line ∈ lines, OnOneLine line) :
    (trim (join ['\n'] ((spaces n ++ line) :: others)) = trim (join ['\n'] (line :: lines)) ∧
        OnOneLine (trim (join ['\n'] (line :: lines)))) ∨
      LastMoved n (trim (join ['\n'] (line :: lines))) (trim (join ['\n'] ((spaces n ++ line) :: others))) := by
  obtain ⟨c, start, found, closed⟩ := exists_dropWhile shown
  have begun (lines : List Text) : (line ++ below lines).dropWhile Unicode.isSpace = c :: start ++ below lines := by
    rw [List.dropWhile_append, found]
    rfl
  rw [join_eq_below, join_eq_below, List.append_assoc, trim_append (isBlank_spaces n), trim_eq, trim_eq, begun, begun]
  rcases trimEnd_below rest whole (c :: start) (c :: start) with ⟨blank, blank'⟩ | last
  · rw [trimEnd_append_blank _ blank, trimEnd_append_blank _ blank']
    refine .inl ⟨rfl, onOneLine_trimEnd fun feed => one ?_⟩
    exact (List.dropWhile_suffix Unicode.isSpace).subset (found ▸ feed)
  · obtain ⟨front, front', last, text, text', one, shown⟩ := last
    exact .inr ⟨c, start ++ front, start ++ front', last, text, text', closed, one, shown⟩

theorem trim_join {n : Nat} {lines others : List Text} (h : List.Forall₂ (Deeper (spaces n)) lines others)
    (whole : ∀ line ∈ lines, OnOneLine line) :
    (trim (join ['\n'] others) = trim (join ['\n'] lines) ∧ OnOneLine (trim (join ['\n'] lines))) ∨
      LastMoved n (trim (join ['\n'] lines)) (trim (join ['\n'] others)) := by
  induction h with
  | nil => exact .inl ⟨rfl, List.not_mem_nil⟩
  | @cons line other lines others first rest ih =>
    rw [List.forall_mem_cons] at whole
    cases shown : isBlank line with
    | true =>
      have shown' := (isBlank_deeper first).trans shown
      cases rest with
      | nil =>
        rw [join, join, trim_of_isBlank shown, trim_of_isBlank shown']
        exact .inl ⟨rfl, List.not_mem_nil⟩
      | cons first' rest =>
        rw [trim_join_blank shown (List.cons_ne_nil _ _), trim_join_blank shown' (List.cons_ne_nil _ _)]
        exact ih whole.2
    | false =>
      rw [eq_of_deeper first shown]
      exact trim_join_shown shown whole.1 rest whole.2

/-- Trimming a block whose lines have been moved takes the move of the first line back. Nothing else is left of it if
there are no other lines; else the last line stays where it has been moved. -/
theorem trim_shifted {n : Nat} {block other : Text} (h : Shifted n block other) :
    (trim other = trim block ∧ OnOneLine (trim block)) ∨ LastMoved n (trim block) (trim other) := by
  induction h with
  | @lines other lines =>
    have moved := trim_join lines fun line mem => onOneLine_of_mem_betweenFeeds mem
    rwa [join_betweenFeeds, join_betweenFeeds] at moved
  | @feed other _ ih =>
    rwa [trim_feed]

theorem trim_shifted_zero {block other : Text} (h : Shifted 0 block other) : trim other = trim block := by
  induction h with
  | @lines other lines =>
    have same : betweenFeeds block = betweenFeeds other :=
      List.forall₂_eq_eq_eq ▸ lines.imp fun line other h => by cases h <;> rfl
    rw [← join_betweenFeeds block, same, join_betweenFeeds]
  | @feed other _ ih => exact (trim_feed other).trans ih

/-! ## What is seen of a move -/

theorem dedent_of_begun {c : Char} (closed : Unicode.isSpace c = false) (text : Text) :
    dedent (c :: text) = join ['\n'] ((betweenFeeds (c :: text)).map bared) := by
  have shown : isMarginSpace c = false :=
    Bool.eq_false_iff.2 fun space => Bool.eq_false_iff.1 closed (isSpace_of_isMarginSpace space)
  have other : c ≠ '\n' := by
    rintro rfl
    exact absurd closed (by decide)
  obtain ⟨line, lines, cut⟩ := List.exists_cons_of_ne_nil (betweenFeeds_ne_nil text)
  have first : bared (c :: line) = c :: line := if_neg (by simp [shown])
  have none : margin (((c :: line) :: lines).map bared) = [] := by
    rw [margin_eq, margins, List.map_cons, first, List.filter_cons_of_pos (by simp [shown]), List.map_cons,
      List.takeWhile_cons_of_neg (by simp [shown])]
    exact List.prefix_nil.1 (foldl_commonStart_isPrefix [] _ [] List.mem_cons_self)
  rw [dedent_eq, betweenFeeds_cons other, cut, List.modifyHead_cons, none]
  exact congrArg (join ['\n']) (List.map_id _)

theorem exists_dedent_last {c : Char} (closed : Unicode.isSpace c = false) (front : Text) {last : Text}
    (one : OnOneLine last) (shown : isBlank last = false) :
    ∃ before, dedent (c :: front ++ '\n' :: last) = before ++ '\n' :: last := by
  have kept : bared last = last := by
    refine if_neg fun blank => Bool.eq_false_iff.1 shown ?_
    exact List.all_eq_true.2 fun c mem => isSpace_of_isMarginSpace (List.all_eq_true.1 blank c mem)
  refine ⟨join ['\n'] ((betweenFeeds (c :: front)).map bared), ?_⟩
  rw [List.cons_append, dedent_of_begun closed, ← List.cons_append, betweenFeeds_append,
    betweenFeeds_of_onOneLine one, List.map_append, List.map_singleton, kept,
    join_concat _ _ (by simpa using betweenFeeds_ne_nil (c :: front))]
  simp

theorem last_unique {front front' last last' : Text} (one : OnOneLine last) (one' : OnOneLine last')
    (same : front ++ '\n' :: last = front' ++ '\n' :: last') : last = last' := by
  have lines := congrArg betweenFeeds same
  rw [betweenFeeds_append, betweenFeeds_append, betweenFeeds_of_onOneLine one, betweenFeeds_of_onOneLine one'] at lines
  exact List.singleton_inj.1 (List.append_inj_right' lines rfl)

/-- What is left of a move after trimming is seen however far the lines are indented again. -/
theorem indent_trimmed_ne {n : Nat} (moved : n ≠ 0) {block other : Text} (h : Shifted n block other)
    (several : ¬ OnOneLine (trim block)) (k : Nat) :
    indent (spaces k) (dedent (trim other)) ≠ indent (spaces k) (dedent (trim block)) := by
  rcases trim_shifted h with ⟨-, one⟩ | ⟨c, front, front', last, text, text', closed, one, shown⟩
  · exact absurd one several
  · have one' : OnOneLine (spaces n ++ last) := onOneLine_append (onOneLine_spaces n) one
    have shown' : isBlank (spaces n ++ last) = false := by rw [isBlank_append, shown, Bool.and_false]
    obtain ⟨before, dedented⟩ := exists_dedent_last closed front one shown
    obtain ⟨before', dedented'⟩ := exists_dedent_last closed front' one' shown'
    obtain ⟨indented, whole⟩ := exists_indent_feed (spaces k) before
    obtain ⟨indented', whole'⟩ := exists_indent_feed (spaces k) before'
    have inLine {line : Text} (one : OnOneLine line) : OnOneLine (indent (spaces k) line) :=
      fun feed => (mem_indent feed).elim (onOneLine_spaces k) one
    have something : last ≠ [] := by
      rintro rfl
      cases shown
    rw [text, text', dedented, dedented', whole, whole']
    intro same
    have lengths := congrArg List.length (last_unique (inLine one') (inLine one) same)
    rw [length_indent_spaces _ _ something] at lengths
    omega

end LexGen.Text
