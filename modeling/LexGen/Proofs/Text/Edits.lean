import LexGen.Text.Edit
import Mathlib.Data.List.Basic
import Mathlib.Data.List.Pairwise
import Mathlib.Data.List.Sort

/-!
# Edits of lines

Edits of lines that do not overlap, applied from the last one to the first, change the text that the lines make up
as if each was made at its own place in that text, whatever the others put in.

* `foldl_apply_flatten`: edits of lines as edits of the whole text.
* `applyAll_ascending`: edits in ascending order need not be sorted.
* `applyAll_insertions`: insertions come to the text with what is put before its characters.
-/

namespace LexGen.Text

theorem position_of_le {length : Nat} {i : Int} (nonnegative : 0 ≤ i) (inside : i ≤ length) :
    position length i = i.toNat := by
  rw [position, if_neg (by omega)]
  omega

namespace Edit

/-! ## The order of edits -/

def Precedes (a b : Edit) : Prop :=
  a.line < b.line ∨ a.line = b.line ∧ a.stop ≤ b.start

theorem notBefore_iff {a b : Edit} :
    notBefore a b = true ↔
      b.line < a.line ∨ b.line = a.line ∧ (b.start < a.start ∨ b.start = a.start ∧ b.stop ≤ a.stop) := by
  unfold notBefore
  split
  · rename_i other
    have other : a.line ≠ b.line := bne_iff_ne.1 other
    simp only [decide_eq_true_eq]
    omega
  · rename_i same
    have same : a.line = b.line := by simpa using same
    split
    · rename_i other
      have other : a.start ≠ b.start := bne_iff_ne.1 other
      simp only [decide_eq_true_eq]
      omega
    · rename_i start
      have start : a.start = b.start := by simpa using start
      simp only [decide_eq_true_eq]
      omega

theorem pairwise_mergeSort (edits : List Edit) : (edits.mergeSort notBefore).Pairwise (notBefore · · = true) := by
  refine List.pairwise_mergeSort (fun a b c first second => ?_) (fun a b => ?_) edits
  · rw [notBefore_iff] at first second ⊢
    omega
  · rw [Bool.or_eq_true, notBefore_iff, notBefore_iff]
    omega

def Begins (a b : Edit) : Prop :=
  a.line < b.line ∨ a.line = b.line ∧ a.start < b.start

theorem mergeSort_ascending {edits : List Edit} (ascending : edits.Pairwise Begins) :
    edits.mergeSort notBefore = edits.reverse := by
  have order {a b : Edit} (begins : a.Begins b) : ¬notBefore a b = true := by
    rw [notBefore_iff]
    rcases begins with earlier | ⟨row, column⟩ <;> omega
  have only : ∀ ⦃a⦄, a ∈ edits → ∀ ⦃b⦄, b ∈ edits → notBefore a b = true → notBefore b a = true → a = b :=
    List.Pairwise.forall_of_forall_of_flip (fun _ _ _ _ => rfl)
      (ascending.imp fun begins first _ => absurd first (order begins))
      (ascending.imp fun begins _ second => absurd second (order begins))
  refine List.Perm.eq_of_pairwise (fun a b mem mem' => ?_) (pairwise_mergeSort edits) ?_
    ((edits.mergeSort_perm notBefore).trans edits.reverse_perm.symm)
  · exact only ((edits.mergeSort_perm notBefore).mem_iff.1 mem) (List.mem_reverse.1 mem')
  · refine List.pairwise_reverse.2 (ascending.imp fun {a b} begins => ?_)
    rw [notBefore_iff]
    rcases begins with earlier | ⟨row, column⟩ <;> omega

theorem applyAll_ascending {edits : List Edit} (ascending : edits.Pairwise Begins) (lines : List Text) :
    applyAll lines edits = (edits.foldr (fun edit lines => apply lines edit) lines).flatten := by
  rw [applyAll, mergeSort_ascending ascending, List.foldl_reverse]

/-! ## Edits of the text -/

/-- An edit of a part of one of the lines. -/
structure FitsIn (lines : List Text) (edit : Edit) : Prop where
  start : 0 ≤ edit.start
  ordered : edit.start ≤ edit.stop
  stop : ∃ line, lines[edit.line]? = some line ∧ edit.stop ≤ line.length

def offset (lines : List Text) (row : Nat) (column : Int) : Nat :=
  (lines.take row).flatten.length + column.toNat

def inText (lines : List Text) (edit : Edit) (text : Text) : Text :=
  text.take (offset lines edit.line edit.start) ++ edit.text ++ text.drop (offset lines edit.line edit.stop)

theorem inLine_of_fits {edit : Edit} {line : Text} (start : 0 ≤ edit.start) (ordered : edit.start ≤ edit.stop)
    (stop : edit.stop ≤ line.length) :
    edit.inLine line = line.take edit.start.toNat ++ edit.text ++ line.drop edit.stop.toNat := by
  rw [inLine, upTo, onward, position_of_le start (by omega), position_of_le (by omega) stop]

theorem exists_split {lines : List Text} {row : Nat} {line : Text} (found : lines[row]? = some line) :
    ∃ above below, lines = above ++ line :: below ∧ above.length = row := by
  obtain ⟨inRange, rfl⟩ := List.getElem?_eq_some_iff.1 found
  refine ⟨lines.take row, lines.drop (row + 1), ?_, List.length_take_of_le inRange.le⟩
  rw [← List.drop_eq_getElem_cons inRange, List.take_append_drop]

theorem flatten_apply {lines : List Text} {edit : Edit} (fits : edit.FitsIn lines) :
    (apply lines edit).flatten = edit.inText lines lines.flatten := by
  obtain ⟨start, ordered, line, found, stop⟩ := fits
  obtain ⟨above, below, rfl, row⟩ := exists_split found
  have changed : apply (above ++ line :: below) edit = above ++ edit.inLine line :: below := by
    rw [apply, ← row, List.modify_eq_take_cons_drop (by simp)]
    simp
  rw [changed, inLine_of_fits start ordered stop, inText, offset, offset, ← row]
  simp only [List.take_left, List.flatten_append, List.flatten_cons, List.take_length_add_append,
    List.drop_length_add_append, List.append_assoc]
  rw [List.take_append_of_le_length (by omega), List.drop_append_of_le_length (by omega)]

/-! ## Several edits -/

/-- What stands before the end of an edit is the same in both lists of lines. -/
structure SameBefore (edit : Edit) (lines lines' : List Text) : Prop where
  above : lines'.take edit.line = lines.take edit.line
  line : ∃ line line', lines[edit.line]? = some line ∧ lines'[edit.line]? = some line' ∧
    line'.take edit.stop.toNat = line.take edit.stop.toNat

theorem SameBefore.refl {edit : Edit} {lines : List Text} (fits : edit.FitsIn lines) : edit.SameBefore lines lines :=
  let ⟨line, found, _⟩ := fits.stop
  ⟨rfl, line, line, found, found, rfl⟩

theorem SameBefore.fitsIn {edit : Edit} {lines lines' : List Text} (same : edit.SameBefore lines lines')
    (fits : edit.FitsIn lines) : edit.FitsIn lines' := by
  obtain ⟨line, line', found, found', begins⟩ := same.line
  obtain ⟨start, ordered, other, foundOther, stop⟩ := fits
  obtain rfl : line = other := Option.some.inj (found.symm.trans foundOther)
  have long : min edit.stop.toNat line'.length = min edit.stop.toNat line.length := by
    rw [← List.length_take, ← List.length_take, begins]
  exact ⟨start, ordered, line', found', by omega⟩

theorem SameBefore.inText {edit : Edit} {lines lines' : List Text} (same : edit.SameBefore lines lines') :
    edit.inText lines' = edit.inText lines := by
  unfold Edit.inText offset
  rw [same.above]

theorem SameBefore.apply {edit other : Edit} {lines lines' : List Text} (same : edit.SameBefore lines lines')
    (precedes : edit.Precedes other) (fits : other.FitsIn lines') : edit.SameBefore lines (apply lines' other) := by
  obtain ⟨above, line, line', found, found', begins⟩ := same
  have notAfter : edit.line ≤ other.line := by
    rcases precedes with earlier | ⟨row, -⟩ <;> omega
  refine ⟨?_, line, ?_⟩
  · rw [Edit.apply, List.take_modify, List.modify_eq_self ((List.length_take_le _ _).trans notAfter), above]
  · rcases precedes with earlier | ⟨row, ends⟩
    · exact ⟨line', found, by rw [Edit.apply, List.getElem?_modify_ne _ _ (by omega), found'], begins⟩
    · obtain ⟨start, ordered, last, foundLast, stop⟩ := fits
      obtain rfl : line' = last := Option.some.inj (found'.symm.trans (row ▸ foundLast))
      refine ⟨other.inLine line', found, by rw [Edit.apply, row, List.getElem?_modify_eq, foundLast]; rfl, ?_⟩
      rw [inLine_of_fits start ordered stop, List.append_assoc,
        List.take_append_of_le_length (by rw [List.length_take]; omega), List.take_take, min_eq_left (by omega), begins]

theorem foldl_apply_flatten {lines lines' : List Text} {edits : List Edit}
    (descending : edits.Pairwise fun a b => b.Precedes a) (fits : ∀ edit ∈ edits, edit.FitsIn lines)
    (same : ∀ edit ∈ edits, edit.SameBefore lines lines') :
    (edits.foldl apply lines').flatten = edits.foldl (fun text edit => edit.inText lines text) lines'.flatten := by
  induction edits generalizing lines' with
  | nil => rfl
  | cons edit edits ih =>
    obtain ⟨first, descending⟩ := List.pairwise_cons.1 descending
    have fits' := (same edit List.mem_cons_self).fitsIn (fits edit List.mem_cons_self)
    rw [List.foldl_cons, List.foldl_cons, ih descending (fun other mem => fits other (List.mem_cons_of_mem _ mem)),
      flatten_apply fits', (same edit List.mem_cons_self).inText]
    exact fun other mem => (same other (List.mem_cons_of_mem _ mem)).apply (first other mem) fits'

end Edit

/-! ## Insertions -/

/-- A text with `put` before its characters, before each as many times as told. What is told for the length of the text
goes to its end. -/
def putBefore (put : Text) (times : Nat → Nat) : Text → Text
  | [] => (List.replicate (times 0) put).flatten
  | c :: text => (List.replicate (times 0) put).flatten ++ c :: putBefore put (fun i => times (i + 1)) text

theorem putBefore_none (put text : Text) : putBefore put (fun _ => 0) text = text := by
  induction text with
  | nil => rfl
  | cons c text ih => rw [putBefore, ih]; rfl

theorem insert_putBefore {put text : Text} {times : Nat → Nat} {place : Nat} (inside : place ≤ text.length)
    (first : ∀ i < place, times i = 0) :
    (putBefore put times text).take place ++ put ++ (putBefore put times text).drop place =
      putBefore put (fun i => times i + if i = place then 1 else 0) text := by
  induction text generalizing times place with
  | nil =>
    obtain rfl : place = 0 := Nat.le_zero.1 inside
    simp [putBefore, List.replicate_succ]
  | cons c text ih =>
    cases place with
    | zero => simp [putBefore, List.replicate_succ]
    | succ place =>
      have rest := @ih (fun i => times (i + 1)) place (Nat.le_of_succ_le_succ inside)
        fun i lt => first (i + 1) (Nat.succ_lt_succ lt)
      have none : times 0 = 0 := first 0 (Nat.succ_pos _)
      simpa [putBefore, none] using rest

theorem foldl_insertions {put text : Text} {places : List Nat} {times : Nat → Nat}
    (descending : places.Pairwise fun a b => b ≤ a) (inside : ∀ place ∈ places, place ≤ text.length)
    (first : ∀ place ∈ places, ∀ i < place, times i = 0) :
    places.foldl (fun text place => text.take place ++ put ++ text.drop place) (putBefore put times text) =
      putBefore put (fun i => times i + places.count i) text := by
  induction places generalizing times with
  | nil => rfl
  | cons place places ih =>
    obtain ⟨before, descending⟩ := List.pairwise_cons.1 descending
    rw [List.foldl_cons, insert_putBefore (inside place List.mem_cons_self) (first place List.mem_cons_self),
      ih descending fun other mem => inside other (List.mem_cons_of_mem _ mem)]
    · congr 1
      funext i
      rw [List.count_cons]
      by_cases here : i = place
      · simp [here]
        omega
      · simp [here, Ne.symm here]
    · intro other mem i lt
      rw [first other (List.mem_cons_of_mem _ mem) i lt, if_neg (by have := before other mem; omega)]

namespace Edit

/-- An edit that puts a text in and takes nothing out. -/
structure Inserts (put : Text) (lines : List Text) (edit : Edit) : Prop where
  fits : edit.FitsIn lines
  empty : edit.stop = edit.start
  text : edit.text = put

def place (lines : List Text) (edit : Edit) : Nat := offset lines edit.line edit.start

theorem Inserts.inText {put : Text} {lines : List Text} {edit : Edit} (inserts : edit.Inserts put lines) (text : Text) :
    edit.inText lines text = text.take (edit.place lines) ++ put ++ text.drop (edit.place lines) := by
  rw [Edit.inText, inserts.empty, inserts.text, place]

theorem Inserts.precedes {put : Text} {lines : List Text} {a b : Edit} (second : b.Inserts put lines)
    (order : notBefore a b = true) : b.Precedes a := by
  have empty := second.empty
  rw [notBefore_iff] at order
  rw [Precedes]
  omega

theorem FitsIn.place_le {lines : List Text} {edit : Edit} (fits : edit.FitsIn lines) (below : Nat) :
    edit.place lines ≤ (lines.take (edit.line + 1 + below)).flatten.length := by
  obtain ⟨start, ordered, line, found, stop⟩ := fits
  obtain ⟨above, rest, rfl, row⟩ := exists_split found
  rw [place, offset, ← row, Nat.add_assoc above.length, List.take_left, List.take_length_add_append, Nat.add_comm 1,
    List.take_succ_cons, List.flatten_append, List.flatten_cons, List.length_append, List.length_append]
  omega

theorem Inserts.place_le {put : Text} {lines : List Text} {a b : Edit} (second : b.Inserts put lines)
    (order : notBefore a b = true) : b.place lines ≤ a.place lines := by
  rw [notBefore_iff] at order
  rcases order with earlier | ⟨row, column⟩
  · refine (second.fits.place_le (a.line - (b.line + 1))).trans ?_
    rw [Nat.add_sub_of_le earlier, place, offset]
    omega
  · rw [place, place, offset, offset, row]
    omega

theorem applyAll_insertions {put : Text} {lines : List Text} {edits : List Edit}
    (inserts : ∀ edit ∈ edits, edit.Inserts put lines) :
    applyAll lines edits = putBefore put (fun i => (edits.map (place lines)).count i) lines.flatten := by
  have sorted := pairwise_mergeSort edits
  have perm := edits.mergeSort_perm notBefore
  rw [applyAll]
  generalize edits.mergeSort notBefore = ordered at sorted perm
  have inserts : ∀ edit ∈ ordered, edit.Inserts put lines := fun edit mem => inserts edit (perm.mem_iff.1 mem)
  have descending : ordered.Pairwise fun a b => b.Precedes a :=
    sorted.imp_of_mem fun _ mem order => (inserts _ mem).precedes order
  have places : (ordered.map (place lines)).Pairwise fun a b => b ≤ a :=
    List.pairwise_map.2 (sorted.imp_of_mem fun _ mem order => (inserts _ mem).place_le order)
  have inside : ∀ i ∈ ordered.map (place lines), i ≤ lines.flatten.length := by
    intro i held
    obtain ⟨edit, mem, rfl⟩ := List.mem_map.1 held
    have within := (inserts edit mem).fits.place_le lines.length
    rwa [List.take_of_length_le (by omega)] at within
  calc (ordered.foldl apply lines).flatten
      = ordered.foldl (fun text edit => edit.inText lines text) lines.flatten :=
        foldl_apply_flatten descending (fun edit mem => (inserts edit mem).fits) fun edit mem =>
          .refl (inserts edit mem).fits
    _ = (ordered.map (place lines)).foldl (fun text place => text.take place ++ put ++ text.drop place)
          lines.flatten := by
        rw [List.foldl_map]
        exact List.foldl_ext _ _ _ fun text edit mem => (inserts edit mem).inText text
    _ = putBefore put (fun i => (ordered.map (place lines)).count i) lines.flatten := by
        have all := @foldl_insertions put lines.flatten _ (fun _ => 0) places inside fun _ _ _ _ => rfl
        simpa only [putBefore_none, Nat.zero_add] using all
    _ = putBefore put (fun i => (edits.map (place lines)).count i) lines.flatten := by
        simp only [(perm.map (place lines)).count_eq]

end Edit

end LexGen.Text
