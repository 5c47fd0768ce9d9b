import LexGen.Text.Lines
import LexGen.Unicode.Space
import Mathlib.Data.List.Basic

/-!
# Parts exchanged in a text

Parts of a text are exchanged for others, and none of them has a line break or begins with white space. Then the text
keeps its lines, what it ends with, and whether there is anything but space or comment in it.

* `Exchanged`: two texts with other parts in the same places.
* `FeedLines.exchanged`: the lines of a text are still lines after the exchange.
-/

namespace LexGen.Text

/-- A part that stands within a line and is more than space or a comment. -/
structure Solid (part : Text) : Prop where
  begins : ∃ c rest, part = c :: rest ∧ Unicode.isSpace c = false ∧ c ≠ '#'
  inLine : ∀ c ∈ part, c ≠ '\n' ∧ c ≠ '\r'

/-- Texts that differ in solid parts. -/
inductive Exchanged : Text → Text → Prop
  | done : Exchanged [] []
  | keep (c : Char) {text text' : Text} : Exchanged text text' → Exchanged (c :: text) (c :: text')
  | swap {part part' text text' : Text} (solid : Solid part) (solid' : Solid part') :
      Exchanged text text' → Exchanged (part ++ text) (part' ++ text')

theorem Exchanged.refl (text : Text) : Exchanged text text := by
  induction text with
  | nil => exact .done
  | cons c text ih => exact .keep c ih

theorem Exchanged.append {a a' b b' : Text} (first : Exchanged a a') (second : Exchanged b b') :
    Exchanged (a ++ b) (a' ++ b') := by
  induction first with
  | done => exact second
  | keep c _ ih => exact .keep c ih
  | swap solid solid' _ ih =>
    rw [List.append_assoc, List.append_assoc]
    exact .swap solid solid' ih

variable {text text' : Text}

theorem Solid.ne_nil {part : Text} (solid : Solid part) : part ≠ [] := by
  obtain ⟨c, rest, rfl, -⟩ := solid.begins
  exact List.cons_ne_nil c rest

theorem Exchanged.eq_nil_iff (exchanged : Exchanged text text') : text = [] ↔ text' = [] := by
  cases exchanged with
  | done => rfl
  | keep => simp
  | swap solid solid' => simp [solid.ne_nil, solid'.ne_nil]

theorem Solid.count {part : Text} (solid : Solid part) : part.count '\n' = 0 :=
  List.count_eq_zero.2 fun mem => (solid.inLine _ mem).1 rfl

theorem Exchanged.count (exchanged : Exchanged text text') : text.count '\n' = text'.count '\n' := by
  induction exchanged with
  | done => rfl
  | keep c _ ih => rw [List.count_cons, List.count_cons, ih]
  | swap solid solid' _ ih => rw [List.count_append, List.count_append, solid.count, solid'.count, ih]

theorem Solid.getLast? {part : Text} (solid : Solid part) {c : Char} (breaks : c = '\n' ∨ c = '\r') :
    part.getLast? ≠ some c := by
  intro last
  have inLine := solid.inLine c (List.mem_of_getLast? last)
  rcases breaks with rfl | rfl
  · exact inLine.1 rfl
  · exact inLine.2 rfl

theorem Exchanged.getLast?_iff (exchanged : Exchanged text text') {c : Char} (breaks : c = '\n' ∨ c = '\r') :
    text.getLast? = some c ↔ text'.getLast? = some c := by
  induction exchanged with
  | done => rfl
  | keep d rest ih =>
    rename_i text text'
    by_cases nil : text = []
    · rw [nil, rest.eq_nil_iff.1 nil]
    · have nil' := mt rest.eq_nil_iff.2 nil
      rw [List.getLast?_cons_of_ne_nil nil, List.getLast?_cons_of_ne_nil nil', ih]
  | swap solid solid' rest ih =>
    rename_i text text'
    by_cases nil : text = []
    · rw [nil, rest.eq_nil_iff.1 nil, List.append_nil, List.append_nil]
      exact iff_of_false (solid.getLast? breaks) (solid'.getLast? breaks)
    · have nil' := mt rest.eq_nil_iff.2 nil
      rw [List.getLast?_append_of_ne_nil _ nil, List.getLast?_append_of_ne_nil _ nil', ih]

/-! ## Space -/

theorem head?_trimBy (p : Char → Bool) (text : Text) : (trimBy p text).head? = (text.dropWhile p).head? := by
  rw [trimBy, List.head?_reverse]
  have after := List.head?_dropWhile_not p text
  cases shown : text.dropWhile p with
  | nil => rfl
  | cons c rest =>
    have visible : p c = false := by simpa [shown] using after
    rw [List.reverse_cons, List.dropWhile_append]
    split
    · simp [visible]
    · rw [List.getLast?_append_of_ne_nil _ (List.cons_ne_nil _ _)]
      rfl

theorem Exchanged.head?_trim_iff (exchanged : Exchanged text text') :
    (trim text).head? = some '#' ↔ (trim text').head? = some '#' := by
  rw [trim, trim, head?_trimBy, head?_trimBy]
  induction exchanged with
  | done => rfl
  | keep c _ ih =>
    rw [List.dropWhile_cons, List.dropWhile_cons]
    split
    · exact ih
    · rfl
  | swap solid solid' =>
    obtain ⟨c, rest, rfl, visible, other⟩ := solid.begins
    obtain ⟨c', rest', rfl, visible', other'⟩ := solid'.begins
    rw [List.cons_append, List.cons_append, List.dropWhile_cons_of_neg (by simp [visible]),
      List.dropWhile_cons_of_neg (by simp [visible'])]
    simp [other, other']

theorem Exchanged.all_eq (exchanged : Exchanged text text') {p : Char → Bool}
    (space : ∀ c, p c = true → Unicode.isSpace c = true) : text.all p = text'.all p := by
  have inner {part : Text} (solid : Solid part) (rest : Text) : (part ++ rest).all p = false := by
    obtain ⟨c, _, rfl, visible, -⟩ := solid.begins
    have none : p c = false := by
      by_contra inner
      rw [space c (by simpa using inner)] at visible
      cases visible
    simp [none]
  induction exchanged with
  | done => rfl
  | keep c _ ih => rw [List.all_cons, List.all_cons, ih]
  | swap solid solid' => rw [inner solid, inner solid']

/-! ## Lines -/

/-- Lines that each end with their only line feed, and perhaps one that has none at the end. -/
inductive FeedLines : List Text → Prop
  | nil : FeedLines []
  | last {line : Text} (nonempty : line ≠ []) (none : line.count '\n' = 0) : FeedLines [line]
  | cons {line : Text} {lines : List Text} (once : line.count '\n' = 1) (ends : line.getLast? = some '\n')
      (rest : FeedLines lines) : FeedLines (line :: lines)

theorem FeedLines.exchanged {lines lines' : List Text} (feeds : FeedLines lines)
    (exchanged : List.Forall₂ Exchanged lines lines') : FeedLines lines' := by
  induction feeds generalizing lines' with
  | nil =>
    cases exchanged
    exact .nil
  | last nonempty none =>
    obtain - | ⟨same, ⟨⟩⟩ := exchanged
    exact .last (mt same.eq_nil_iff.2 nonempty) (same.count ▸ none)
  | cons once ends _ ih =>
    obtain - | ⟨same, others⟩ := exchanged
    exact .cons (same.count ▸ once) ((same.getLast?_iff (.inl rfl)).1 ends) (ih others)

theorem linesBy_feed (current : Text) (c : Char) (text : Text) :
    linesBy isFeed current (c :: text) =
      if c = '\n' then (c :: current).reverse :: linesBy isFeed [] text else linesBy isFeed (c :: current) text := by
  by_cases carriage : c = '\r' ∧ text.head? = some '\n'
  · obtain ⟨rfl, feed⟩ := carriage
    obtain ⟨text, rfl⟩ := List.head?_eq_some_iff.1 feed
    rw [if_neg (by decide), linesBy, linesBy]
    · rfl
    · rintro _ ⟨⟩
  · rw [linesBy]
    · simp [isFeed]
    · rintro rest rfl rfl
      exact carriage ⟨rfl, rfl⟩

theorem linesBy_feed_append {line : Text} (none : line.count '\n' = 0) (current text : Text) :
    linesBy isFeed current (line ++ text) = linesBy isFeed (line.reverse ++ current) text := by
  induction line generalizing current with
  | nil => rfl
  | cons c line ih =>
    obtain ⟨none, other⟩ : line.count '\n' = 0 ∧ c ≠ '\n' := by
      rw [List.count_cons] at none
      simpa using none
    rw [List.cons_append, linesBy_feed, if_neg other, ih none]
    simp

theorem exists_feed {line : Text} (once : line.count '\n' = 1) (ends : line.getLast? = some '\n') :
    ∃ start, line = start ++ ['\n'] ∧ start.count '\n' = 0 := by
  obtain ⟨start, rfl⟩ := List.getLast?_eq_some_iff.1 ends
  refine ⟨start, rfl, ?_⟩
  simpa using once

theorem FeedLines.feedLines_flatten {lines : List Text} (feeds : FeedLines lines) :
    feedLines lines.flatten = lines := by
  induction feeds with
  | nil => rfl
  | last nonempty none =>
    rename_i line
    have all := linesBy_feed_append none [] []
    rw [List.append_nil, List.append_nil] at all
    rw [List.flatten_singleton, feedLines, all, linesBy]
    simp [nonempty]
  | cons once ends _ ih =>
    obtain ⟨start, rfl, none⟩ := exists_feed once ends
    rw [List.flatten_cons, List.append_assoc, feedLines, linesBy_feed_append none, List.singleton_append, linesBy_feed,
      if_pos rfl, ← feedLines, ih]
    simp

theorem feedLines_linesBy {current : Text} (none : current.count '\n' = 0) (text : Text) :
    FeedLines (linesBy isFeed current text) := by
  induction text generalizing current with
  | nil =>
    rw [linesBy]
    split
    · exact .nil
    · rename_i nonempty
      exact .last (by simpa using nonempty) (by simpa using none)
  | cons c text ih =>
    rw [linesBy_feed]
    split
    · rename_i feed
      exact .cons (by simpa [feed] using none) (by simp [feed]) (ih rfl)
    · rename_i other
      exact ih (by simpa [List.count_cons, other] using none)

theorem feedLines_feedLines (text : Text) : FeedLines (feedLines text) := feedLines_linesBy rfl text

end LexGen.Text
