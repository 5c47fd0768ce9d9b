import LexGen.Emission.Skeleton
import LexGen.Proofs.Text.Replace

/-!
# Filled skeletons

Every skeleton is cut at its markers in one way only, since no two markers overlap. Filling puts a text in the place of
each marker and leaves the pieces between them as they are, whatever the texts hold.

* `IsCut`: a skeleton in pieces, with no marker in a piece.
* `skeleton_induction`: skeletons from the front, a marker at once.
* `existsUnique_cut`, `fill_of_isCut`: the pieces of a skeleton, and the text that it is filled to.
* `render_fills`: what comes of a skeleton and a table of texts.
-/

namespace LexGen

/-! ## Markers -/

namespace Placeholder

theorem atStart?_marker (p : Placeholder) (text : Text) : atStart? (p.marker ++ text) = some p := by
  cases p <;> rfl

theorem atStart?_eq_some {p : Placeholder} {text : Text} : atStart? text = some p ↔ p.marker <+: text := by
  constructor
  · intro found
    rw [atStart?] at found
    have starts := List.find?_some found
    exact Text.startsWith_iff.1 starts
  · rintro ⟨rest, rfl⟩
    exact atStart?_marker p rest

theorem atStart?_eq_none {text : Text} : atStart? text = none ↔ ∀ p : Placeholder, ¬ p.marker <+: text := by
  simp only [Option.eq_none_iff_forall_ne_some, ne_eq, atStart?_eq_some]

theorem exists_marker (p : Placeholder) : ∃ c inner, p.marker = '{' :: '{' :: c :: inner ∧ '{' ∉ c :: inner := by
  cases p <;> exact ⟨_, _, rfl, by decide⟩

theorem prefix_of_prefix_append_marker {p q : Placeholder} {text : Text} (nonempty : text ≠ []) {rest : Text}
    (h : q.marker <+: text ++ p.marker ++ rest) : q.marker <+: text := by
  obtain ⟨c, inner, opened, closed⟩ := q.exists_marker
  obtain ⟨d, inner', opened', -⟩ := p.exists_marker
  rw [opened, opened'] at h
  rw [opened]
  rcases text with _ | ⟨a, _ | ⟨b, text⟩⟩
  · exact absurd rfl nonempty
  · -- The third character of the marker would be a brace that opens.
    simp only [List.cons_append, List.nil_append, List.cons_prefix_cons] at h
    exact absurd (h.2.2.1 ▸ List.mem_cons_self) closed
  · simp only [List.cons_append, List.append_assoc, List.cons_prefix_cons] at h ⊢
    exact ⟨h.1, h.2.1, Text.prefix_of_prefix_append_cons closed h.2.2⟩

end Placeholder

namespace Skeleton

open Placeholder (marker atStart?)

/-! ## Cutting -/

/-- A text in pieces: a first piece, and placeholders with a piece behind each. -/
structure Pieces where
  first : Text
  others : List (Placeholder × Text)

def Pieces.filled (value : Placeholder → Text) (pieces : Pieces) : Text :=
  pieces.first ++ pieces.others.flatMap fun (p, piece) => value p ++ piece

def Unmarked (text : Text) : Prop := ∀ p : Placeholder, ¬ p.marker <:+: text

/-- A skeleton cut at its markers. -/
structure IsCut (skeleton : Text) (pieces : Pieces) : Prop where
  whole : pieces.filled marker = skeleton
  first : Unmarked pieces.first
  others : ∀ piece ∈ pieces.others, Unmarked piece.2

def Pieces.cons (c : Char) (pieces : Pieces) : Pieces := ⟨c :: pieces.first, pieces.others⟩

def Pieces.mark (p : Placeholder) (pieces : Pieces) : Pieces := ⟨[], (p, pieces.first) :: pieces.others⟩

@[simp] theorem Pieces.filled_cons (value : Placeholder → Text) (c : Char) (pieces : Pieces) :
    (pieces.cons c).filled value = c :: pieces.filled value := rfl

@[simp] theorem Pieces.filled_mark (value : Placeholder → Text) (p : Placeholder) (pieces : Pieces) :
    (pieces.mark p).filled value = value p ++ pieces.filled value := by
  simp [filled, mark]

@[elab_as_elim]
theorem skeleton_induction {motive : Text → Prop} (nil : motive [])
    (marked : ∀ (p : Placeholder) (rest : Text), motive rest → motive (p.marker ++ rest))
    (plain : ∀ c text, atStart? (c :: text) = none → motive text → motive (c :: text)) (text : Text) :
    motive text := by
  induction length : text.length using Nat.strong_induction_on generalizing text with
  | _ length' ih =>
    subst length
    cases text with
    | nil => exact nil
    | cons c text =>
      cases start : atStart? (c :: text) with
      | none => exact plain c text start (ih _ (Nat.lt_succ_self _) text rfl)
      | some p =>
        obtain ⟨rest, whole⟩ := Placeholder.atStart?_eq_some.1 start
        obtain ⟨d, inner, opened, -⟩ := p.exists_marker
        have shorter : rest.length < (c :: text).length := by
          rw [← whole, opened]
          simp only [List.cons_append, List.length_cons, List.length_append]
          omega
        rw [← whole]
        exact marked p rest (ih _ shorter rest rfl)

theorem Pieces.front_cases (pieces : Pieces) :
    pieces = ⟨[], []⟩ ∨ (∃ p, ∃ inner : Pieces, pieces = inner.mark p) ∨
      ∃ c, ∃ inner : Pieces, pieces = inner.cons c := by
  obtain ⟨_ | ⟨c, first⟩, others⟩ := pieces
  · cases others with
    | nil => exact .inl rfl
    | cons piece others => exact .inr (.inl ⟨piece.1, ⟨piece.2, others⟩, rfl⟩)
  · exact .inr (.inr ⟨c, ⟨first, others⟩, rfl⟩)

theorem isCut_mark {p : Placeholder} {skeleton : Text} {inner : Pieces} :
    IsCut skeleton (inner.mark p) ↔ ∃ rest, IsCut rest inner ∧ p.marker ++ rest = skeleton := by
  constructor
  · rintro ⟨whole, -, others⟩
    rw [Pieces.filled_mark] at whole
    have plain := List.forall_mem_cons.1 others
    exact ⟨_, ⟨rfl, plain.1, plain.2⟩, whole⟩
  · rintro ⟨rest, cut, rfl⟩
    refine ⟨by rw [Pieces.filled_mark, cut.whole], fun q mark => ?_, List.forall_mem_cons.2 ⟨cut.first, cut.others⟩⟩
    obtain ⟨c, inside, opened, -⟩ := q.exists_marker
    have empty := List.infix_nil.1 mark
    rw [opened] at empty
    cases empty

theorem isCut_behind {c : Char} {skeleton : Text} {inner : Pieces} :
    IsCut skeleton (inner.cons c) ↔ ∃ text, IsCut text inner ∧ c :: text = skeleton ∧ atStart? (c :: text) = none := by
  constructor
  · rintro ⟨whole, first, others⟩
    have behind : Unmarked inner.first := fun p mark => first p (mark.trans (List.suffix_cons c _).isInfix)
    refine ⟨_, ⟨rfl, behind, others⟩, whole, Placeholder.atStart?_eq_none.2 fun p starts => ?_⟩
    refine first p (List.IsPrefix.isInfix ?_)
    obtain ⟨before, _ | ⟨⟨q, piece⟩, back⟩⟩ := inner
    · simpa [Pieces.filled, Pieces.cons] using starts
    · have onward : p.marker <+: (c :: before) ++ q.marker ++
          (piece ++ back.flatMap fun (p, piece) => p.marker ++ piece) := by
        simpa [Pieces.filled, Pieces.cons] using starts
      exact Placeholder.prefix_of_prefix_append_marker (List.cons_ne_nil c before) onward
  · rintro ⟨text, cut, rfl, plain⟩
    refine ⟨by rw [Pieces.filled_cons, cut.whole], fun p mark => ?_, cut.others⟩
    rcases List.infix_cons_iff.1 mark with starts | inside
    · refine Placeholder.atStart?_eq_none.1 plain p (starts.trans ?_)
      rw [← cut.whole]
      exact List.prefix_append (c :: inner.first) _
    · exact cut.first p inside

theorem isCut_nil {pieces : Pieces} : IsCut [] pieces ↔ pieces = ⟨[], []⟩ := by
  constructor
  · intro h
    rcases pieces.front_cases with rfl | ⟨p, inner, rfl⟩ | ⟨c, inner, rfl⟩
    · rfl
    · obtain ⟨rest, -, whole⟩ := isCut_mark.1 h
      obtain ⟨c, inside, opened, -⟩ := p.exists_marker
      rw [opened] at whole
      cases whole
    · obtain ⟨text, -, whole, -⟩ := isCut_behind.1 h
      cases whole
  · rintro rfl
    refine ⟨rfl, fun p mark => ?_, by simp⟩
    obtain ⟨c, inside, opened, -⟩ := p.exists_marker
    have empty := List.infix_nil.1 mark
    rw [opened] at empty
    cases empty

theorem isCut_marker (p : Placeholder) {rest : Text} {pieces : Pieces} :
    IsCut (p.marker ++ rest) pieces ↔ ∃ inner, IsCut rest inner ∧ pieces = inner.mark p := by
  have start := Placeholder.atStart?_marker p rest
  constructor
  · intro h
    rcases pieces.front_cases with rfl | ⟨q, inner, rfl⟩ | ⟨c, inner, rfl⟩
    · rw [← h.whole] at start
      cases start
    · obtain ⟨rest', cut, whole⟩ := isCut_mark.1 h
      obtain rfl : q = p := by
        rw [← whole, Placeholder.atStart?_marker] at start
        exact Option.some.inj start
      exact ⟨inner, List.append_cancel_left whole ▸ cut, rfl⟩
    · obtain ⟨text, -, whole, plain⟩ := isCut_behind.1 h
      rw [← whole, plain] at start
      cases start
  · rintro ⟨inner, cut, rfl⟩
    exact isCut_mark.2 ⟨rest, cut, rfl⟩

theorem isCut_cons {c : Char} {text : Text} (plain : atStart? (c :: text) = none) {pieces : Pieces} :
    IsCut (c :: text) pieces ↔ ∃ inner, IsCut text inner ∧ pieces = inner.cons c := by
  constructor
  · intro h
    rcases pieces.front_cases with rfl | ⟨p, inner, rfl⟩ | ⟨d, inner, rfl⟩
    · cases h.whole
    · obtain ⟨rest, -, whole⟩ := isCut_mark.1 h
      rw [← whole, Placeholder.atStart?_marker] at plain
      cases plain
    · obtain ⟨text', cut, whole, -⟩ := isCut_behind.1 h
      obtain ⟨rfl, rfl⟩ := List.cons.inj whole
      exact ⟨inner, cut, rfl⟩
  · rintro ⟨inner, cut, rfl⟩
    exact isCut_behind.2 ⟨text, cut, rfl, plain⟩

theorem existsUnique_cut (skeleton : Text) : ∃! pieces, IsCut skeleton pieces := by
  induction skeleton using skeleton_induction with
  | nil => exact ⟨⟨[], []⟩, isCut_nil.2 rfl, fun pieces h => isCut_nil.1 h⟩
  | marked p rest ih =>
    obtain ⟨inner, cut, unique⟩ := ih
    refine ⟨inner.mark p, (isCut_marker p).2 ⟨inner, cut, rfl⟩, fun pieces h => ?_⟩
    obtain ⟨other, cut', rfl⟩ := (isCut_marker p).1 h
    rw [unique other cut']
  | plain c text start ih =>
    obtain ⟨inner, cut, unique⟩ := ih
    refine ⟨inner.cons c, (isCut_cons start).2 ⟨inner, cut, rfl⟩, fun pieces h => ?_⟩
    obtain ⟨other, cut', rfl⟩ := (isCut_cons start).1 h
    rw [unique other cut']

/-! ## Filling -/

theorem fill_eq_drop (value : Placeholder → Text) (skip : Nat) (text : Text) :
    fill value skip text = fill value 0 (text.drop skip) := by
  induction skip generalizing text with
  | zero => rfl
  | succ skip ih =>
    cases text with
    | nil => rfl
    | cons c text => exact ih text

theorem fill_marker (value : Placeholder → Text) (p : Placeholder) (rest : Text) :
    fill value 0 (p.marker ++ rest) = value p ++ fill value 0 rest := by
  obtain ⟨c, inner, opened, -⟩ := p.exists_marker
  have start := Placeholder.atStart?_marker p rest
  rw [opened, List.cons_append] at start ⊢
  rw [fill, start]
  dsimp only
  rw [fill_eq_drop, opened]
  simp

theorem fill_of_isCut (value : Placeholder → Text) {skeleton : Text} {pieces : Pieces} (h : IsCut skeleton pieces) :
    fill value 0 skeleton = pieces.filled value := by
  induction skeleton using skeleton_induction generalizing pieces with
  | nil =>
    rw [isCut_nil.1 h]
    rfl
  | marked p rest ih =>
    obtain ⟨inner, cut, rfl⟩ := (isCut_marker p).1 h
    rw [fill_marker, ih cut, Pieces.filled_mark]
  | plain c text start ih =>
    obtain ⟨inner, cut, rfl⟩ := (isCut_cons start).1 h
    rw [fill, start, Pieces.filled_cons]
    exact congrArg (c :: ·) (ih cut)

theorem IsCut.exists_marked {before after skeleton : Text} {p : Placeholder} {pieces : Pieces}
    (h : IsCut skeleton pieces) (occurs : before ++ p.marker ++ after = skeleton) :
    ∃ front piece back, pieces.others = front ++ (p, piece) :: back ∧
      before = Pieces.filled marker ⟨pieces.first, front⟩ := by
  obtain ⟨left, cutLeft, -⟩ := existsUnique_cut before
  obtain ⟨right, cutRight, -⟩ := existsUnique_cut after
  have cut : IsCut skeleton ⟨left.first, left.others ++ (p, right.first) :: right.others⟩ := by
    refine ⟨?_, cutLeft.first, ?_⟩
    · rw [← occurs, ← cutLeft.whole, ← cutRight.whole]
      simp [Pieces.filled]
    · intro piece mem
      rcases List.mem_append.1 mem with mem | mem
      · exact cutLeft.others piece mem
      · rcases List.mem_cons.1 mem with rfl | mem
        · exact cutRight.first
        · exact cutRight.others piece mem
  obtain rfl := (existsUnique_cut skeleton).unique h cut
  exact ⟨left.others, right.first, right.others, rfl, cutLeft.whole.symm⟩

/-! ## Rendering -/

def missing (skeleton : Text) : List Placeholder :=
  Placeholder.all.filter fun p => ¬ p.marker <:+: skeleton

def unset (values : List (Placeholder × Text)) : List Placeholder :=
  Placeholder.all.filter fun p => values.lookup p = none

/-- A skeleton that lacks placeholders is refused with their names, and a table that lacks texts is refused. Any other
skeleton is cut at its markers, in the only way that leaves none in a piece, and each gives way to its text: the
pieces and the texts are put together as they are. -/
theorem render_fills (skeleton : Text) (values : List (Placeholder × Text)) :
    ∃ pieces, IsCut skeleton pieces ∧ (∀ other, IsCut skeleton other → other = pieces) ∧
      (∀ before p after, before ++ marker p ++ after = skeleton → ∃ front piece back,
        pieces.others = front ++ (p, piece) :: back ∧ before = Pieces.filled marker ⟨pieces.first, front⟩) ∧
      render skeleton values =
        if missing skeleton ≠ [] then .error (.missingPlaceholders ((missing skeleton).map Placeholder.name))
        else if unset values ≠ [] then
          .error (.skeleton ("No value for placeholder(s) " ++ ", ".intercalate ((unset values).map Placeholder.name)))
        else .ok (pieces.filled fun p => (values.lookup p).getD []) := by
  obtain ⟨pieces, cut, unique⟩ := existsUnique_cut skeleton
  refine ⟨pieces, cut, unique, fun before p after => cut.exists_marked, ?_⟩
  have absent : (Placeholder.all.filter fun p => !Text.occursIn p.marker skeleton) = missing skeleton := by
    refine List.filter_congr fun p _ => ?_
    simp [← Text.occursIn_iff]
  have without : (Placeholder.all.filter fun p => (values.lookup p).isNone) = unset values := by
    refine List.filter_congr fun p _ => ?_
    cases values.lookup p <;> rfl
  rw [render, absent, without, fill_of_isCut _ cut]
  simp

end Skeleton

end LexGen
