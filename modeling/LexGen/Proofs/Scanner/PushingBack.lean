import LexGen.Proofs.Scanner.Conservation
import LexGen.Proofs.Text.Columns

/-!
# Pushing text back

Text that is pushed back comes before the input that is left, and what has been matched gets shorter by its length.
What has been matched is cut at a position that is computed from both lengths; for a longer text the position is
negative, and then it counts from the end.

* `cutOff` is the number of characters that are cut off, `cutOff_eq_min_iff` says when it is the expected one.
* `unput_any_text`: what pushing back any text does in any state.
* `long_text_spares`: a run in which a text that is longer than the match does not cut off all of the match.
-/

namespace LexGen.Scanner

variable {σ : Type}

/-! ## What is cut off -/

/-- The number of characters of a text of the given length that are cut off for a pushed back text of the given
size. -/
def cutOff (length size : Nat) : Nat :=
  if size ≤ length then size else min (size - length) length

theorem upTo_cutOff (text : Text) (size : Nat) :
    Text.upTo text ((text.length : Int) - size) = text.rdrop (cutOff text.length size) := by
  rw [Text.upTo, Text.position, List.rdrop, cutOff]
  congr 1
  split <;> split <;> omega

theorem cutOff_eq_min_iff (length size : Nat) :
    cutOff length size = min size length ↔ size ≤ length ∨ 2 * length ≤ size := by
  rw [cutOff]
  split <;> omega

theorem rdrop_suffix {α : Type} {piece whole : List α} (ends : piece <:+ whole) {n : Nat} (le : n ≤ piece.length) :
    piece.rdrop n <:+ whole.rdrop n := by
  obtain ⟨earlier, rfl⟩ := ends
  refine ⟨earlier, ?_⟩
  have length : (earlier ++ piece).length - n = earlier.length + (piece.length - n) := by
    rw [List.length_append]
    omega
  rw [List.rdrop, List.rdrop, length, List.take_length_add_append]

/-! ## What pushing back does -/

theorem State.piece_unput (s : State σ) (back : Text) :
    (s.unput back).piece = s.piece.rdrop (cutOff s.piece.length back.length) :=
  upTo_cutOff s.piece back.length

theorem State.matched_unput (s : State σ) (back : Text) :
    (s.unput back).matched = s.matched.rdrop (cutOff s.matched.length back.length) :=
  upTo_cutOff s.matched back.length

theorem State.text_unput (s : State σ) (back : Text) :
    (s.unput back).text = s.text.rdrop (cutOff s.text.length back.length) :=
  upTo_cutOff s.text back.length

/-- The current match stays the end of what has been matched if as much as expected is cut off of it. -/
theorem State.piece_unput_suffix {s : State σ} (recent : s.piece <:+ s.matched) {back : Text}
    (cut : cutOff s.piece.length back.length = min back.length s.piece.length) :
    (s.unput back).piece <:+ (s.unput back).matched := by
  rw [s.piece_unput, s.matched_unput, cut]
  rcases (cutOff_eq_min_iff ..).1 cut with fits | twice
  · have fitsAll : back.length ≤ s.matched.length := fits.trans recent.length_le
    rw [Nat.min_eq_left fits, cutOff, if_pos fitsAll]
    exact rdrop_suffix recent fits
  · have none : s.piece.rdrop (min back.length s.piece.length) = [] := by
      rw [Nat.min_eq_right (by omega), List.rdrop, Nat.sub_self, List.take_zero]
    rw [none]
    exact List.nil_suffix

/-- In every state, pushing a text back puts it before the input that is left and cuts off the ends of the text, of the
match and of all that has been matched. As much is cut off as there is, up to the length of the text that is pushed
back, exactly for texts that are not longer than what is cut, or at least twice as long. The match stays the end of
what has been matched if that holds of it. -/
theorem unput_any_text (t : Tables σ) (steps : Nat) (s : State σ) (back : Text) :
    ∃ now, outcome ((Operation.unput back).run t steps) s = (.ok .scanner, now) ∧
      now.rest = back ++ s.rest ∧
      now.text = s.text.rdrop (cutOff s.text.length back.length) ∧
      now.piece = s.piece.rdrop (cutOff s.piece.length back.length) ∧
      now.matched = s.matched.rdrop (cutOff s.matched.length back.length) ∧
      now.length = now.text.length ∧
      (∀ length, cutOff length back.length = min back.length length ↔
        back.length ≤ length ∨ 2 * length ≤ back.length) ∧
      (s.piece <:+ s.matched → cutOff s.piece.length back.length = min back.length s.piece.length →
        now.piece <:+ now.matched) :=
  ⟨s.unput back, rfl, rfl, s.text_unput back, s.piece_unput back, s.matched_unput back, rfl,
    fun length => cutOff_eq_min_iff length back.length, fun recent cut => State.piece_unput_suffix recent cut⟩

def oneThenTwo : Session Unit where
  tables :=
    { matchers := [fun before _ => if before.isEmpty then some 1 else none, fun _ _ => some 2]
      conditions := [(initialCondition, [0, 1])]
      action := fun _ _ => return .none }
  scripts _ _ := .yield (.str "letters")
  steps := 1

def twoTokens : Script Unit := .call .lex fun _ => .call .lex fun _ => .yield .none

def oneThenTwoStart : State Unit := State.setInput false "abc".toList { world := { memory := () } }

/-- Three letters are pushed back after a match of two: one letter of the match is left, and it is not the end of what
has been matched, of which nothing is left. -/
theorem long_text_spares :
    ∃ now ∈ oneThenTwo.states 1 twoTokens oneThenTwoStart,
      now.text = "bc".toList ∧ now.piece = now.text ∧ now.matched = "abc".toList ∧
        (now.unput "xyz".toList).text = ['b'] ∧ (now.unput "xyz".toList).piece = ['b'] ∧
        now.text.rdrop (min 3 now.text.length) = [] ∧
        ¬ (now.unput "xyz".toList).piece <:+ (now.unput "xyz".toList).matched := by
  decide +kernel

end LexGen.Scanner
