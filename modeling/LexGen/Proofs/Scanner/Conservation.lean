import LexGen.Proofs.Scanner.Bearings
import LexGen.Proofs.Text.Append

/-!
# Conservation of the input

No character of the source is lost, repeated or moved: in every state of every run the text that has been
matched and the text that is left make up the source, as long as nobody puts in other text.
-/

namespace LexGen.Scanner

variable {σ : Type}

def Operation.keepsSource : Operation → Bool
  | setInput .. | unput _ => false
  | _ => true

def State.buffer (s : State σ) : Text := s.before.reverse ++ s.rest

def State.position (s : State σ) : Nat := s.before.length

/-- What has been matched and what is left make up the source, and the current match is the end of what has
been matched. -/
structure Conserves (source : Text) (s : State σ) : Prop where
  split : s.matched ++ s.rest = source
  recent : s.piece <:+ s.matched
  text_eq : s.text = s.piece
  offset_eq : s.offset = s.matched.length
  position_le : s.position ≤ s.buffer.length

theorem position_le_buffer (s : State σ) : s.position ≤ s.buffer.length := by
  simp [State.position, State.buffer]

theorem Conserves.of_bearings {source : Text} {s now : State σ} (h : Conserves source s)
    (same : now.bearings = s.bearings) : Conserves source now := by
  simp only [State.bearings, Prod.mk.injEq] at same
  obtain ⟨rest, text, -, -, -, piece, matched, offset⟩ := same
  exact ⟨by rw [matched, rest, h.split], by rw [piece, matched]; exact h.recent, by rw [text, piece, h.text_eq],
    by rw [offset, matched, h.offset_eq], position_le_buffer now⟩

/-! ## Pushing back -/

theorem Conserves.unput {source kept back : Text} {s : State σ} (h : Conserves source s)
    (ends : s.piece = kept ++ back) : Conserves source (s.unput back) := by
  obtain ⟨earlier, whole⟩ := h.recent
  have matched : s.matched = (earlier ++ kept) ++ back := by rw [← whole, ends, List.append_assoc]
  have text : s.text = kept ++ back := h.text_eq.trans ends
  have newMatched : (s.unput back).matched = earlier ++ kept := by
    simp only [State.unput, matched, Text.upTo_append]
  have newPiece : (s.unput back).piece = kept := by
    simp only [State.unput, ends, Text.upTo_append]
  have newText : (s.unput back).text = kept := by
    simp only [State.unput, text, Text.upTo_append]
  refine ⟨?_, ?_, ?_, ?_, position_le_buffer _⟩
  · rw [newMatched, ← h.split, matched, List.append_assoc _ back]
    rfl
  · rw [newMatched, newPiece]
    exact List.suffix_append earlier kept
  · rw [newText, newPiece]
  · have offset : (s.unput back).offset = s.offset - back.length := rfl
    rw [newMatched, offset, h.offset_eq, matched]
    simp only [List.length_append]
    omega

theorem Conserves.less {source : Text} {s : State σ} (h : Conserves source s) (n : Int) :
    Conserves source (s.less n) :=
  h.unput (List.take_append_drop (Text.position s.piece.length n) s.piece).symm

/-! ## Single steps -/

theorem Conserves.consume {source rest : Text} {c : Char} {s : State σ} (h : Conserves source s)
    (left : s.rest = c :: rest) : Conserves source (s.consume c rest) := by
  obtain ⟨earlier, whole⟩ := h.recent
  refine ⟨?_, ⟨earlier, ?_⟩, ?_, ?_, position_le_buffer _⟩
  · rw [← h.split, left]
    simp [State.consume]
  · change earlier ++ (s.piece ++ [c]) = s.matched ++ [c]
    rw [← whole, List.append_assoc]
  · change s.text ++ [c] = s.piece ++ [c]
    rw [h.text_eq]
  · change s.offset + 1 = ((s.matched ++ [c]).length : Int)
    rw [h.offset_eq, List.length_append]
    rfl

theorem Conserves.commit {source : Text} {s : State σ} (h : Conserves source s) (ranges : Bool) (n : Nat) :
    Conserves source (s.commit ranges (s.rest.take n)) := by
  obtain ⟨earlier, whole⟩ := h.recent
  -- A match may be said to be longer than what is left.
  have dropped : s.rest.drop (s.rest.take n).length = s.rest.drop n := by
    rw [List.length_take]
    rcases Nat.le_total n s.rest.length with le | le
    · rw [Nat.min_eq_left le]
    · rw [Nat.min_eq_right le, List.drop_length, List.drop_eq_nil_of_le le]
  refine ⟨?_, ⟨earlier, ?_⟩, ?_, ?_, position_le_buffer _⟩
  · change (s.matched ++ s.rest.take n) ++ s.rest.drop (s.rest.take n).length = source
    rw [dropped, List.append_assoc, List.take_append_drop, h.split]
  · change earlier ++ (s.piece ++ s.rest.take n) = s.matched ++ s.rest.take n
    rw [← whole, List.append_assoc]
  · change s.text ++ s.rest.take n = s.piece ++ s.rest.take n
    rw [h.text_eq]
  · change s.offset + ((s.rest.take n).length : Int) = ((s.matched ++ s.rest.take n).length : Int)
    rw [h.offset_eq, List.length_append, Int.natCast_add]

theorem Conserves.start {source : Text} {s : State σ} (h : Conserves source s) :
    Conserves source s.start := by
  unfold State.start
  split <;> dsimp only <;> split
  · exact ⟨h.split, h.recent, h.text_eq, h.offset_eq, h.position_le⟩
  · exact ⟨h.split, List.nil_suffix, rfl, h.offset_eq, h.position_le⟩
  · exact h
  · exact ⟨h.split, List.nil_suffix, rfl, h.offset_eq, h.position_le⟩

theorem conserves_setInput (ranges : Bool) (source : Text) (s : State σ) :
    Conserves source (s.setInput ranges source) :=
  ⟨rfl, List.nil_suffix, rfl, rfl, position_le_buffer _⟩

/-! ## Runs -/

theorem moveLaws_conserves (ranges : Bool) (source : Text) :
    MoveLaws ranges (fun op => op.keepsSource = true) (Conserves source : State σ → Prop) where
  known _ _ same h := h.of_bearings same.1
  start _ h := h.start
  commit _ n h := h.commit ranges n
  consume left h := h.consume left
  setInput _ _ _ keeps _ := by cases keeps
  unput _ _ keeps _ := by cases keeps
  less _ n _ h := h.less n

theorem preserved_conserves (x : Session σ) (source : Text) :
    x.Preserved (fun op => op.keepsSource = true) (Conserves source) :=
  (moveLaws_conserves x.tables.ranges source).preserved

/-- Whatever is called, by actions or between calls, the scanner conserves its source in every state that it
passes through, as long as nobody sets another input or pushes other text back. -/
theorem conservation_of_input (x : Session σ)
    (actions : ∀ rule condition, (x.scripts rule condition).Makes fun op => op.keepsSource = true)
    (program : Script σ) (calls : program.Makes fun op => op.keepsSource = true) (depth : Nat)
    (source : Text) (s : State σ) :
    ∀ now ∈ x.states depth program (s.setInput x.tables.ranges source), Conserves source now :=
  (preserved_conserves x source).states actions depth program calls
    (conserves_setInput x.tables.ranges source s)

/-- A scanner whose first rule rejects its match and whose second rule gives back half of it. -/
def halving : Session Unit where
  tables :=
    { matchers := [fun _ rest => some rest.length, fun _ rest => some rest.length]
      conditions := [(initialCondition, [0, 1])]
      backtracking := true
      action := fun _ _ => return .none }
  scripts
    | 0, _ => .call .reject fun _ => .yield .none
    | _, _ => .look fun s => .call (.less (s.piece.length / 2)) fun _ => .call .more fun _ => .yield (.str "half")
  steps := 3

def halvingCalls : Script Unit := .call .lex fun _ => .call .input fun _ => .call .lex fun _ => .yield .none

theorem conservation_of_input_halving :
    (halving.states 1 halvingCalls (State.setInput false "abcd".toList { world := { memory := () } })).length = 24 ∧
      ∀ now ∈ halving.states 1 halvingCalls (State.setInput false "abcd".toList { world := { memory := () } }),
        Conserves "abcd".toList now := by
  refine ⟨by rfl, conservation_of_input halving ?_ halvingCalls ?_ 1 _ _⟩
  · intro rule condition
    rcases rule with _ | rule
    · simp [halving, Script.Makes, Operation.keepsSource]
    · simp [halving, Script.Makes, Operation.keepsSource]
  · simp [halvingCalls, Script.Makes, Operation.keepsSource]

end LexGen.Scanner
