import LexGen.Proofs.Scanner.Conservation
import LexGen.Proofs.Text.Feeds

/-!
# Excerpts of the source

An error shows some of the source on both sides of the place where the current match begins, with a mark under that
place. The scanner cuts these excerpts out of what it has matched and of what is left; that they are the text
that stands in the source there follows from the conservation of the source.

* `Shows`: excerpts in terms of the source, and a mark that stands where the second excerpt begins.
* `Conserves.shows`: a scanner that conserves its source shows what stands in it.
* `excerpts_from_source`: so it does in every state of every run.
-/

namespace LexGen.Scanner

variable {σ : Type}

def slice (text : Text) (start stop : Nat) : Text := (text.take stop).drop start

/-- What is shown when the current match begins at a place of the source: up to twenty characters on either side of
that place without their line feeds, and below them a mark under the first character of the second side. -/
structure Shows (source : Text) (place : Nat) (s : State σ) : Prop where
  begins : (place : Int) = s.offset - s.piece.length
  past : s.pastInput =
    (if 20 < place then "...".toList else []) ++ (slice source (place - 20) place).filter (· != '\n')
  upcoming : s.upcomingInput =
    (slice source place (place + 20)).filter (· != '\n') ++ if 20 < s.piece.length then "...".toList else []
  lines : ∃ below, Text.betweenFeeds s.showPosition = [s.pastInput ++ s.upcomingInput, below] ∧
    below.idxOf '^' = s.pastInput.length ∧ (s.pastInput ++ s.upcomingInput).drop (below.idxOf '^') = s.upcomingInput

/-! ## The two sides -/

theorem State.onOneLine_pastInput (s : State σ) : Text.OnOneLine s.pastInput := by
  unfold pastInput
  dsimp only
  split <;> simp [Text.OnOneLine, withoutFeeds, ellipsis]

theorem State.onOneLine_upcomingInput (s : State σ) : Text.OnOneLine s.upcomingInput := by
  simp [Text.OnOneLine, upcomingInput, withoutFeeds]

section

variable {source past : Text} {s : State σ} (split : source = past ++ (s.piece ++ s.rest))
  (matched : s.matched = past ++ s.piece)

include split matched in
theorem State.pastInput_eq : s.pastInput =
    (if 20 < past.length then "...".toList else []) ++
      (slice source (past.length - 20) past.length).filter (· != '\n') := by
  have before : Text.upTo s.matched (s.matched.length - s.piece.length) = past := by
    rw [matched]
    exact Text.upTo_append past s.piece
  have cut : slice source (past.length - 20) past.length = past.drop (past.length - 20) := by
    rw [slice, split, List.take_left]
  rw [pastInput, before, cut]
  rfl

include split in
theorem State.upcomingInput_eq : s.upcomingInput =
    (slice source past.length (past.length + 20)).filter (· != '\n') ++
      if 20 < s.piece.length then "...".toList else [] := by
  -- No more than what is missing is taken from the rest, so that more than twenty characters come from a long match.
  have taken : (s.piece ++ s.rest.take (20 - s.piece.length)).take 20 = (s.piece ++ s.rest).take 20 := by
    rw [List.take_append, List.take_append, List.take_take, Nat.min_self]
  have long : (s.piece ++ s.rest.take (20 - s.piece.length)).length > 20 ↔ 20 < s.piece.length := by
    simp only [List.length_append, List.length_take]
    omega
  have cut : slice source past.length (past.length + 20) = (s.piece ++ s.rest).take 20 := by
    rw [slice, split, List.take_length_add_append, List.drop_left]
  rw [upcomingInput, excerptLength, taken, cut, withoutFeeds, List.filter_append]
  simp only [long]
  split <;> rfl

end

theorem State.betweenFeeds_showPosition (s : State σ) :
    Text.betweenFeeds s.showPosition =
      [s.pastInput ++ s.upcomingInput, List.replicate s.pastInput.length '-' ++ ['^']] := by
  have above : Text.OnOneLine (s.pastInput ++ s.upcomingInput) := by
    simpa [Text.OnOneLine] using ⟨s.onOneLine_pastInput, s.onOneLine_upcomingInput⟩
  have below : Text.OnOneLine (List.replicate s.pastInput.length '-' ++ ['^']) := by
    simp [Text.OnOneLine]
  rw [← List.singleton_append, ← Text.betweenFeeds_of_onOneLine above, ← Text.betweenFeeds_of_onOneLine below,
    ← Text.betweenFeeds_append]
  simp [showPosition]

/-! ## States -/

theorem Conserves.shows {source : Text} {s : State σ} (h : Conserves source s) :
    ∃ place, Shows source place s := by
  obtain ⟨past, matched⟩ := h.recent
  have split : source = past ++ (s.piece ++ s.rest) := by
    rw [← h.split, ← matched, List.append_assoc]
  refine ⟨past.length, ?_, State.pastInput_eq split matched.symm, State.upcomingInput_eq split,
    _, s.betweenFeeds_showPosition, ?_⟩
  · rw [h.offset_eq, ← matched, List.length_append]
    omega
  · have column : (List.replicate s.pastInput.length '-' ++ ['^']).idxOf '^' = s.pastInput.length := by
      simp [List.idxOf_append]
    exact ⟨column, by rw [column, List.drop_left]⟩

/-- Whatever is called, by actions or between calls, the scanner shows what stands in its source around the place
where the current match begins, in every state that it passes through, as long as nobody sets another input or
pushes other text back. -/
theorem excerpts_from_source (x : Session σ)
    (actions : ∀ rule condition, (x.scripts rule condition).Makes fun op => op.keepsSource = true)
    (program : Script σ) (calls : program.Makes fun op => op.keepsSource = true) (depth : Nat)
    (source : Text) (s : State σ) :
    ∀ now ∈ x.states depth program (s.setInput x.tables.ranges source), ∃ place, Shows source place now := by
  have conserves := (preserved_conserves x source).states actions depth program calls
    (conserves_setInput x.tables.ranges source s)
  exact fun now reached => (conserves now reached).shows

/-- A scanner that takes all of the rest in its first rule and rejects it, and that takes a line in its second rule
and gives back all but six characters of the current match. -/
def clipping : Session Unit where
  tables :=
    { matchers := [fun _ rest => some rest.length, fun _ rest => some (rest.takeWhile (· != '\n')).length]
      conditions := [(initialCondition, [0, 1])]
      backtracking := true
      action := fun _ _ => return .none }
  scripts
    | 0, _ => .call .reject fun _ => .yield .none
    | _, _ => .call (.less 6) fun _ => .call (.begin initialCondition) fun _ => .yield (.str "clip")
  steps := 2

def clippingCalls : Script Unit :=
  .call .lex fun _ => .call .more fun _ => .call .lex fun _ => .call .lex fun _ => .call .lex fun _ =>
    .call .lex fun _ => .call .input fun _ => .call .lex fun _ => .yield .none

def clipped : List (State Unit) :=
  clipping.states 1 clippingCalls
    (State.setInput false "let the excerpt begin\nhere and not before".toList { world := { memory := () } })

theorem excerpts_from_source_clipping :
    clipped.length = 69 ∧
      clipped.getLast?.map (·.showPosition) =
        some "...t the excerpt beginhere and not before\n----------------------^".toList ∧
      ∀ now ∈ clipped, ∃ place, Shows "let the excerpt begin\nhere and not before".toList place now := by
  refine ⟨by rfl, by rfl, excerpts_from_source clipping ?_ clippingCalls ?_ 1 _ _⟩
  · intro rule condition
    rcases rule with _ | rule
    · simp [clipping, Script.Makes, Operation.keepsSource]
    · simp [clipping, Script.Makes, Operation.keepsSource]
  · simp [clippingCalls, Script.Makes, Operation.keepsSource]

end LexGen.Scanner
