import LexGen.Proofs.Scanner.Attempted
import LexGen.Proofs.Scanner.Shortening

/-!
# Ranges of offsets

With the ranges option the location of a match has the offsets of its text in the source. They are computed from the
offset in which the last piece of the match begins, and from the length of the whole match.

* `Conserves.range`: what the offsets of a match are, in terms of where its text is in the source.
* `attempts_ranged`: the ranges of a run are right for matches in one piece. For a match that has been joined from
  several pieces, both ends are too large by the length of the earlier pieces.
* `joined_range_leaves_source`: a run with a range that ends after the source.
-/

namespace LexGen.Scanner

variable {σ : Type}

/-! ## Matches -/

/-- The text of a match is the part of the source between two offsets. The scanner is at the second one, and the
range of the match has both, too large by the length of its earlier pieces. -/
structure Ranged (source : Text) (earlier : Nat) (first last : Nat) (s : State σ) : Prop where
  first_le : first ≤ last
  last_le : last ≤ source.length
  offset : s.offset = last
  text : s.text = (source.take last).drop first
  range : s.loc.range = some ((first : Int) + earlier, (last : Int) + earlier)

theorem Ranged.of_stand {source : Text} {earlier first last : Nat} {s now : State σ}
    (h : Ranged source earlier first last s) (same : now.stand = s.stand) : Ranged source earlier first last now := by
  simp only [State.stand, State.place, Prod.mk.injEq] at same
  obtain ⟨⟨-, loc, -, -⟩, text, -, offset⟩ := same
  exact ⟨h.first_le, h.last_le, offset.trans h.offset, text.trans h.text, by rw [loc, h.range]⟩

theorem Conserves.range {source text : Text} {s : State σ} (h : Conserves source s) (next : text <+: s.rest) :
    ∃ first last, Ranged source s.piece.length first last (s.commit true text) := by
  obtain ⟨earlier, recent⟩ := h.recent
  obtain ⟨left, rest⟩ := next
  have whole : source = earlier ++ (s.piece ++ text) ++ left := by
    rw [← h.split, ← recent, ← rest]
    simp only [List.append_assoc]
  have last : (earlier ++ (s.piece ++ text)).length = earlier.length + (s.piece.length + text.length) := by
    rw [List.length_append, List.length_append]
  have offset : s.offset = (earlier.length + s.piece.length : Nat) := by
    rw [h.offset_eq, ← recent, List.length_append]
  refine ⟨earlier.length, (earlier ++ (s.piece ++ text)).length, ?_, ?_, ?_, ?_, ?_⟩
  · rw [last]
    exact Nat.le_add_right ..
  · conv_rhs => rw [whole, List.length_append]
    exact Nat.le_add_right ..
  · change s.offset + (text.length : Int) = _
    rw [offset, last]
    omega
  · change s.text ++ text = _
    rw [whole, List.take_left, List.drop_left, h.text_eq]
  · change some (s.offset, s.offset + ((s.text ++ text).length : Int)) = _
    rw [h.text_eq, List.length_append, offset, last]
    simp only [Option.some.injEq, Prod.mk.injEq]
    omega

/-! ## Runs -/

theorem Operation.keepsSource_of_staysPut {op : Operation} (stays : op.staysPut = true) : op.keepsSource = true := by
  cases op <;> first | rfl | cases stays

theorem Operation.keepsSource_of_scans {op : Operation} (scans : op.scans = true) : op.keepsSource = true := by
  cases op <;> first | rfl | cases scans

theorem Session.exists_step (x : Session σ) (depth : Nat) (program : Script σ) (s : State σ) :
    ∀ a ∈ x.attempts depth program s, ∃ now, a ∈ stepAttempts (x.tablesAt depth) now :=
  Script.forall_mem_record (by simp) (fun now a mem => ⟨now, mem⟩) x.steps program s

theorem Session.after_stand (x : Session σ)
    (actions : ∀ rule condition, (x.scripts rule condition).Makes fun op => op.staysPut = true) (depth : Nat)
    (program : Script σ) (s : State σ) :
    ∀ a ∈ x.attempts depth program s, a.kept = true → a.after.stand = a.entered.stand := by
  have attempt : ∀ rule text s, (attemptOf (x.tablesAt depth) rule text s).kept = true →
      (attemptOf (x.tablesAt depth) rule text s).after.stand =
        (attemptOf (x.tablesAt depth) rule text s).entered.stand := by
    intro rule text s kept
    have same := attemptOf_view (fun _ _ => State.stand_of_bearings)
      (fun rule condition s => State.stand_of_bearings (x.action_bearings actions depth rule condition s)) rule text s
    rw [same, kept, if_pos rfl]
    rfl
  exact Script.forall_mem_record (by simp)
    (forall_mem_stepRecord (by simp) fun rule text s _ => List.forall_mem_singleton.2 (attempt rule text s)) x.steps
    program s

/-- After every match of a run that has not been taken back, the text of the match is a part of the source that ends
where the scanner is. The range of the match has the offsets of that part if no match has been kept to be appended to;
otherwise both are too large by the length of the earlier pieces. -/
theorem attempts_ranged (x : Session σ) (ranges : x.tables.ranges = true)
    (actions : ∀ rule condition, (x.scripts rule condition).Makes fun op => op.staysPut = true)
    (program : Script σ) (calls : program.Makes fun op => op.staysPut = true ∨ op.scans = true) (depth : Nat)
    (source : Text) (s : State σ) :
    ∀ a ∈ x.attempts depth program (s.setInput x.tables.ranges source), a.kept = true →
      ∃ first last earlier, Ranged source earlier first last a.after ∧ earlier = a.source.piece.length ∧
        (a.source.more = false → earlier = 0) := by
  intro a mem kept
  have keeps : ∀ op : Operation, op.staysPut = true ∨ op.scans = true → op.keepsSource = true := fun op either =>
    either.elim Operation.keepsSource_of_staysPut Operation.keepsSource_of_scans
  have conserves : Conserves source a.source := (preserved_conserves x source).sources
    (fun rule condition => (actions rule condition).mono fun op => Operation.keepsSource_of_staysPut) depth program
    (calls.mono keeps) (conserves_setInput ..) a mem
  obtain ⟨now, stepped⟩ := x.exists_step depth program _ a mem
  obtain ⟨⟨entered, begins⟩, more, piece⟩ := source_of_mem_stepAttempts stepped
  obtain ⟨first, last, ranged⟩ := conserves.range begins
  rw [x.tablesAt_ranges, ranges] at entered
  rw [← entered] at ranged
  refine ⟨first, last, _, ranged.of_stand (x.after_stand actions depth program _ a mem kept), rfl, fun alone => ?_⟩
  rw [piece, State.piece_start (more ▸ alone), List.length_nil]

/-- The first rule rejects its match, the second one takes two characters at the beginning and asks for more, and the
third one takes two characters. -/
def gathering : Session Unit where
  tables :=
    { matchers := [fun _ _ => some 3, fun before _ => if before.isEmpty then some 2 else none, fun _ _ => some 2]
      conditions := [(initialCondition, [0, 1, 2])]
      backtracking := true
      ranges := true
      action := fun _ _ => return .none }
  scripts
    | 0, _ => .call .reject fun _ => .yield .none
    | 1, _ => .call .more fun _ => .yield .none
    | _, _ => .yield (.str "two")
  steps := 3

def gatheringCalls : Script Unit := .call .lex fun _ => .call .lex fun _ => .yield .none

def gatheringAttempts (source : String) : List (Attempt Unit) :=
  gathering.attempts 1 gatheringCalls (State.setInput true source.toList { world := { memory := () } })

/-- The range of the match in two pieces begins and ends two characters late, and the ranges of the others are right. -/
theorem attempts_ranged_gathering :
    ((gatheringAttempts "abcdef").filter (·.kept)).map (fun a => (a.after.text, a.after.offset, a.after.loc.range)) =
        [("ab".toList, 2, some (0, 2)), ("abcd".toList, 4, some (2, 6)), ("ef".toList, 6, some (4, 6))] ∧
      ∀ a ∈ gatheringAttempts "abcdef", a.kept = true →
        ∃ first last earlier, Ranged "abcdef".toList earlier first last a.after ∧
          earlier = a.source.piece.length ∧ (a.source.more = false → earlier = 0) := by
  refine ⟨by decide +kernel, attempts_ranged gathering rfl ?_ gatheringCalls ?_ 1 _ _⟩
  · intro rule condition
    rcases rule with _ | _ | rule <;> simp [gathering, Script.Makes, Operation.staysPut]
  · simp [gatheringCalls, Script.Makes, Operation.scans]

/-- A match of the whole source in two pieces has a range that ends after the source. -/
theorem joined_range_leaves_source :
    ∃ a ∈ gatheringAttempts "abcd", a.kept = true ∧ a.after.text = "abcd".toList ∧
      a.after.offset = "abcd".toList.length ∧ a.after.loc.range = some (2, 6) := by
  decide +kernel

end LexGen.Scanner
