import LexGen.Proofs.Scanner.Selection
import LexGen.Proofs.Scanner.Shortening

/-!
# Input character by character

An action can consume characters one after the other instead of matching them, and push them back again. Characters
are counted on the way in: only a line feed begins a line, and nothing begins a column. On the way out, and in a
match, lines are told apart by all line breaks.

* `outcome_inputs`: what consuming any number of characters does.
* `unput_inputs`: consuming characters and pushing them back leaves the scanner where it was, up to the line if
  there are carriage returns without a line feed, and to the column if a line break has been cut in two.
* `inputs_overshoot`: consuming the characters of a match instead of matching them.
-/

namespace LexGen.Scanner

variable {σ : Type}

/-! ## Consuming characters -/

def inputs : (count : Nat) → Run σ Text
  | 0 => return []
  | count + 1 => do
    let first ← input
    return first ++ (← inputs count)

def State.consumed (text : Text) (s : State σ) : State σ :=
  { s with
    before := text.reverse ++ s.before
    rest := s.rest.drop text.length
    text := s.text ++ text
    length := s.length + text.length
    line := s.line + text.count '\n'
    loc :=
      { s.loc with
        lastLine := s.loc.lastLine + text.count '\n'
        lastColumn := s.loc.lastColumn + Text.unfedCount text
        range := s.loc.range.map fun (first, last) => (first, last + text.length) }
    piece := s.piece ++ text
    matched := s.matched ++ text
    offset := s.offset + text.length }

theorem State.consumed_nil (s : State σ) : s.consumed [] = s := by
  obtain ⟨⟩ := s
  rename_i loc _ _ _ _ _ _ _ _
  obtain ⟨_, _, _, _, _ | _⟩ := loc <;> simp [consumed, Text.unfedCount]

theorem State.consumed_consume {c : Char} {rest : Text} {s : State σ} (left : s.rest = c :: rest) (text : Text) :
    (s.consume c rest).consumed text = s.consumed (c :: text) := by
  obtain ⟨⟩ := s
  rename_i loc _ _ _ _ _ _ _ _
  obtain ⟨_, _, _, _, range⟩ := loc
  cases left
  by_cases feed : c = '\n'
  · cases range <;> simp [consumed, consume, Location.extend, feed, Text.unfedCount]
    all_goals omega
  · cases range <;> simp [consumed, consume, Location.extend, feed, Text.unfedCount]
    all_goals omega

theorem outcome_inputs (count : Nat) (s : State σ) :
    outcome (inputs count) s = (.ok (s.rest.take count), s.consumed (s.rest.take count)) := by
  induction count generalizing s with
  | zero => rw [List.take_zero, s.consumed_nil]; rfl
  | succ count ih =>
    rw [inputs]
    cases left : s.rest with
    | nil =>
      have stays : outcome input s = (.ok [], s) := by
        rw [input, outcome_bind_ok (outcome_get s), left]
        rfl
      rw [outcome_bind_ok stays, outcome_bind, ih, left, List.take_nil, List.take_nil]
      rfl
    | cons c rest =>
      have moves : outcome input s = (.ok [c], s.consume c rest) := by
        rw [input, outcome_bind_ok (outcome_get s), left]
        rfl
      rw [outcome_bind_ok moves, outcome_bind, ih, List.take_succ_cons, ← State.consumed_consume left]
      rfl

/-! ## Pushing them back -/

/-- A text without the carriage return at its end, if the line feed that belongs to it comes next. -/
def uncut (text next : Text) : Text := if Text.cutsBreak text next then text.dropLast else text

theorem State.columnAfter_uncut (first : Int) (piece back : Text) :
    columnAfter first (Text.betweenBreaks (piece ++ back)) (Text.betweenBreaks back) =
      Text.endColumn first (uncut piece back) := by
  unfold uncut
  split
  · rename_i cut
    obtain ⟨ended, feed⟩ : piece.getLast? = some '\r' ∧ back.head? = some '\n' := by
      simpa [Text.cutsBreak] using cut
    obtain ⟨kept, rfl⟩ := List.getLast?_eq_some_iff.1 ended
    -- The break is found once in both texts together, and once in the second text.
    have same : Text.betweenBreaks ('\r' :: back) = Text.betweenBreaks back :=
      Text.betweenBreaks_of_cutsBreak (by simp [Text.cutsBreak, feed])
    rw [List.append_assoc, List.singleton_append, ← same, List.dropLast_concat]
    exact columnAfter_append first (by simp [Text.cutsBreak])
  · rename_i whole
    exact columnAfter_append first (Bool.not_eq_true _ ▸ whole)

/-- What is counted of the current match is right for a match that has not been appended to another one. -/
structure State.Alone (s : State σ) : Prop where
  length : s.length = s.text.length
  last_line : s.loc.lastLine = s.line + 1
  last_column : s.loc.lastColumn = Text.endColumn s.loc.firstColumn s.piece
  range : s.loc.range.map (fun (first, _) => (first, first + s.length)) = s.loc.range

theorem State.Alone.unput_consumed {s : State σ} (h : s.Alone) {text left : Text} (next : s.rest = text ++ left) :
    (s.consumed text).unput text =
      { s with
        before := []
        line := s.line - Text.loneReturns text
        loc :=
          { s.loc with
            lastLine := s.loc.lastLine - Text.loneReturns text
            lastColumn := Text.endColumn s.loc.firstColumn (uncut s.piece text) } } := by
  have rest : text ++ s.rest.drop text.length = s.rest := by rw [next, List.drop_left]
  have line : s.line + (text.count '\n' : Int) - (((Text.betweenBreaks text).length : Int) - 1) =
      s.line - Text.loneReturns text := by
    have some := List.length_pos_iff.2 (Text.betweenBreaks_ne_nil text)
    have count : (Text.betweenBreaks text).length - 1 = _ := Text.breakCount_eq text
    omega
  have offset : s.offset + (text.length : Int) - text.length = s.offset := Int.add_sub_cancel ..
  have range : (s.loc.range.map fun (first, last) => (first, last + (text.length : Int))).map
      (fun (first, _) => (first, first + (s.length + text.length) - text.length)) = s.loc.range := by
    rw [Option.map_map, ← h.range, Option.map_map]
    congr 1
    funext ⟨first, last⟩
    simp only [Function.comp_apply, Prod.mk.injEq, true_and]
    omega
  have last : s.line - (Text.loneReturns text : Int) + 1 = s.loc.lastLine - Text.loneReturns text := by
    rw [h.last_line]
    omega
  simp only [State.unput, State.consumed, rest, line, last, offset, range, Text.upTo_append, State.columnAfter_uncut,
    ← h.length]

/-- The scanner has been set on a text, or a match has been taken over that has not been appended to another one. Since
then nothing has been consumed or pushed back. -/
inductive Arrived : State σ → Prop where
  | set (ranges : Bool) (source : Text) (s : State σ) : Arrived (s.setInput ranges source)
  | matched {t : Tables σ} {s : State σ} {a : Attempt σ} :
      a ∈ stepAttempts t s → a.source.more = false → Arrived a.entered
  | stayed {s now : State σ} : Arrived s → now.bearings = s.bearings → Arrived now

theorem alone_commit (ranges : Bool) (text : Text) {s : State σ} (unappended : s.piece = []) :
    (s.commit ranges text).Alone where
  length := rfl
  last_line := rfl
  last_column := by
    rw [State.lastColumn_commit]
    change _ = Text.endColumn s.loc.lastColumn (s.piece ++ text)
    rw [unappended, List.nil_append]
  range := by cases ranges <;> rfl

theorem Arrived.alone {s : State σ} (arrived : Arrived s) : s.Alone := by
  induction arrived with
  | set ranges source s => exact ⟨rfl, rfl, rfl, by cases ranges <;> rfl⟩
  | matched mem unappended =>
    obtain ⟨enters, more, piece⟩ := source_of_mem_stepAttempts mem
    rw [enters.entered]
    exact alone_commit _ _ (piece.trans (State.piece_start (more.symm.trans unappended)))
  | stayed arrived same alone =>
    simp only [State.bearings, Prod.mk.injEq] at same
    obtain ⟨-, text, length, line, loc, piece, -, -⟩ := same
    exact ⟨by rw [length, text, alone.length], by rw [loc, line, alone.last_line],
      by rw [loc, piece, alone.last_column], by rw [loc, length, alone.range]⟩

/-- Characters that are consumed right after a match, or at the beginning, and then pushed back again: everything is as
it was, but for what is seen before the position, and but for these two. The line is too small by the number of
carriage returns that no line feed follows. If the first character is the line feed of a carriage return at the end
of the match, the column is that of the carriage return. -/
theorem unput_inputs (t : Tables σ) (steps : Nat) {s : State σ} (arrived : Arrived s) (count : Nat) :
    outcome (do (Operation.unput (← inputs count)).run t steps) s =
      (.ok .scanner,
        { s with
          before := []
          line := s.line - Text.loneReturns (s.rest.take count)
          loc :=
            { s.loc with
              lastLine := s.loc.lastLine - Text.loneReturns (s.rest.take count)
              lastColumn :=
                if Text.cutsBreak s.piece (s.rest.take count) then Text.endColumn s.loc.firstColumn s.piece.dropLast
                else s.loc.lastColumn } }) := by
  have alone := arrived.alone
  have column : (if Text.cutsBreak s.piece (s.rest.take count) then
      Text.endColumn s.loc.firstColumn s.piece.dropLast else s.loc.lastColumn) =
        Text.endColumn s.loc.firstColumn (uncut s.piece (s.rest.take count)) := by
    rw [uncut, alone.last_column]
    split <;> rfl
  rw [outcome_bind_ok (outcome_inputs count s), column,
    ← alone.unput_consumed (List.take_append_drop count s.rest).symm]
  rfl

def threes : Tables Unit where
  matchers := [fun _ _ => some 3]
  conditions := [(initialCondition, [0])]
  ranges := true
  action := fun _ _ => return .str "three"

def threesStart (source : String) : State Unit := State.setInput true source.toList { world := { memory := () } }

def threesMatched (source : String) : State Unit := (outcome (next threes) (threesStart source)).2

/-- A carriage return and a line feed come back to where they were, and the carriage return after them takes a line
off. -/
theorem unput_inputs_threes :
    Arrived (threesMatched "x\ny\r\n\rz") ∧
      (threesMatched "x\ny\r\n\rz").loc = ⟨1, 0, 2, 1, some (0, 3)⟩ ∧ (threesMatched "x\ny\r\n\rz").line = 1 ∧
      outcome (do (Operation.unput (← inputs 3)).run threes 0) (threesMatched "x\ny\r\n\rz") =
        (.ok .scanner,
          { threesMatched "x\ny\r\n\rz" with before := [], line := 0, loc := ⟨1, 0, 1, 1, some (0, 3)⟩ }) := by
  have mem : attemptOf threes 0 "x\ny".toList (threesStart "x\ny\r\n\rz").start ∈
      stepAttempts threes (threesStart "x\ny\r\n\rz") := List.mem_singleton_self _
  have arrived : Arrived (threesMatched "x\ny\r\n\rz") := .stayed (.matched mem rfl) rfl
  exact ⟨arrived, by decide +kernel, by decide +kernel, unput_inputs threes 0 arrived 3⟩

/-- A carriage return at the beginning of the source is consumed and pushed back, and so is a line feed after a match
that ends with a carriage return. -/
theorem returns_pushed_back :
    Arrived (threesStart "\r") ∧ (threesStart "\r").line = 0 ∧
      (outcome (do (Operation.unput (← inputs 1)).run threes 0) (threesStart "\r")).2.line = -1 ∧
      Arrived (threesMatched "ab\r\n") ∧ (threesMatched "ab\r\n").loc = ⟨1, 0, 2, 0, some (0, 3)⟩ ∧
      (outcome (do (Operation.unput (← inputs 1)).run threes 0) (threesMatched "ab\r\n")).2.loc =
        ⟨1, 0, 2, 2, some (0, 3)⟩ := by
  have mem : attemptOf threes 0 "ab\r".toList (threesStart "ab\r\n").start ∈
      stepAttempts threes (threesStart "ab\r\n") := List.mem_singleton_self _
  exact ⟨.set .., rfl, by decide +kernel, .stayed (.matched mem rfl) rfl, by decide +kernel, by decide +kernel⟩

/-! ## Consuming instead of matching -/

theorem moveLaws_lastLine (ranges : Bool) :
    MoveLaws ranges (fun _ => True) fun s : State σ => s.loc.lastLine = s.line + 1 where
  known _ _ same h := by
    have place := State.place_of_bearings same.1
    simp only [State.place, Prod.mk.injEq] at place
    rw [place.1, place.2.1, h]
  start s h := by
    have place := s.start_place
    simp only [State.place, Prod.mk.injEq] at place
    rw [place.1, place.2.1, h]
  commit _ _ _ := rfl
  consume {s c rest} _ h := by
    by_cases feed : c = '\n' <;> simp [State.consume, Location.extend, feed, h]
  setInput _ _ _ _ _ := rfl
  unput _ _ _ _ := rfl
  less _ _ _ _ := rfl

theorem State.consumed_commit (ranges : Bool) (text : Text) {s : State σ} (lastLine : s.loc.lastLine = s.line + 1) :
    (s.consumed text).line = (s.commit ranges text).line - Text.loneReturns text ∧
      (s.consumed text).loc.lastLine = (s.commit ranges text).loc.lastLine - Text.loneReturns text ∧
      (s.consumed text).loc.lastColumn =
        (s.commit ranges text).loc.lastColumn + Text.overshoot s.loc.lastColumn text := by
  have line : s.line + (text.count '\n' : Int) = s.line + Text.breakCount text - Text.loneReturns text := by
    rw [Text.breakCount_eq]
    omega
  refine ⟨line, ?_, ?_⟩
  · change s.loc.lastLine + (text.count '\n' : Int) = s.line + Text.breakCount text + 1 - Text.loneReturns text
    omega
  · rw [State.lastColumn_commit, ← Text.columns_eq]
    rfl

/-- The characters of a match are consumed one by one instead of being matched, in any state of any run. As much has
been matched then. The line is too small by the number of carriage returns that no line feed follows. The column is
right if the match is in one line, and otherwise it is too large by the column in which the match begins and the
characters, line feeds not counted, of the lines before the last. -/
theorem inputs_overshoot (x : Session σ) (depth : Nat) (program : Script σ) (source : Text) (s : State σ) :
    ∀ now ∈ x.states depth program (s.setInput x.tables.ranges source), ∀ t : Tables σ, ∀ a ∈ stepAttempts t now,
      ∃ read, outcome (inputs a.text.length) now = (.ok a.text, read) ∧
        read.matched = a.entered.matched ∧ read.offset = a.entered.offset ∧
        read.line = a.entered.line - Text.loneReturns a.text ∧
        read.loc.lastLine = a.entered.loc.lastLine - Text.loneReturns a.text ∧
        read.loc.lastColumn = a.entered.loc.lastColumn + Text.overshoot now.loc.lastColumn a.text := by
  intro now passed t a mem
  have lastLine : now.loc.lastLine = now.line + 1 :=
    (moveLaws_lastLine x.tables.ranges).preserved.states (fun _ _ => Script.makes_true _) depth program
      (Script.makes_true program) rfl now passed
  obtain ⟨⟨entered, begins⟩, -, bearings⟩ := bearings_of_mem_stepAttempts mem
  have offset : a.source.offset = now.offset := (congrArg (·.2.2.2) (State.stand_of_bearings bearings)).trans
    now.start_offset
  have place : a.source.place = now.place := (State.place_of_bearings bearings).trans now.start_place
  simp only [State.place, Prod.mk.injEq] at place
  obtain ⟨line, loc, matched, rest⟩ := place
  have taken : now.rest.take a.text.length = a.text := by
    rw [← rest, ← List.prefix_iff_eq_take.1 begins]
  have sameLine : (a.source.commit t.ranges a.text).line = (now.commit t.ranges a.text).line := by
    rw [State.commit, line]
    rfl
  have sameColumn : (a.source.commit t.ranges a.text).loc.lastColumn = (now.commit t.ranges a.text).loc.lastColumn := by
    rw [State.lastColumn_commit, State.lastColumn_commit, loc]
  obtain ⟨lines, lastLines, columns⟩ := State.consumed_commit t.ranges a.text lastLine
  have read := outcome_inputs a.text.length now
  rw [taken] at read
  rw [entered, sameLine, sameColumn]
  refine ⟨_, read, ?_, ?_, lines, ?_, columns⟩
  · change now.matched ++ a.text = a.source.matched ++ a.text
    rw [matched]
  · change now.offset + (a.text.length : Int) = a.source.offset + a.text.length
    rw [offset]
  · rw [lastLines]
    change (now.commit t.ranges a.text).line + 1 - _ = (a.source.commit t.ranges a.text).line + 1 - _
    rw [sameLine]

def threeByThree : Session Unit where
  tables := threes
  scripts _ _ := .yield (.str "three")
  steps := 1

def firstToken (source : String) : List (State Unit) :=
  threeByThree.states 1 (.call .lex fun _ => .yield .none) (threesStart source)

/-- The second match begins in the third column and has two line breaks, of which one is a carriage return. -/
theorem inputs_overshoot_threes :
    ∃ now ∈ firstToken "xyz\ra\n", ∃ a ∈ stepAttempts threes now,
      a.text = "\ra\n".toList ∧ a.entered.line = 2 ∧ a.entered.loc = ⟨1, 3, 3, 0, some (3, 6)⟩ ∧
        Text.loneReturns a.text = 1 ∧ Text.overshoot now.loc.lastColumn a.text = 5 ∧
        ∃ read, outcome (inputs a.text.length) now = (.ok a.text, read) ∧
          read.matched = a.entered.matched ∧ read.offset = a.entered.offset ∧
          read.line = a.entered.line - Text.loneReturns a.text ∧
          read.loc.lastLine = a.entered.loc.lastLine - Text.loneReturns a.text ∧
          read.loc.lastColumn = a.entered.loc.lastColumn + Text.overshoot now.loc.lastColumn a.text := by
  have passed : threesMatched "xyz\ra\n" ∈ firstToken "xyz\ra\n" :=
    List.mem_of_getElem? (show (firstToken "xyz\ra\n")[4]? = some _ from rfl)
  have mem : attemptOf threes 0 "\ra\n".toList (threesMatched "xyz\ra\n").start ∈
      stepAttempts threes (threesMatched "xyz\ra\n") := List.mem_singleton_self _
  exact ⟨_, passed, _, mem, rfl, by decide +kernel, by decide +kernel, by decide +kernel, by decide +kernel,
    inputs_overshoot threeByThree 1 _ _ { world := { memory := () } } _ passed threes _ mem⟩

/-- A line feed that is matched ends the column, and a line feed that is consumed does not. A carriage return begins a
line only if it is matched. -/
theorem consumed_breaks_uncounted :
    (∃ a ∈ stepAttempts threes (threesStart "ab\n"),
      a.text = "ab\n".toList ∧ a.entered.loc = ⟨1, 0, 2, 0, some (0, 3)⟩ ∧
        (outcome (inputs 3) (threesStart "ab\n")).2.loc = ⟨1, 0, 2, 2, some (0, 3)⟩) ∧
      ∃ a ∈ stepAttempts threes (threesStart "ab\r"),
        a.text = "ab\r".toList ∧ a.entered.line = 1 ∧ (outcome (inputs 3) (threesStart "ab\r")).2.line = 0 :=
  ⟨⟨_, List.mem_singleton_self _, by decide +kernel⟩, _, List.mem_singleton_self _, by decide +kernel⟩

end LexGen.Scanner
