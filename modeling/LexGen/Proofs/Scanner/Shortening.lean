import LexGen.Proofs.Scanner.Backtracking
import LexGen.Proofs.Scanner.Conservation
import LexGen.Proofs.Scanner.Tracking
import LexGen.Proofs.Text.Columns

/-!
# Shortening a match

An action can give back the end of its match. The line, the column and the offsets are then computed from the match
and from the text that is given back; they should come to what a shorter match would have left.

* `State.unput_commit`: what giving back the end of a match leaves. Only the column is computed in another way.
* `less_shortens_match`: a match that stands alone is shortened to what a shorter match would have been.
* `less_in_joined_match`: the column of a match that has been joined from several pieces is off by the length of
  the earlier pieces, unless there is a line break in what is kept.
-/

namespace LexGen.Scanner

variable {σ : Type}

/-! ## Giving back -/

theorem onward_natCast (text : Text) {n : Nat} (le : n ≤ text.length) : Text.onward text n = text.drop n := by
  rw [Text.onward, Text.position, if_neg (by omega), Int.toNat_natCast, Nat.min_eq_left le]

/-- The column is that of the end of what is kept, if `first` is the column in which the whole text begins. -/
theorem State.columnAfter_append (first : Int) {kept back : Text} (whole : Text.cutsBreak kept back = false) :
    columnAfter first (Text.betweenBreaks (kept ++ back)) (Text.betweenBreaks back) = Text.endColumn first kept := by
  obtain ⟨lines, last, head, others, before, after, both⟩ := Text.betweenBreaks_append whole
  have count : Text.breakCount kept = lines.length := by simp [Text.breakCount, before]
  have line : Text.lastLine kept = last := by simp [Text.lastLine, before]
  have anchor : ((lines ++ (last ++ head) :: others).length : Int) - ((head :: others).length : Int) =
      lines.length := by
    simp only [List.length_append, List.length_cons, Int.natCast_add]
    omega
  have split : (lines ++ (last ++ head) :: others).getD lines.length [] = last ++ head := by simp
  rw [columnAfter, Text.endColumn, both, after, anchor, count, line, if_neg (Int.not_lt.2 (Int.natCast_nonneg _)),
    Int.toNat_natCast, split, List.headD_cons, List.length_append]
  split <;> split <;> omega

theorem State.lastColumn_commit (ranges : Bool) (text : Text) (s : State σ) :
    (s.commit ranges text).loc.lastColumn = Text.endColumn s.loc.lastColumn text := by
  change (if Text.breakCount text = 0 then s.loc.lastColumn + (text.length : Int) else (Text.lastLine text).length) = _
  rw [Text.endColumn]
  split
  · rename_i unbroken
    rw [Text.lastLine_eq_self unbroken]
  · rw [Int.zero_add]

/-- Giving back the end of a match leaves what the rest of the match would have left, up to the column and to what
is seen before the position. -/
theorem State.unput_commit (ranges : Bool) {kept back left : Text} (s : State σ) (next : s.rest = kept ++ back ++ left)
    (whole : Text.cutsBreak kept back = false) :
    (s.commit ranges (kept ++ back)).unput back =
      { s.commit ranges kept with
        before := []
        loc :=
          { (s.commit ranges kept).loc with
            lastColumn := columnAfter s.loc.lastColumn (Text.betweenBreaks (s.piece ++ (kept ++ back)))
              (Text.betweenBreaks back) } } := by
  have rest : back ++ s.rest.drop (kept ++ back).length = s.rest.drop kept.length := by
    rw [next, List.drop_left, List.append_assoc, List.drop_left]
  have line : s.line + (Text.breakCount (kept ++ back) : Int) - (((Text.betweenBreaks back).length : Int) - 1) =
      s.line + Text.breakCount kept := by
    have some := List.length_pos_iff.2 (Text.betweenBreaks_ne_nil back)
    rw [Text.breakCount_append whole, Text.breakCount, Text.breakCount]
    omega
  have cut (earlier : Text) : Text.upTo (earlier ++ (kept ++ back))
      (((earlier ++ (kept ++ back)).length : Int) - (back.length : Int)) = earlier ++ kept := by
    rw [← List.append_assoc, Text.upTo_append]
  have range : (s.offset + ((s.text ++ (kept ++ back)).length : Int)) - (back.length : Int) =
      s.offset + ((s.text ++ kept).length : Int) := by
    simp only [List.length_append]
    omega
  have offset : s.offset + ((kept ++ back).length : Int) - (back.length : Int) = s.offset + kept.length := by
    rw [List.length_append]
    omega
  simp only [State.unput, State.commit, rest, line, cut, offset]
  cases ranges with
  | false => rfl
  | true => simp only [if_true, Option.map_some, range]

theorem State.less_commit (ranges : Bool) {text left : Text} (s : State σ) (next : s.rest = text ++ left) {n : Nat}
    (le : n ≤ text.length) (whole : Text.cutsBreak (s.piece ++ text.take n) (text.drop n) = false) :
    (s.commit ranges text).less (s.piece.length + n : Nat) =
      { s.commit ranges (text.take n) with
        before := []
        loc :=
          { (s.commit ranges (text.take n)).loc with
            lastColumn := Text.endColumn s.loc.lastColumn (s.piece ++ text.take n) } } := by
  have inside : s.piece.length + n ≤ (s.piece ++ text).length := by
    rw [List.length_append]
    omega
  have given : Text.onward (s.piece ++ text) (s.piece.length + n : Nat) = text.drop n := by
    rw [onward_natCast _ inside, ← List.drop_drop, List.drop_left]
  have wholeText : Text.cutsBreak (text.take n) (text.drop n) = false := by
    rcases List.eq_nil_or_concat (text.take n) with empty | ⟨kept, c, concat⟩
    · simp [Text.cutsBreak, empty]
    · simpa [Text.cutsBreak, concat] using whole
  have next' : s.rest = text.take n ++ text.drop n ++ left := by rw [List.take_append_drop, next]
  have unput := s.unput_commit ranges next' wholeText
  rw [← List.append_assoc, columnAfter_append _ whole, List.take_append_drop] at unput
  rw [less, ← unput, ← given]
  rfl

/-! ## Matches that stand alone -/

def State.stand (s : State σ) : (Int × Location × Text × Text) × Text × Text × Int :=
  (s.place, s.text, s.piece, s.offset)

theorem State.stand_of_bearings {s now : State σ} (same : now.bearings = s.bearings) : now.stand = s.stand := by
  have place := place_of_bearings same
  simp only [bearings, Prod.mk.injEq] at same
  obtain ⟨-, text, -, -, -, piece, -, offset⟩ := same
  rw [stand, stand, place, text, piece, offset]

/-- The attempt of a match that the input begins with. -/
structure Attempt.Enters (a : Attempt σ) (ranges : Bool) : Prop where
  entered : a.entered = a.source.commit ranges a.text
  begins : a.text <+: a.source.rest

theorem attemptOf_enters (t : Tables σ) (rule n : Nat) (s : State σ) :
    (attemptOf t rule (s.rest.take n) s).Enters t.ranges :=
  ⟨rfl, List.take_prefix n s.rest⟩

def stepAttempts (t : Tables σ) (s : State σ) : List (Attempt σ) :=
  stepRecord t (fun _ => []) (fun rule text s => [attemptOf t rule text s]) s

theorem source_of_mem_tryRecord {t : Tables σ} (backtracking : t.backtracking = true) (rules : List Nat)
    (s : State σ) :
    ∀ a ∈ tryRecord t (fun rule text s => [attemptOf t rule text s]) rules s,
      a.Enters t.ranges ∧ a.source.more = s.more ∧ a.source.bearings = s.bearings := by
  induction rules generalizing s with
  | nil => simp [tryRecord]
  | cons rule rules ih =>
    rw [tryRecord]
    cases matched : t.match? rule s.before s.rest with
    | error e => simp
    | ok found =>
      cases found with
      | none => exact ih s
      | some text =>
        obtain ⟨n, rfl⟩ := match?_some matched
        refine List.forall_mem_append.2 ⟨?_, ?_⟩
        · rw [List.forall_mem_singleton]
          exact ⟨attemptOf_enters t rule n s, rfl, rfl⟩
        · split
          · rename_i now ended
            split
            · -- A match that has been rejected is taken back.
              rename_i rejected
              rw [attempt_rejected backtracking ended rejected]
              exact ih _
            · simp
          · simp

/-- Every attempt of a step begins where the step begins, whatever the attempts before it have done. -/
theorem bearings_of_mem_stepAttempts {t : Tables σ} {s : State σ} {a : Attempt σ} (mem : a ∈ stepAttempts t s) :
    a.Enters t.ranges ∧ a.source.more = s.start.more ∧ a.source.bearings = s.start.bearings := by
  unfold stepAttempts stepRecord at mem
  split at mem
  · cases mem
  · rw [List.nil_append] at mem
    split at mem
    · cases mem
    · split at mem
      · rename_i backtracking
        exact source_of_mem_tryRecord backtracking _ _ a mem
      · split at mem
        · rename_i rule text won
          obtain ⟨n, rfl⟩ := match?_some ((select_some won).resolve_left (by simp))
          obtain rfl := List.mem_singleton.1 mem
          exact ⟨attemptOf_enters t rule n s.start, rfl, rfl⟩
        · cases mem

theorem source_of_mem_stepAttempts {t : Tables σ} {s : State σ} {a : Attempt σ} (mem : a ∈ stepAttempts t s) :
    a.Enters t.ranges ∧ a.source.more = s.start.more ∧ a.source.piece = s.start.piece := by
  obtain ⟨enters, more, bearings⟩ := bearings_of_mem_stepAttempts mem
  exact ⟨enters, more, congrArg (fun stand => stand.2.2.1) (State.stand_of_bearings bearings)⟩

theorem State.piece_start {s : State σ} (alone : s.start.more = false) : s.start.piece = [] := by
  unfold start at alone ⊢
  split at alone <;> dsimp only at alone ⊢ <;> split at alone <;> simp_all

/-- An action that begins by giving back the end of a match that stands alone is left with what a shorter match
would have left it: the same text, position, location and input, and all else, up to what is seen before the
position. -/
theorem less_shortens_match (t : Tables σ) (s : State σ) {a : Attempt σ} (mem : a ∈ stepAttempts t s)
    (alone : a.source.more = false) {n : Nat} (le : n ≤ a.text.length)
    (whole : Text.cutsBreak (a.text.take n) (a.text.drop n) = false) (steps : Nat) :
    outcome ((Operation.less n).run t steps) a.entered =
      (.ok .none, { a.source.commit t.ranges (a.text.take n) with before := [] }) := by
  obtain ⟨⟨entered, left, rest⟩, more, piece⟩ := source_of_mem_stepAttempts mem
  rw [State.piece_start (more ▸ alone)] at piece
  have shortened := a.source.less_commit t.ranges rest.symm le (by rw [piece]; exact whole)
  rw [piece, List.length_nil, Nat.zero_add, List.nil_append, ← State.lastColumn_commit t.ranges] at shortened
  change (Except.ok Value.none, a.entered.less n) = _
  rw [entered, shortened]

def sevens : Tables Unit where
  matchers := [fun _ _ => some 7]
  conditions := [(initialCondition, [0])]
  ranges := true
  action := fun _ _ => return .none

def sevensStart : State Unit :=
  { rest := "a\rb\r\ncde\n".toList, text := ['x'], line := 3, loc := { lastLine := 4, lastColumn := 5 },
    piece := ['x'], matched := ['x'], offset := 30, world := { memory := () } }

def sevensAttempt : Attempt Unit := attemptOf sevens 0 "a\rb\r\ncd".toList sevensStart.start

theorem less_shortens_match_sevens :
    sevensAttempt ∈ stepAttempts sevens sevensStart ∧ sevensAttempt.source.more = false ∧
      6 ≤ sevensAttempt.text.length ∧
      Text.cutsBreak (sevensAttempt.text.take 6) (sevensAttempt.text.drop 6) = false ∧
      (sevensAttempt.entered.less 6).loc = ⟨4, 5, 6, 1, some (30, 36)⟩ ∧
      outcome ((Operation.less (6 : Nat)).run sevens 0) sevensAttempt.entered =
        (.ok .none, { sevensAttempt.source.commit sevens.ranges (sevensAttempt.text.take 6) with before := [] }) := by
  have mem : sevensAttempt ∈ stepAttempts sevens sevensStart := List.mem_singleton_self sevensAttempt
  exact ⟨mem, rfl, by decide, by decide, by decide,
    less_shortens_match sevens sevensStart mem rfl (by decide) (by decide) 0⟩

/-! ## Matches that are joined -/

/-- The counters are right, and nothing of the source has been lost. -/
structure Joins (source : Text) (s : State σ) : Prop where
  located : Located s
  conserves : Conserves source s

/-- The action of a match has left the scanner where it was, or the match has been taken back. The match does not
end within a line break. -/
structure Attempt.Stays (a : Attempt σ) : Prop where
  after : a.after.stand = if a.kept then a.entered.stand else a.source.stand
  whole : a.kept = true → a.cutsBreak = false

theorem Operation.after_stand (t : Tables σ) {op : Operation} (stays : op.staysPut = true) (s : State σ) :
    (op.after t s).stand = s.stand :=
  State.stand_of_bearings (after_bearings t stays s)

namespace Joins

variable {source : Text} {s now : State σ}

theorem of_stand (h : Joins source s) (same : now.stand = s.stand) : Joins source now := by
  simp only [State.stand, Prod.mk.injEq] at same
  obtain ⟨place, text, piece, offset⟩ := same
  refine ⟨h.located.of_place place, ?_⟩
  simp only [State.place, Prod.mk.injEq] at place
  obtain ⟨-, -, matched, rest⟩ := place
  exact ⟨by rw [matched, rest, h.conserves.split], by rw [piece, matched]; exact h.conserves.recent,
    by rw [text, piece, h.conserves.text_eq], by rw [offset, matched, h.conserves.offset_eq], position_le_buffer now⟩

theorem start (h : Joins source s) : Joins source s.start :=
  ⟨h.located.of_place s.start_place, h.conserves.start⟩

theorem attempt {t : Tables σ} {rule n : Nat} (h : Joins source s)
    (stays : (attemptOf t rule (s.rest.take n) s).Stays) :
    Joins source (outcome (Scanner.attempt t rule (s.rest.take n)) s).2 := by
  have after := stays.after
  cases kept : (attemptOf t rule (s.rest.take n) s).kept with
  | true =>
    rw [kept, if_pos rfl] at after
    obtain ⟨line, column⟩ := h.located.commit t.ranges n
    have entered : Joins source (s.commit t.ranges (s.rest.take n)) :=
      ⟨⟨line, rfl, column, stays.whole kept⟩, h.conserves.commit t.ranges n⟩
    exact entered.of_stand after
  | false =>
    rw [kept, if_neg Bool.false_ne_true] at after
    exact h.of_stand after

end Joins

/-- As long as the actions stay where they are, the counters are right when the next match is attempted. -/
def JoinsUntil (ranges : Bool) (source : Text) (s : State σ) (attempts : List (Attempt σ)) (now : State σ) : Prop :=
  Joins source s →
    (∀ before a after, attempts = before ++ a :: after → (∀ b ∈ before, b.Stays) →
      a.Enters ranges ∧ Joins source a.source) ∧
    ((∀ b ∈ attempts, b.Stays) → Joins source now)

theorem joinsUntil_of_stand {ranges : Bool} {source : Text} {s now : State σ} (same : now.stand = s.stand) :
    JoinsUntil ranges source s [] now :=
  fun h => ⟨by simp, fun _ => h.of_stand same⟩

theorem JoinsUntil.append {ranges : Bool} {source : Text} {s between now : State σ} {first second : List (Attempt σ)}
    (one : JoinsUntil ranges source s first between) (two : JoinsUntil ranges source between second now) :
    JoinsUntil ranges source s (first ++ second) now := by
  intro h
  obtain ⟨attempts, joins⟩ := one h
  refine ⟨?_, fun stays => ?_⟩
  · intro before a after split stays
    rcases List.append_eq_append_iff.1 split with ⟨more, rfl, rest⟩ | ⟨more, rest, attempted⟩
    · rw [List.forall_mem_append] at stays
      exact (two (joins stays.1)).1 more a after rest stays.2
    · cases more with
      | nil =>
        rw [List.append_nil] at rest
        exact (two (joins (rest ▸ stays))).1 [] a after attempted.symm (by simp)
      | cons c more =>
        obtain ⟨rfl, rfl⟩ := List.cons.inj attempted
        exact attempts before a more rest stays
  · rw [List.forall_mem_append] at stays
    exact (two (joins stays.1)).2 stays.2

theorem trail_joinsUntil (t : Tables σ) (source : Text) :
    Trail t (fun _ => []) (fun rule text s => [attemptOf t rule text s]) (JoinsUntil t.ranges source) where
  append := JoinsUntil.append
  marked s := joinsUntil_of_stand rfl
  world s w := joinsUntil_of_stand rfl
  start s h := ⟨by simp, fun _ => h.start⟩
  attempt rule n s h := by
    refine ⟨?_, fun stays => h.attempt (stays _ (List.mem_singleton_self _))⟩
    intro before a after split _
    cases before with
    | nil =>
      obtain ⟨rfl, -⟩ := List.cons.inj split
      exact ⟨attemptOf_enters t rule n s, h⟩
    | cons b before => simp at split

theorem Session.joins_until (x : Session σ) (depth : Nat) {program : Script σ}
    (calls : program.Makes fun op => op.staysPut = true ∨ op.scans = true) (source : Text) (s : State σ) :
    JoinsUntil x.tables.ranges source (s.setInput x.tables.ranges source)
      (x.attempts depth program (s.setInput x.tables.ranges source))
      (outcome (program.play (x.tablesAt depth) x.steps) (s.setInput x.tables.ranges source)).2 := by
  rw [← x.tablesAt_ranges depth]
  refine (trail_joinsUntil (x.tablesAt depth) source).play x.steps (fun op s allowed takesNone => ?_) program calls _
  have stays : op.staysPut = true := allowed.resolve_right (by simp [takesNone])
  exact joinsUntil_of_stand (Operation.after_stand _ stays s)

/-! ## Shortening a match that is joined -/

/-- The scanner is at an offset of the source. The line of its location is that of the offset, and the column is too
large by `excess`. -/
structure Misplaced (source : Text) (offset : Nat) (excess : Int) (s : State σ) : Prop where
  offset_eq : s.offset = offset
  matched : s.matched = source.take offset
  rest : s.rest = source.drop offset
  last_line : s.loc.lastLine = Text.breakCount (source.take offset) + 1
  last_column : s.loc.lastColumn = (Text.lastLine (source.take offset)).length + excess

/-- The first column of a joined match is that of its last piece. It is taken for the column in which the whole match
begins. -/
theorem Joins.column_less {source kept : Text} {s : State σ} (h : Joins source s)
    (inLine : Text.cutsBreak s.matched kept = false) :
    Text.endColumn s.loc.lastColumn (s.piece ++ kept) =
      (Text.lastLine (s.matched ++ kept)).length +
        if Text.breakCount (s.piece ++ kept) = 0 then (s.piece.length : Int) else 0 := by
  by_cases unbroken : Text.breakCount (s.piece ++ kept) = 0
  · have unbrokenEnd : Text.breakCount kept = 0 :=
      Decidable.byContradiction fun broken => (Text.lastLine_append_of_broken s.piece broken).1 unbroken
    rw [Text.endColumn, if_pos unbroken, if_pos unbroken, Text.lastLine_eq_self unbroken, Text.lastLine_append inLine,
      if_pos unbrokenEnd, h.located.last_column, List.length_append, List.length_append]
    omega
  · obtain ⟨earlier, recent⟩ := h.conserves.recent
    rw [Text.endColumn, if_neg unbroken, if_neg unbroken, ← recent, List.append_assoc,
      (Text.lastLine_append_of_broken earlier unbroken).2, Int.zero_add, Int.add_zero]

theorem Joins.less_commit {source text left : Text} {s : State σ} (h : Joins source s) (ranges : Bool)
    (next : s.rest = text ++ left) {m : Nat} (le : m ≤ text.length)
    (whole : Text.cutsBreak (s.piece ++ text.take m) (text.drop m) = false) :
    ((s.commit ranges text).less (s.piece.length + m : Nat)).piece = s.piece ++ text.take m ∧
      Misplaced source (s.matched ++ text.take m).length
        (if Text.breakCount (s.piece ++ text.take m) = 0 then (s.piece.length : Int) else 0)
        ((s.commit ranges text).less (s.piece.length + m : Nat)) := by
  have split : s.rest = text.take m ++ (text.drop m ++ left) := by
    rw [next, ← List.append_assoc, List.take_append_drop]
  have front : source = (s.matched ++ text.take m) ++ (text.drop m ++ left) := by
    rw [List.append_assoc, ← split, h.conserves.split]
  have position : source.take (s.matched ++ text.take m).length = s.matched ++ text.take m := by
    rw [front, List.take_left]
  have inLine : Text.cutsBreak s.matched (text.take m) = false := by
    have inRest := Text.cutsBreak_take (text.take m).length h.located.whole
    rwa [split, List.take_left] at inRest
  rw [s.less_commit ranges next le whole]
  refine ⟨rfl, ?_, position.symm, ?_, ?_, ?_⟩
  · change s.offset + ((text.take m).length : Int) = _
    rw [h.conserves.offset_eq, List.length_append, Int.natCast_add]
  · change s.rest.drop (text.take m).length = _
    rw [split, List.drop_left, front, List.drop_left]
  · change s.line + (Text.breakCount (text.take m) : Int) + 1 = _
    rw [position, Text.breakCount_append inLine, h.located.line, Int.natCast_add]
  · rw [position]
    exact h.column_less inLine

/-- What an action is left with that begins by giving back the end of a match, but nothing of its earlier pieces,
when the actions before have left the scanner where it was: the line is that of the position in the source. The
column is, too, if there is a line break in what is kept or there are no earlier pieces; otherwise it is too large by
their length. -/
theorem less_in_joined_match (x : Session σ) (depth : Nat) (program : Script σ)
    (calls : program.Makes fun op => op.staysPut = true ∨ op.scans = true) (source : Text) (s : State σ)
    {before after : List (Attempt σ)} {a : Attempt σ}
    (attempts : x.attempts depth program (s.setInput x.tables.ranges source) = before ++ a :: after)
    (stayed : ∀ b ∈ before, b.Stays) {n : Nat} (least : a.source.piece.length ≤ n)
    (most : n ≤ a.entered.piece.length)
    (whole : Text.cutsBreak (a.entered.piece.take n) (a.entered.piece.drop n) = false) (steps : Nat) :
    ∃ now offset, outcome ((Operation.less n).run (x.tablesAt depth) steps) a.entered = (.ok .none, now) ∧
      now.piece = a.entered.piece.take n ∧
      Misplaced source offset (if Text.breakCount now.piece = 0 then (a.source.piece.length : Int) else 0) now := by
  have joined := x.joins_until depth calls source s ⟨located_setInput .., conserves_setInput ..⟩
  obtain ⟨⟨entered, left, rest⟩, joins⟩ := joined.1 before a after attempts stayed
  obtain ⟨m, rfl⟩ := Nat.exists_eq_add_of_le least
  have pieces : a.entered.piece = a.source.piece ++ a.text := by rw [entered]; rfl
  have le : m ≤ a.text.length := by
    rw [pieces, List.length_append] at most
    omega
  have taken : a.entered.piece.take (a.source.piece.length + m) = a.source.piece ++ a.text.take m := by
    rw [pieces, List.take_append, List.take_of_length_le (by omega), Nat.add_sub_cancel_left]
  have dropped : a.entered.piece.drop (a.source.piece.length + m) = a.text.drop m := by
    rw [pieces, ← List.drop_drop, List.drop_left]
  rw [taken, dropped] at whole
  obtain ⟨kept, misplaced⟩ := joins.less_commit x.tables.ranges rest.symm le whole
  rw [← entered] at kept misplaced
  rw [← kept] at misplaced
  exact ⟨_, _, rfl, kept.trans taken.symm, misplaced⟩

/-- The first rule matches two characters and asks for more, and the second one gives back the last character of its
match. -/
def joining : Session Unit where
  tables :=
    { matchers := [fun before _ => if before.length < 2 then some 2 else none, fun _ _ => some 2]
      conditions := [(initialCondition, [0, 1])]
      action := fun _ _ => return .none }
  scripts
    | 0, _ => .call .more fun _ => .yield .none
    | _, _ => .call (.less 3) fun _ => .yield (.str "three")
  steps := 3

def joiningStart : State Unit := { world := { memory := () } }

def joiningAttempts (source : String) : List (Attempt Unit) :=
  joining.attempts 1 (.call .lex fun _ => .yield .none) (joiningStart.setInput false source.toList)

/-- The letters before the end of what is kept are counted twice: those that the first rule has matched are before
the first column of the second match, and they are in the line that is kept. -/
theorem joined_match_misplaced :
    (joiningAttempts "abcd").map (fun a => (a.source.more, a.source.piece, a.text)) =
        [(false, [], "ab".toList), (true, "ab".toList, "cd".toList)] ∧
      (joiningAttempts "abcd").getLast?.map (fun a =>
        ((a.entered.less 3).offset, (a.entered.less 3).loc.lastColumn, (a.source.commit false ['c']).loc.lastColumn)) =
        some (3, 5, 3) ∧
      (Text.lastLine ("abcd".toList.take 3)).length = 3 := by
  decide +kernel

def firstPiece (source : String) : Attempt Unit :=
  attemptOf (joining.tablesAt 1) 0 (source.toList.take 2) (joiningStart.setInput false source.toList).start

def secondPiece (source : String) : Attempt Unit :=
  attemptOf (joining.tablesAt 1) 1 (source.toList.drop 2) (firstPiece source).after.start

theorem less_in_joined_match_joining :
    (∃ now offset, outcome ((Operation.less (3 : Nat)).run (joining.tablesAt 1) 0) (secondPiece "abcd").entered =
        (.ok .none, now) ∧ now.piece = "abc".toList ∧ Misplaced "abcd".toList offset 2 now) ∧
      ∃ now offset, outcome ((Operation.less (3 : Nat)).run (joining.tablesAt 1) 0) (secondPiece "a\ncd").entered =
        (.ok .none, now) ∧ now.piece = "a\nc".toList ∧ Misplaced "a\ncd".toList offset 0 now := by
  have calls : (Script.call .lex fun _ => .yield .none : Script Unit).Makes
      fun op => op.staysPut = true ∨ op.scans = true := by
    simp [Script.Makes, Operation.scans]
  constructor
  · have attempts : joiningAttempts "abcd" = [firstPiece "abcd"] ++ secondPiece "abcd" :: [] := rfl
    have stays : (firstPiece "abcd").Stays := ⟨rfl, fun _ => by decide +kernel⟩
    obtain ⟨now, offset, ended, piece, misplaced⟩ :=
      less_in_joined_match joining 1 _ calls "abcd".toList joiningStart attempts (List.forall_mem_singleton.2 stays)
        (n := 3) (by decide +kernel) (by decide +kernel) (by decide +kernel) 0
    rw [piece] at misplaced
    exact ⟨now, offset, ended, piece, misplaced⟩
  · have attempts : joiningAttempts "a\ncd" = [firstPiece "a\ncd"] ++ secondPiece "a\ncd" :: [] := rfl
    have stays : (firstPiece "a\ncd").Stays := ⟨rfl, fun _ => by decide +kernel⟩
    obtain ⟨now, offset, ended, piece, misplaced⟩ :=
      less_in_joined_match joining 1 _ calls "a\ncd".toList joiningStart attempts (List.forall_mem_singleton.2 stays)
        (n := 3) (by decide +kernel) (by decide +kernel) (by decide +kernel) 0
    rw [piece] at misplaced
    exact ⟨now, offset, ended, piece, misplaced⟩

end LexGen.Scanner
