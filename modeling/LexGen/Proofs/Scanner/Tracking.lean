import LexGen.Proofs.Scanner.Bearings
import LexGen.Proofs.Text.Append

/-!
# Lines and columns

The line and the column of the position are counted match by match. They come to what a count over all that has
been matched comes to, as long as no match ends within a line break.

* `Located` is the invariant: the counters of a state are right.
* `attempts_tracked`: the span of every match of a run is right, and every match begins where the one before
  has ended.
-/

namespace LexGen.Scanner

variable {σ : Type}

/-! ## Counting match by match -/

/-- The counters of a state are right: they say what a count over all that has been matched says. The position
is not within a line break. -/
structure Located (s : State σ) : Prop where
  line : s.line = Text.breakCount s.matched
  last_line : s.loc.lastLine = s.line + 1
  last_column : s.loc.lastColumn = (Text.lastLine s.matched).length
  whole : Text.cutsBreak s.matched s.rest = false

theorem Located.of_place {s now : State σ} (h : Located s) (same : now.place = s.place) : Located now := by
  simp only [State.place, Prod.mk.injEq] at same
  obtain ⟨line, loc, matched, rest⟩ := same
  exact ⟨by rw [line, matched, h.line], by rw [line, loc, h.last_line], by rw [loc, matched, h.last_column],
    by rw [matched, rest, h.whole]⟩

structure Attempt.Tracked (a : Attempt σ) : Prop where
  matched : a.entered.matched = a.source.matched ++ a.text
  line : a.entered.line = Text.breakCount a.entered.matched
  last_line : a.entered.loc.lastLine = a.entered.line + 1
  last_column : a.entered.loc.lastColumn = (Text.lastLine a.entered.matched).length
  first_line : a.entered.loc.firstLine = Text.breakCount a.source.matched + 1
  first_column : a.entered.loc.firstColumn = (Text.lastLine a.source.matched).length
  after : a.after.place = if a.kept then a.entered.place else a.source.place

theorem Located.commit {s : State σ} (h : Located s) (ranges : Bool) (n : Nat) :
    (s.commit ranges (s.rest.take n)).line = Text.breakCount (s.matched ++ s.rest.take n) ∧
      (s.commit ranges (s.rest.take n)).loc.lastColumn =
        (Text.lastLine (s.matched ++ s.rest.take n)).length := by
  have whole := Text.cutsBreak_take n h.whole
  constructor
  · change s.line + Text.breakCount (s.rest.take n) = _
    rw [Text.breakCount_append whole, h.line, Int.natCast_add]
  · change (if Text.breakCount (s.rest.take n) = 0 then s.loc.lastColumn + (s.rest.take n).length
      else ((Text.lastLine (s.rest.take n)).length : Int)) = _
    rw [Text.lastLine_append whole]
    split
    · rw [h.last_column, List.length_append, Int.natCast_add]
    · rfl

theorem Located.tracked {t : Tables σ}
    (action : ∀ rule condition s, (outcome (t.action rule condition) s).2.place = s.place) {s : State σ}
    (h : Located s) (rule n : Nat) : (attemptOf t rule (s.rest.take n) s).Tracked where
  matched := rfl
  line := (h.commit t.ranges n).1
  last_line := rfl
  last_column := (h.commit t.ranges n).2
  first_line := by
    change s.loc.lastLine = _
    rw [h.last_line, h.line]
    rfl
  first_column := h.last_column
  after := attemptOf_place action rule _ s

/-! ## Runs -/

/-- Every match begins where the last one before it ends that has been kept. -/
inductive Contiguous : Location → List (Attempt σ) → Location → Prop where
  | nil (loc : Location) : Contiguous loc [] loc
  | cons {a : Attempt σ} {attempts : List (Attempt σ)} {loc last : Location} :
      a.entered.loc.firstLine = loc.lastLine →
      a.entered.loc.firstColumn = loc.lastColumn →
      Contiguous (if a.kept then a.entered.loc else loc) attempts last →
      Contiguous loc (a :: attempts) last

theorem Contiguous.append {first between last : Location} {before after : List (Attempt σ)}
    (h : Contiguous first before between) (next : Contiguous between after last) :
    Contiguous first (before ++ after) last := by
  induction h with
  | nil loc => exact next
  | cons line column rest ih => exact .cons line column (ih next)

def Attempt.cutsBreak (a : Attempt σ) : Bool := Text.cutsBreak a.entered.matched a.entered.rest

def Tracks (s : State σ) (attempts : List (Attempt σ)) (now : State σ) : Prop :=
  Located s → (∀ a ∈ attempts, a.kept = true → a.cutsBreak = false) →
    Located now ∧ (∀ a ∈ attempts, a.Tracked) ∧ Contiguous s.loc attempts now.loc

theorem tracks_of_place {s now : State σ} (same : now.place = s.place) : Tracks s [] now := by
  intro h _
  refine ⟨h.of_place same, by simp, ?_⟩
  simp only [State.place, Prod.mk.injEq] at same
  rw [same.2.1]
  exact .nil s.loc

theorem Tracks.append {s between now : State σ} {first second : List (Attempt σ)}
    (before : Tracks s first between) (after : Tracks between second now) :
    Tracks s (first ++ second) now := by
  intro h whole
  obtain ⟨located, tracked, contiguous⟩ := before h fun a mem => whole a (List.mem_append_left _ mem)
  obtain ⟨located', tracked', contiguous'⟩ := after located fun a mem => whole a (List.mem_append_right _ mem)
  exact ⟨located', fun a mem => (List.mem_append.1 mem).elim (tracked a) (tracked' a),
    contiguous.append contiguous'⟩

theorem trail_tracks {t : Tables σ}
    (action : ∀ rule condition s, (outcome (t.action rule condition) s).2.place = s.place) :
    Trail t (fun _ => []) (fun rule text s => [attemptOf t rule text s]) Tracks where
  append := Tracks.append
  marked s := tracks_of_place rfl
  world s w := tracks_of_place rfl
  start s := tracks_of_place s.start_place
  attempt rule n s := by
    intro h whole
    have tracked := h.tracked action rule n
    have after := tracked.after
    have loc := congrArg (fun place => place.2.1) after
    have whole := whole _ (List.mem_singleton_self _)
    -- A match that is kept is not cut; one that is taken back leaves the position where it was.
    refine ⟨?_, by simpa using tracked, ?_⟩
    · cases kept : (attemptOf t rule (s.rest.take n) s).kept with
      | true =>
        rw [kept, if_pos rfl] at after
        exact Located.of_place ⟨tracked.line, tracked.last_line, tracked.last_column, whole kept⟩ after
      | false =>
        rw [kept, if_neg Bool.false_ne_true] at after
        exact h.of_place after
    · refine .cons rfl rfl ?_
      rw [apply_ite (fun place : Int × Location × Text × Text => place.2.1)] at loc
      exact loc ▸ .nil _

theorem located_setInput (ranges : Bool) (source : Text) (s : State σ) : Located (s.setInput ranges source) :=
  ⟨rfl, rfl, rfl, rfl⟩

/-- Whatever actions yield, reject, append or enter, and whatever is called in between: the span of every match
is right, and every match begins where the one before has ended, if no match ends within a line break. -/
theorem attempts_tracked (x : Session σ)
    (actions : ∀ rule condition, (x.scripts rule condition).Makes fun op => op.staysPut = true)
    (program : Script σ) (calls : program.Makes fun op => op.staysPut = true ∨ op.scans = true) (depth : Nat)
    (source : Text) (s : State σ)
    (whole : ∀ a ∈ x.attempts depth program (s.setInput x.tables.ranges source),
      a.kept = true → a.cutsBreak = false) :
    (∀ a ∈ x.attempts depth program (s.setInput x.tables.ranges source), a.Tracked) ∧
      ∃ last, Contiguous (s.setInput x.tables.ranges source).loc
        (x.attempts depth program (s.setInput x.tables.ranges source)) last := by
  have plain : ∀ (op : Operation) (s : State σ), (op.staysPut = true ∨ op.scans = true) → op.scans = false →
      Tracks s [] (op.after (x.tablesAt depth) s) := by
    intro op s allowed takesNone
    have stays : op.staysPut = true := allowed.resolve_right (by simp [takesNone])
    exact tracks_of_place (Operation.after_place _ stays s)
  have tracks := (trail_tracks (x.action_place actions depth)).play x.steps plain program calls
    (s.setInput x.tables.ranges source)
  obtain ⟨-, tracked, contiguous⟩ := tracks (located_setInput x.tables.ranges source s) whole
  exact ⟨tracked, _, contiguous⟩

def reluctant : Session Unit where
  tables :=
    { matchers := [fun _ _ => some 3, fun _ rest => if rest.head? = some '\r' then some 2 else none,
        fun _ _ => some 1]
      conditions := [(initialCondition, [0, 1, 2])]
      backtracking := true
      action := fun _ _ => return .none }
  scripts
    | 0, _ => .call .reject fun _ => .yield .none
    | 1, _ => .yield (.str "line")
    | _, _ => .call .more fun _ => .yield .none
  steps := 5

def reluctantCalls : Script Unit :=
  .call .lex fun _ => .call (.begin initialCondition) fun _ => .call .lex fun _ => .yield .none

def reluctantStart : State Unit := State.setInput false "a\r\nb".toList { world := { memory := () } }

theorem attempts_tracked_reluctant :
    (reluctant.attempts 1 reluctantCalls reluctantStart).map (fun a => (a.text, a.kept, a.entered.line)) =
        [("a\r\n".toList, false, 1), ("a".toList, true, 0), ("\r\nb".toList, false, 1), ("\r\n".toList, true, 1),
          ("b".toList, false, 1), ("b".toList, true, 1), ([], false, 1), ([], true, 1)] ∧
      (∀ a ∈ reluctant.attempts 1 reluctantCalls reluctantStart, a.Tracked) ∧
      ∃ last, Contiguous reluctantStart.loc (reluctant.attempts 1 reluctantCalls reluctantStart) last := by
  refine ⟨by rfl, attempts_tracked reluctant ?_ reluctantCalls ?_ 1 _ _ (by decide)⟩
  · intro rule condition
    rcases rule with _ | _ | rule
    · simp [reluctant, Script.Makes, Operation.staysPut]
    · trivial
    · simp [reluctant, Script.Makes, Operation.staysPut]
  · simp [reluctantCalls, Script.Makes, Operation.staysPut, Operation.scans]

end LexGen.Scanner
