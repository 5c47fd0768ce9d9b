import LexGen.Proofs.Scanner.Script

/-!
# Trails

How the record of a run hangs together with the states in which the run begins and ends. A relation between
the three that holds of the parts of a step holds of steps, of calls and of scripts.
-/

namespace LexGen.Scanner

variable {σ α : Type}

/-! ## Matches -/

theorem match?_some {t : Tables σ} {rule : Nat} {before rest text : Text}
    (h : t.match? rule before rest = .ok (some text)) : ∃ n, text = rest.take n := by
  unfold Tables.match? at h
  split at h
  · rename_i matcher _
    simp only [Except.ok.injEq, Option.map_eq_some_iff] at h
    obtain ⟨n, -, rfl⟩ := h
    exact ⟨n, rfl⟩
  · cases h

theorem better_cases (best : Option (Nat × Text)) (rule : Nat) (found : Text) :
    better best rule found = best ∨ better best rule found = some (rule, found) := by
  cases best with
  | none => exact Or.inr rfl
  | some best =>
    unfold better
    dsimp only
    split
    · exact Or.inl rfl
    · exact Or.inr rfl

theorem select_some {t : Tables σ} {before rest : Text} {rules : List Nat} {best : Option (Nat × Text)}
    {rule : Nat} {text : Text} (h : t.select before rest rules best = .ok (some (rule, text))) :
    best = some (rule, text) ∨ t.match? rule before rest = .ok (some text) := by
  induction rules generalizing best with
  | nil =>
    rw [Tables.select, Except.ok.injEq] at h
    exact Or.inl h
  | cons first rules ih =>
    rw [Tables.select] at h
    split at h
    · cases h
    · exact ih h
    · rename_i found matched
      split at h
      · rcases ih h with won | won
        · rcases better_cases best first found with same | same
          · exact Or.inl (same ▸ won)
          · rw [same, Option.some.injEq, Prod.mk.injEq] at won
            obtain ⟨rfl, rfl⟩ := won
            exact Or.inr matched
        · exact Or.inr won
      · rw [Except.ok.injEq, Option.some.injEq, Prod.mk.injEq] at h
        obtain ⟨rfl, rfl⟩ := h
        exact Or.inr matched

theorem state_unmatched (s : State σ) : ∃ w, (outcome (unmatched : Run σ Value) s).2 = { s with world := w } := by
  rw [outcome_unmatched]
  split
  · exact ⟨s.world, rfl⟩
  · exact state_reportHere _ s

/-! ## Calls that take no steps -/

def Operation.after (t : Tables σ) : Operation → State σ → State σ
  | setInput text _, s => s.setInput t.ranges text
  | input, s =>
    match s.rest with
    | [] => s
    | c :: rest => s.consume c rest
  | unput text, s => s.unput text
  | less n, s => s.less n
  | more, s => { s with more := true }
  | reject, s => if t.backtracking then { s with rejected := true } else s
  | begin condition, s => s.begin condition
  | popState, s => (s.popState.map (·.2)).getD s
  | _, s => s

def Operation.scans : Operation → Bool
  | next | lex => true
  | _ => false

def Operation.pushesBack : Operation → Bool
  | unput _ | less _ => true
  | _ => false

theorem state_run (t : Tables σ) (steps : Nat) {op : Operation} (plain : op.scans = false) (s : State σ) :
    ∃ w, (outcome (op.run t steps) s).2 = { op.after t s with world := w } := by
  cases op with
  | next => cases plain
  | lex => cases plain
  | setInput text shared =>
    refine ⟨(shared.map fun shared => { s.world with shared := shared }).getD s.world, ?_⟩
    rw [Operation.run, Operation.startOn, outcome_bind_ok (outcome_modify _ s)]
    cases shared <;> rfl
  | input =>
    refine ⟨s.world, ?_⟩
    rw [Operation.run, outcome_bind, input, outcome_bind_ok (outcome_get s)]
    obtain ⟨before, rest⟩ := s
    cases rest <;> rfl
  | reject =>
    rw [Operation.run, reject, Operation.after]
    split
    · exact ⟨s.world, rfl⟩
    · exact state_reportHere _ s
  | report message details => exact state_report message details s
  | echo text => exact ⟨_, rfl⟩
  | popState =>
    refine ⟨s.world, ?_⟩
    rw [Operation.run, Operation.leaveCondition, outcome_bind_ok (outcome_get s), Operation.after]
    obtain ⟨⟩ := s
    rename_i conditions _
    rcases conditions with _ | ⟨condition, _ | _⟩ <;> rfl
  | currentRules =>
    refine ⟨s.world, ?_⟩
    rw [Operation.run, outcome_bind_ok (outcome_get s), outcome_bind, outcome_lift]
    cases t.currentRules s <;> rfl
  | _ => exact ⟨s.world, rfl⟩

theorem callRecord_plain {t : Tables σ} {mark : State σ → List α} {each : Nat → Text → State σ → List α}
    {steps : Nat} {op : Operation} (plain : op.scans = false) (s : State σ) :
    callRecord t mark each steps op s = [] := by
  cases op <;> first | rfl | cases plain

/-! ## Attempts -/

/-- A match is taken back to the state before it, or it is kept with all that its action has done. -/
theorem attemptOf_cases (t : Tables σ) (rule : Nat) (text : Text) (s : State σ) :
    ((attemptOf t rule text s).kept = false ∧ ∃ now, (attemptOf t rule text s).after = s.restore now) ∨
      ((attemptOf t rule text s).kept = true ∧ ∃ acted w,
        (acted = s.commit t.ranges text ∨ ∃ condition, s.conditions.head? = some condition ∧
          acted = (outcome (t.action rule condition) (s.commit t.ranges text)).2) ∧
        ((attemptOf t rule text s).after = { acted with world := w } ∨
          (attemptOf t rule text s).after = { acted.reopen with world := w })) := by
  unfold attemptOf
  rw [outcome_attempt]
  split
  · exact Or.inr ⟨rfl, _, _, Or.inl rfl, Or.inl rfl⟩
  · rename_i condition _ conditions
    have entered : s.conditions.head? = some condition := by rw [conditions]; rfl
    split
    · rename_i ended
      exact Or.inr ⟨rfl, _, _, Or.inr ⟨condition, entered, rfl⟩, Or.inl (by rw [ended])⟩
    · rename_i now ended
      have acted : now = (outcome (t.action rule condition) (s.commit t.ranges text)).2 := by rw [ended]
      simp only [concluded]
      split
      · rename_i rejected
        cases backtracking : t.backtracking with
        | true => exact Or.inl ⟨by simp [keepsMatch, backtracking, State.restore, rejected], now.reopen, rfl⟩
        | false =>
          exact Or.inr ⟨by simp [keepsMatch, backtracking], now, now.reopen.world,
            Or.inr ⟨condition, entered, acted⟩, Or.inr rfl⟩
      · rename_i accepted
        rw [Bool.not_eq_true] at accepted
        split
        · obtain ⟨w, told⟩ := state_reportHere (stuckComplaint rule) now.reopen
          exact Or.inr ⟨keepsMatch_of_accepted t (by rw [told]; exact accepted), now, w,
            Or.inr ⟨condition, entered, acted⟩, Or.inr told⟩
        · exact Or.inr ⟨keepsMatch_of_accepted t accepted, now, now.reopen.world,
            Or.inr ⟨condition, entered, acted⟩, Or.inr rfl⟩
    · rename_i now noToken ended
      have acted : now = (outcome (t.action rule condition) (s.commit t.ranges text)).2 := by rw [ended]
      refine Or.inr ⟨?_, now, now.reopen.world, Or.inr ⟨condition, entered, acted⟩, Or.inr rfl⟩
      unfold keepsMatch
      split
      · rename_i none
        rw [Prod.mk.injEq, Except.ok.injEq] at none
        exact (noToken none.1).elim
      · rfl

/-! ## Trails -/

/-- A relation between the state in which a part of a run begins, what the part records, and the state in which
it ends. Runs are put together from parts without a record and from attempts. -/
structure Trail (t : Tables σ) (mark : State σ → List α) (each : Nat → Text → State σ → List α)
    (W : State σ → List α → State σ → Prop) : Prop where
  append : ∀ {s between now first second}, W s first between → W between second now → W s (first ++ second) now
  marked : ∀ s, W s (mark s) s
  world : ∀ s w, W s [] { s with world := w }
  start : ∀ s, W s [] s.start
  attempt : ∀ rule n s, W s (each rule (s.rest.take n) s) (outcome (Scanner.attempt t rule (s.rest.take n)) s).2

namespace Trail

variable {t : Tables σ} {mark : State σ → List α} {each : Nat → Text → State σ → List α}
  {W : State σ → List α → State σ → Prop}

theorem nothing (trail : Trail t mark each W) (s : State σ) : W s [] s :=
  trail.world s s.world

theorem unmatched (trail : Trail t mark each W) (s : State σ) :
    W s [] (outcome (Scanner.unmatched : Run σ Value) s).2 := by
  obtain ⟨w, same⟩ := state_unmatched s
  rw [same]
  exact trail.world s w

theorem tryRules (trail : Trail t mark each W) (rules : List Nat) (s : State σ) :
    W s (tryRecord t each rules s) (outcome (Scanner.tryRules t rules) s).2 := by
  induction rules generalizing s with
  | nil => exact trail.unmatched s
  | cons rule rules ih =>
    rw [outcome_tryRules_cons, tryRecord]
    cases matched : t.match? rule s.before s.rest with
    | error e => exact trail.nothing s
    | ok found =>
      cases found with
      | none => exact ih s
      | some text =>
        obtain ⟨n, rfl⟩ := match?_some matched
        have attempted := trail.attempt rule n s
        dsimp only
        rcases ended : outcome (Scanner.attempt t rule (s.rest.take n)) s with ⟨_ | token, now⟩
        · rw [ended] at attempted
          exact trail.append attempted (trail.nothing now)
        · rw [ended] at attempted
          cases token
          case none =>
            dsimp only
            split
            · exact trail.append attempted (ih now)
            · exact trail.append attempted (trail.nothing now)
          all_goals exact trail.append attempted (trail.nothing now)

theorem next (trail : Trail t mark each W) (s : State σ) :
    W s (stepRecord t mark each s) (outcome (Scanner.next t) s).2 := by
  have started := trail.append (trail.start s) (trail.marked s.start)
  rw [List.nil_append] at started
  rw [outcome_next, stepRecord]
  split
  · exact trail.nothing s
  · apply trail.append started
    cases t.currentRules s.start with
    | error e => exact trail.nothing s.start
    | ok rules =>
      dsimp only
      split
      · exact trail.tryRules rules s.start
      · cases won : t.select s.start.before s.start.rest rules none with
        | error e => exact trail.nothing s.start
        | ok best =>
          rcases best with _ | ⟨rule, text⟩
          · exact trail.unmatched s.start
          · obtain ⟨n, rfl⟩ := match?_some ((select_some won).resolve_left (by simp))
            exact trail.attempt rule n s.start

theorem lex? (trail : Trail t mark each W) (steps : Nat) (s : State σ) :
    W s (lexRecord t mark each steps s) (outcome (Scanner.lex? t steps) s).2 := by
  induction steps generalizing s with
  | zero => exact trail.nothing s
  | succ steps ih =>
    have stepped := trail.next s
    rw [outcome_lex?_succ, lexRecord]
    rcases ended : outcome (Scanner.next t) s with ⟨_ | token, now⟩
    · rw [ended] at stepped
      exact trail.append stepped (trail.nothing now)
    · rw [ended] at stepped
      cases token
      case none => exact trail.append stepped (trail.append (trail.marked now) (ih now))
      all_goals exact trail.append stepped (trail.nothing now)

theorem run (trail : Trail t mark each W) (steps : Nat) {op : Operation}
    (plain : ∀ s, op.scans = false → W s [] (op.after t s)) (s : State σ) :
    W s (callRecord t mark each steps op s) (outcome (op.run t steps) s).2 := by
  by_cases scans : op.scans = true
  · cases op with
    | next => exact trail.next s
    | lex => exact (state_lex t steps s).symm ▸ trail.lex? steps s
    | _ => cases scans
  · have takesNone : op.scans = false := by simpa using scans
    obtain ⟨w, after⟩ := state_run t steps takesNone s
    rw [after, callRecord_plain takesNone, ← List.append_nil []]
    exact trail.append (plain s takesNone) (trail.world _ w)

theorem play (trail : Trail t mark each W) (steps : Nat) {allowed : Operation → Prop}
    (plain : ∀ op s, allowed op → op.scans = false → W s [] (op.after t s)) (program : Script σ)
    (permitted : program.Makes allowed) (s : State σ) :
    W s (program.record t mark each steps s) (outcome (program.play t steps) s).2 := by
  induction program generalizing s with
  | yield v => exact trail.marked s
  | raise e => exact trail.marked s
  | look next ih =>
    rw [Script.play, outcome_bind_ok (outcome_get s), Script.record]
    exact ih s (permitted s) s
  | alter change next ih =>
    rw [Script.play, outcome_bind_ok (outcome_modify _ s), Script.record]
    exact trail.append (trail.marked s) (trail.append (trail.world s _) (ih permitted _))
  | call op next ih =>
    rw [Script.outcome_call, Script.record]
    exact trail.append (trail.append (trail.marked s) (trail.run steps (plain op · permitted.1) s))
      (ih _ (permitted.2 _) _)

end Trail

theorem Operation.after_tablesAt (x : Session σ) (depth : Nat) (op : Operation) (s : State σ) :
    op.after (x.tablesAt depth) s = op.after x.tables s := by
  cases op <;> simp [Operation.after]

end LexGen.Scanner
