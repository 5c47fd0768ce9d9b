import LexGen.Proofs.Scanner.Selection
import LexGen.Proofs.Scanner.Termination

/-!
# Unrecognized text

Text is unrecognized if all rules refuse it: they find no match, or their actions reject it. Actions that reject a match
may have done anything to the scanner before, and every rule is tried in the state that the one before has left.

* `Refuses.same`: rules that refuse change nothing but the world.
* `Refuses.next`: a step whose rules all refuse ends where no rule is left, in a state like the one it started in.
* `unrecognized_changes_nothing`: what is left of a scanner that has found text unrecognized.
-/

namespace LexGen.Scanner

variable {σ : Type}

/-! ## Rules that refuse -/

/-- Rules find no match, or with backtracking their actions yield nothing and reject the match. Each rule is tried in
the state that the attempt of the one before has left; the last state is what they leave. -/
inductive Refuses (t : Tables σ) : List Nat → State σ → State σ → Prop where
  | nil (s : State σ) : Refuses t [] s s
  | unmatched {rule : Nat} {rules : List Nat} {s now : State σ} :
      t.match? rule s.before s.rest = .ok none →
      Refuses t rules s now →
      Refuses t (rule :: rules) s now
  | rejected {rule : Nat} {rules : List Nat} {text : Text} {condition : String} {s acted now : State σ} :
      t.backtracking = true →
      t.match? rule s.before s.rest = .ok (some text) →
      s.conditions.head? = some condition →
      outcome (t.action rule condition) (s.commit t.ranges text) = (.ok .none, acted) →
      acted.rejected = true →
      Refuses t rules (outcome (attempt t rule text) s).2 now →
      Refuses t (rule :: rules) s now

theorem attempt_of_rejecting {t : Tables σ} (backtracking : t.backtracking = true) {rule : Nat} {text : Text}
    {condition : String} {s acted : State σ} (entered : s.conditions.head? = some condition)
    (yielded : outcome (t.action rule condition) (s.commit t.ranges text) = (.ok .none, acted))
    (rejected : acted.rejected = true) :
    outcome (attempt t rule text) s = (.ok .none, { s with rejected := true, world := acted.world }) := by
  obtain ⟨others, conditions⟩ := List.head?_eq_some_iff.1 entered
  rw [outcome_attempt, conditions]
  dsimp only
  rw [yielded]
  dsimp only
  rw [concluded, acted.reopen_rejected, if_pos rejected, if_pos backtracking, State.restore, acted.reopen_rejected,
    acted.reopen_world, rejected, ← conditions]

namespace Refuses

variable {t : Tables σ} {rules : List Nat} {s now : State σ}

theorem of_unmatched (none : t.Unmatched s.before s.rest rules) : Refuses t rules s s := by
  induction rules with
  | nil => exact .nil s
  | cons rule rules ih =>
    obtain ⟨first, others⟩ := List.forall_mem_cons.1 none
    exact .unmatched first (ih others)

theorem same (refused : Refuses t rules s now) : ∃ rejected w, now = { s with rejected := rejected, world := w } := by
  induction refused with
  | nil s => exact ⟨s.rejected, s.world, rfl⟩
  | unmatched _ _ ih => exact ih
  | rejected backtracking _ entered yielded rejected _ ih =>
    obtain ⟨mark, w, same⟩ := ih
    rw [attempt_of_rejecting backtracking entered yielded rejected] at same
    exact ⟨mark, w, same⟩

theorem tryRules (refused : Refuses t rules s now) :
    outcome (Scanner.tryRules t rules) s = outcome Scanner.unmatched now := by
  induction refused with
  | nil s => rfl
  | unmatched none _ ih =>
    rw [outcome_tryRules_cons, none]
    exact ih
  | rejected backtracking found entered yielded rejected _ ih =>
    have attempted := attempt_of_rejecting backtracking entered yielded rejected
    rw [attempted] at ih
    rw [outcome_tryRules_cons, found]
    dsimp only
    rw [attempted]
    exact ih

theorem select (without : t.backtracking = false) (refused : Refuses t rules s now) :
    now = s ∧ t.select s.before s.rest rules none = .ok none := by
  induction refused with
  | nil s => exact ⟨rfl, rfl⟩
  | unmatched none _ ih =>
    rw [Tables.select, none]
    exact ih
  | rejected backtracking =>
    rw [without] at backtracking
    cases backtracking

theorem next (running : s.done = false) (current : t.currentRules s.start = .ok rules)
    (refused : Refuses t rules s.start now) : outcome (Scanner.next t) s = outcome Scanner.unmatched now := by
  rw [outcome_next, running, current]
  cases backtracking : t.backtracking with
  | true => exact refused.tryRules
  | false =>
    obtain ⟨rfl, none⟩ := refused.select backtracking
    simp only [Bool.false_eq_true, if_false, none]

end Refuses

/-! ## Steps that recognize nothing -/

/-- The scanner without its current match, unless the next match is to be appended to that one. -/
def State.emptied (rejected : Bool) (w : World σ) (s : State σ) : State σ :=
  { s with
    text := if s.more then s.text else []
    piece := if s.more then s.piece else []
    rejected := rejected
    world := w }

theorem State.start_of_left {s : State σ} (left : s.rest ≠ []) : s.start = s.emptied s.rejected s.world := by
  obtain ⟨⟩ := s
  rename_i more _ _ _
  cases more <;> simp_all [start, emptied]

theorem State.emptied_start {s : State σ} (left : s.rest ≠ []) (rejected : Bool) (w : World σ) :
    (s.emptied rejected w).start = s.emptied rejected w := by
  rw [start_of_left (s := s.emptied rejected w) left]
  cases more : s.more <;> simp [emptied, more]

/-- If all rules refuse the text that is left, a step reports it, and everything else is as it was before the step: only
the current match is gone if no match is to be appended to it, and the world is as the actions of rejected matches have
left it. The next step starts in the same state as this one, so that it tries the same rules on the same text. -/
theorem unrecognized_changes_nothing (t : Tables σ) {s now : State σ} {rules : List Nat} (running : s.done = false)
    (left : s.rest ≠ []) (current : t.currentRules s.start = .ok rules) (refused : Refuses t rules s.start now) :
    ∃ rejected w, outcome (next t) s =
        (match now.world.shared.handler with
          | some answer => .ok answer
          | none => .error (.lexical (s.start.complaint "Unrecognized text.") (some s.line) ""),
        s.emptied rejected w) ∧
      w = (match now.world.shared.handler with
        | some _ => { now.world with
            reports := now.world.reports ++ [⟨s.start.complaint "Unrecognized text.", errorDetails s.line⟩] }
        | none => now.world) ∧
      (s.emptied rejected w).start = { s.start with rejected := rejected, world := w } ∧
      t.currentRules (s.emptied rejected w).start = .ok rules := by
  obtain ⟨rejected, w, rfl⟩ := refused.same
  have started (w' : World σ) :
      ({ s.start with rejected := rejected, world := w' } : State σ) = s.emptied rejected w' := by
    rw [s.start_of_left left]
    rfl
  have complaint (w' : World σ) :
      (s.emptied rejected w').complaint "Unrecognized text." = s.start.complaint "Unrecognized text." := by
    rw [s.start_of_left left]
    rfl
  have unrecognized : (s.emptied rejected w).rest.isEmpty = false :=
    Bool.eq_false_iff.2 fun empty => left (List.isEmpty_iff.1 empty)
  have again (w' : World σ) : t.currentRules (s.emptied rejected w').start = .ok rules := by
    rw [s.emptied_start left, ← current, Tables.currentRules, Tables.currentRules, s.start_conditions]
    rfl
  rw [refused.next running current, started, outcome_unmatched, unrecognized, if_neg Bool.false_ne_true,
    outcome_reportHere, complaint]
  have handler : (s.emptied rejected w).world.shared.handler = w.shared.handler := rfl
  rw [handler]
  cases w.shared.handler with
  | some answer => exact ⟨rejected, _, rfl, rfl, by rw [s.emptied_start left, started], again _⟩
  | none => exact ⟨rejected, w, rfl, rfl, by rw [s.emptied_start left, started], again w⟩

/-- The action of the first rule spoils the scanner and rejects its match, the second rule finds no match, and the
action of the third one goes back to another source before it rejects its match. -/
def doubting : Tables Unit where
  matchers := [fun _ rest => some rest.length, fun _ _ => none, fun _ _ => some 1]
  conditions := [(initialCondition, [0, 1, 2])]
  backtracking := true
  action
    | 0, _ => do
      modify fun s => { (s.unput "spoilt".toList).begin "elsewhere" with done := true, line := 7, rejected := true }
      return .none
    | _, _ => do
      echo "doubtful".toList
      modify fun s => { s.setInput true "another".toList with rejected := true }
      return .none

def doubtingStart : State Unit :=
  { before := ['x'], rest := "ab".toList, text := ['x'], length := 1, loc := { lastColumn := 1 }, piece := ['x'],
    matched := ['x'], offset := 1, more := true, world := { memory := () } }

def doubtingWorld : World Unit := { output := "doubtful".toList, memory := () }

theorem unrecognized_changes_nothing_doubting :
    Refuses doubting [0, 1, 2] doubtingStart.start { doubtingStart with rejected := true, world := doubtingWorld } ∧
      ∃ rejected w, outcome (next doubting) doubtingStart =
          (.error (.lexical (doubtingStart.start.complaint "Unrecognized text.") (some 0) ""),
            doubtingStart.emptied rejected w) ∧
        w = doubtingWorld ∧
        (doubtingStart.emptied rejected w).start = { doubtingStart.start with rejected := rejected, world := w } ∧
        doubting.currentRules (doubtingStart.emptied rejected w).start = .ok [0, 1, 2] := by
  have refused : Refuses doubting [0, 1, 2] doubtingStart.start
      { doubtingStart with rejected := true, world := doubtingWorld } :=
    .rejected rfl rfl rfl rfl rfl <| .unmatched rfl <| .rejected rfl rfl rfl rfl rfl <| .nil _
  exact ⟨refused, unrecognized_changes_nothing doubting rfl (by decide) rfl refused⟩

end LexGen.Scanner
