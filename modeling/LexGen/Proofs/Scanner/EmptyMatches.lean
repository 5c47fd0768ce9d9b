import LexGen.Proofs.Scanner.Bearings
import LexGen.Proofs.Scanner.Selection
import LexGen.Proofs.Scanner.Termination

/-!
# Empty matches

An empty match whose action yields nothing would be found again forever if nothing has changed. The guard against it
compares the input on both sides of the position and the start conditions with what the action has found.

* `isStuck_iff`: what the guard compares.
* `Script.play_consumes`: an action that pushes no text back cannot change one side of the position without the other.
* `empty_match_fails_iff`: after which actions an empty match is an error.
* `pushed_back_match_passes`: a run in which an action has left the input that is left and the conditions as they were,
  and the guard lets its empty match pass.
-/

namespace LexGen.Scanner

variable {σ : Type}

/-! ## The guard -/

theorem isStuck_iff (ranges : Bool) {s : State σ} (left : s.rest ≠ []) (now : State σ) :
    (s.commit ranges []).isStuck now = true ↔
      now.rest = s.rest ∧ now.conditions = s.conditions ∧ now.before = s.before := by
  have before : (s.commit ranges []).before = s.before := rfl
  have rest : (s.commit ranges []).rest = s.rest := rfl
  have conditions : (s.commit ranges []).conditions = s.conditions := rfl
  simp only [State.isStuck, before, rest, conditions, Bool.and_eq_true, Bool.not_eq_true', List.isEmpty_eq_false_iff,
    beq_iff_eq]
  constructor
  · rintro ⟨⟨⟨-, before⟩, rest⟩, conditions⟩
    exact ⟨rest, conditions, before⟩
  · rintro ⟨rest, conditions, before⟩
    exact ⟨⟨⟨rest ▸ left, before⟩, rest⟩, conditions⟩

theorem State.complaint_reopen (what : String) (s : State σ) : s.reopen.complaint what = s.complaint what := by
  unfold reopen
  split <;> rfl

/-- What the attempt of an empty match comes to whose action yields nothing and does not reject it. -/
theorem attempt_empty (t : Tables σ) (rule : Nat) {condition : String} {s acted : State σ} (left : s.rest ≠ [])
    (entered : s.conditions.head? = some condition)
    (yielded : outcome (t.action rule condition) (s.commit t.ranges []) = (.ok .none, acted))
    (accepted : acted.rejected = false) :
    outcome (attempt t rule []) s =
      if acted.rest = s.rest ∧ acted.conditions = s.conditions ∧ acted.before = s.before then
        outcome (reportHere (stuckComplaint rule)) acted.reopen
      else (.ok .none, acted.reopen) := by
  obtain ⟨others, conditions⟩ := List.head?_eq_some_iff.1 entered
  have stuck := isStuck_iff t.ranges left acted.reopen
  rw [acted.reopen_rest, acted.reopen_conditions, acted.reopen_before] at stuck
  rw [outcome_attempt, conditions]
  dsimp only
  rw [yielded]
  dsimp only
  rw [concluded, acted.reopen_rejected, accepted, if_neg Bool.false_ne_true, List.isEmpty_nil, Bool.true_and,
    ← conditions]
  simp only [stuck]

/-! ## Actions that only consume -/

def State.Consumes (s now : State σ) : Prop :=
  ∃ text, s.rest = text ++ now.rest ∧ now.before = text.reverse ++ s.before

theorem State.Consumes.trans {s between now : State σ} (first : s.Consumes between) (second : between.Consumes now) :
    s.Consumes now := by
  obtain ⟨text, rest, before⟩ := first
  obtain ⟨text', rest', before'⟩ := second
  refine ⟨text ++ text', by rw [rest, rest', List.append_assoc], ?_⟩
  rw [before', before, List.reverse_append, List.append_assoc]

theorem Operation.after_consumes (t : Tables σ) {op : Operation} (consumes : op.staysPut = true ∨ op = .input)
    (s : State σ) : s.Consumes (op.after t s) := by
  rcases consumes with stays | rfl
  · obtain ⟨bearings, before⟩ := op.after_stays t stays s
    have rest : (op.after t s).rest = s.rest := congrArg (·.1) bearings
    exact ⟨[], rest.symm, before⟩
  · dsimp only [after]
    split
    · exact ⟨[], rfl, rfl⟩
    · rename_i c _ left
      exact ⟨[c], left, rfl⟩

theorem Script.play_consumes (t : Tables σ) (steps : Nat) (program : Script σ)
    (consumes : program.Makes fun op => op.staysPut = true ∨ op = .input) (s : State σ) :
    s.Consumes (outcome (program.play t steps) s).2 := by
  induction program generalizing s with
  | yield v => exact ⟨[], rfl, rfl⟩
  | raise e => exact ⟨[], rfl, rfl⟩
  | look next ih =>
    rw [play, outcome_bind_ok (outcome_get s)]
    exact ih s (consumes s) s
  | alter change next ih =>
    rw [play, outcome_bind_ok (outcome_modify _ s)]
    exact ih consumes { s with world := change s.world }
  | call op next ih =>
    have plain : op.scans = false := by
      rcases consumes.1 with stays | rfl
      · cases op <;> first | rfl | cases stays
      · rfl
    obtain ⟨w, after⟩ := state_run t steps plain s
    have called : s.Consumes (outcome (op.run t steps) s).2 := after ▸ op.after_consumes t consumes.1 s
    rw [outcome_call]
    exact called.trans (ih _ (consumes.2 _) _)

theorem State.Consumes.before {s now : State σ} (consumes : s.Consumes now) (same : now.rest = s.rest) :
    now.before = s.before := by
  obtain ⟨text, rest, before⟩ := consumes
  rw [same, List.self_eq_append_left] at rest
  rw [before, rest]
  rfl

/-! ## Actions that cannot reject -/

theorem Session.preserved_accepted (x : Session σ) (without : x.tables.backtracking = false) :
    x.Preserved (fun _ => True) fun s => s.rejected = false where
  world _ _ h := h
  start s h := s.start_rejected.trans h
  commit _ _ _ := rfl
  reopen s h := s.reopen_rejected.trans h
  restore _ _ _ h := h
  call op s _ h := by
    cases op with
    | setInput text shared => rfl
    | input =>
      dsimp only [Operation.after]
      split <;> exact h
    | reject =>
      rw [Operation.after, without]
      exact h
    | popState =>
      obtain ⟨⟩ := s
      rename_i conditions _
      rcases conditions with _ | ⟨condition, _ | _⟩ <;> exact h
    | _ => exact h

theorem Session.accepted_after (x : Session σ) (without : x.tables.backtracking = false) (depth : Nat)
    (program : Script σ) {s : State σ} (h : s.rejected = false) :
    (outcome (program.play (x.tablesAt depth) x.steps) s).2.rejected = false :=
  have preserved := x.preserved_accepted without
  ((preserved.trail (fun _ _ => Script.makes_true _) depth).play x.steps
    (fun op s allowed _ => preserved.plain depth op s allowed) program (Script.makes_true program) s h).1

/-! ## Steps with an empty match -/

theorem next_empty (x : Session σ) (without : x.tables.backtracking = false) (depth : Nat) {s acted : State σ}
    (running : s.done = false) (left : s.rest ≠ []) {rules : List Nat} {rule : Nat} {condition : String}
    (current : x.tables.currentRules s = .ok rules)
    (selected : x.tables.select s.before s.rest rules none = .ok (some (rule, [])))
    (entered : s.conditions.head? = some condition)
    (yielded : outcome ((x.scripts rule condition).play (x.tablesAt depth) x.steps)
      (s.start.commit x.tables.ranges []) = (.ok .none, acted)) :
    outcome (next (x.tablesAt (depth + 1))) s =
      if acted.rest = s.rest ∧ acted.conditions = s.conditions ∧ acted.before = s.before then
        outcome (reportHere (stuckComplaint rule)) acted.reopen
      else (.ok .none, acted.reopen) := by
  have accepted : acted.rejected = false := by
    have kept := x.accepted_after without depth (x.scripts rule condition) (s := s.start.commit x.tables.ranges []) rfl
    rwa [yielded] at kept
  have started : (x.tablesAt (depth + 1)).currentRules s.start = .ok rules := by
    rw [← current, Tables.currentRules, Tables.currentRules, s.start_conditions]
    rfl
  have chosen : (x.tablesAt (depth + 1)).select s.start.before s.start.rest rules none = .ok (some (rule, [])) := by
    rw [s.start_before, s.start_rest, ← selected]
    exact Tables.select_action x.tables _ _ _ _ _
  have attempted := attempt_empty (x.tablesAt (depth + 1)) rule (s := s.start) (by rwa [s.start_rest])
    (by rwa [s.start_conditions]) yielded accepted
  rw [outcome_next, running, started, x.tablesAt_backtracking, without]
  simp only [Bool.false_eq_true, if_false, chosen]
  rw [attempted, s.start_rest, s.start_conditions, s.start_before]

/-- Without backtracking and without a handler of errors, a step picks a rule that matches empty text before the end of
the input, and the action of the rule yields nothing. The step is an error exactly if the action has left the input on
both sides of the position and the start conditions as they were, and otherwise it yields nothing. So it is an error
only after an action that has left the input that is left and the conditions as they were, and it always is one after
such an action if the action pushes nothing back, takes no steps and sets no input. -/
theorem empty_match_fails_iff (x : Session σ) (without : x.tables.backtracking = false) (depth : Nat)
    {s acted : State σ} (running : s.done = false) (left : s.rest ≠ []) {rules : List Nat} {rule : Nat}
    {condition : String} (current : x.tables.currentRules s = .ok rules)
    (selected : x.tables.select s.before s.rest rules none = .ok (some (rule, [])))
    (entered : s.conditions.head? = some condition)
    (yielded : outcome ((x.scripts rule condition).play (x.tablesAt depth) x.steps)
      (s.start.commit x.tables.ranges []) = (.ok .none, acted))
    (unhandled : acted.world.shared.handler = none) :
    ((outcome (next (x.tablesAt (depth + 1))) s).1 =
        .error (.lexical (acted.complaint (stuckComplaint rule)) (some acted.line) "") ↔
      acted.rest = s.rest ∧ acted.conditions = s.conditions ∧ acted.before = s.before) ∧
    ((outcome (next (x.tablesAt (depth + 1))) s).1 = .ok .none ↔
      ¬ (acted.rest = s.rest ∧ acted.conditions = s.conditions ∧ acted.before = s.before)) ∧
    (((x.scripts rule condition).Makes fun op => op.staysPut = true ∨ op = .input) →
      ((outcome (next (x.tablesAt (depth + 1))) s).1 =
          .error (.lexical (acted.complaint (stuckComplaint rule)) (some acted.line) "") ↔
        acted.rest = s.rest ∧ acted.conditions = s.conditions)) := by
  have stepped := next_empty x without depth running left current selected entered yielded
  have line : acted.reopen.line = acted.line := by
    unfold State.reopen
    split <;> rfl
  rw [outcome_reportHere, acted.reopen_world, unhandled, acted.complaint_reopen, line] at stepped
  have raised : (outcome (next (x.tablesAt (depth + 1))) s).1 =
        .error (.lexical (acted.complaint (stuckComplaint rule)) (some acted.line) "") ↔
      acted.rest = s.rest ∧ acted.conditions = s.conditions ∧ acted.before = s.before := by
    rw [stepped]
    split
    · rename_i same
      exact iff_of_true rfl same
    · rename_i changed
      exact iff_of_false nofun changed
  refine ⟨raised, ?_, fun consumes => raised.trans ⟨fun same => ⟨same.1, same.2.1⟩, fun ⟨rest, conditions⟩ => ?_⟩⟩
  · rw [stepped]
    split
    · rename_i same
      exact iff_of_false nofun (not_not_intro same)
    · rename_i changed
      exact iff_of_true rfl changed
  · have moved := (x.scripts rule condition).play_consumes (x.tablesAt depth) x.steps consumes
      (s.start.commit x.tables.ranges [])
    rw [yielded] at moved
    have before : acted.before = s.start.before := moved.before (rest.trans s.start_rest.symm)
    exact ⟨rest, conditions, before.trans s.start_before⟩

/-! ## A change that is undone -/

/-- The first rule matches a letter. The second one matches empty text; its action enters another condition and leaves
it again, and it consumes a letter and pushes it back. -/
def restless : Session Unit where
  tables :=
    { matchers := [fun _ rest => if rest.head? = some 'a' then some 1 else none, fun _ _ => some 0]
      conditions := [(initialCondition, [0, 1])]
      action := fun _ _ => return .none }
  scripts
    | 0, _ => .yield (.str "letter")
    | _, _ => .call (.begin "elsewhere") fun _ => .call .input fun _ => .call (.unput ['b']) fun _ =>
        .call .popState fun _ => .yield .none
  steps := 2

def restlessStart (source : String) : State Unit := State.setInput false source.toList { world := { memory := () } }

def restlessActed (source : String) : State Unit :=
  (outcome ((restless.scripts 1 initialCondition).play (restless.tablesAt 0) 2)
    ((restlessStart source).start.commit false [])).2

theorem empty_match_fails_iff_restless :
    (restlessActed "b").rest = (restlessStart "b").rest ∧
      (restlessActed "b").conditions = (restlessStart "b").conditions ∧
      (restlessActed "b").before = (restlessStart "b").before ∧
      (outcome (next (restless.tablesAt 1)) (restlessStart "b")).1 =
        .error (.lexical ((restlessActed "b").complaint (stuckComplaint 1)) (some 0) "") := by
  have yielded : outcome ((restless.scripts 1 initialCondition).play (restless.tablesAt 0) restless.steps)
      ((restlessStart "b").start.commit restless.tables.ranges []) = (.ok .none, restlessActed "b") := rfl
  have raised := (empty_match_fails_iff restless rfl 0 (s := restlessStart "b") rfl (by decide) rfl rfl rfl yielded
    rfl).1
  exact ⟨rfl, rfl, rfl, raised.2 ⟨rfl, rfl, rfl⟩⟩

/-- After another match the second rule passes once, although the input that is left and the conditions are as they were
before its action. What is before the position is gone, and so the rule fails the next time. -/
theorem pushed_back_match_passes :
    ∃ s now e, s.world.shared.handler = none ∧ restless.tables.select s.before s.rest [0, 1] none = .ok (some (1, [])) ∧
      outcome (next (restless.tablesAt 1)) (restlessStart "ab") = (.ok (.str "letter"), s) ∧
      outcome (next (restless.tablesAt 1)) s = (.ok .none, now) ∧
      now.rest = s.rest ∧ now.conditions = s.conditions ∧ s.before = ['a'] ∧ now.before = [] ∧
      (outcome (next (restless.tablesAt 1)) now).1 = .error e :=
  ⟨_, _, _, rfl, rfl, rfl, rfl, rfl, rfl, rfl, rfl, rfl⟩

end LexGen.Scanner
