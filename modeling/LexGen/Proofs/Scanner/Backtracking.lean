import LexGen.Proofs.Scanner.Outcome

/-!
# Backtracking

With backtracking, a step is the attempt of one rule: the first in order that finds a match and does not reject
it. The rules before it have left no trace but in the world, whatever their actions have done to the scanner.

* `attempt_rejected`: an attempt that ends rejected leaves the state that it began with.
* `next_backtracks`: what a step does, in terms of a single attempt.
-/

namespace LexGen.Scanner

variable {σ : Type}

/-! ## What passing rules comes to -/

def GivesUp (ended : Except Error Value × State σ) : Prop :=
  ended.1 = .ok .none ∧ ended.2.rejected = true

/-- Rules that find no match or give up. All of them are tried from the same state, with the world as the ones
before have left it. -/
inductive Passes (t : Tables σ) (s : State σ) : List Nat → World σ → World σ → Prop where
  | nil (w : World σ) : Passes t s [] w w
  | unmatched {rule : Nat} {rules : List Nat} {w after : World σ} :
      t.match? rule s.before s.rest = .ok none →
      Passes t s rules w after →
      Passes t s (rule :: rules) w after
  | rejected {rule : Nat} {rules : List Nat} {text : Text} {w between after : World σ} :
      t.match? rule s.before s.rest = .ok (some text) →
      outcome (attempt t rule text) { s with world := w } =
        (.ok .none, { s with rejected := true, world := between }) →
      Passes t s rules between after →
      Passes t s (rule :: rules) w after

/-- How a step ends, from the rules that have not been passed. `now` is the state that they find. -/
inductive Ends (t : Tables σ) (now : State σ) : List Nat → Except Error Value × State σ → Prop where
  | accepted {rule : Nat} {rules : List Nat} {text : Text} :
      t.match? rule now.before now.rest = .ok (some text) →
      ¬ GivesUp (outcome (attempt t rule text) now) →
      Ends t now (rule :: rules) (outcome (attempt t rule text) now)
  | unknown {rule : Nat} {rules : List Nat} {e : Error} :
      t.match? rule now.before now.rest = .error e →
      Ends t now (rule :: rules) (.error e, now)
  | finished : now.rest = [] → Ends t now [] (.ok endToken, now)
  | raised :
      now.rest ≠ [] → now.world.shared.handler = none →
      Ends t now [] (.error (.lexical (now.complaint "Unrecognized text.") (some now.line) ""), now)
  | answered {answer : Value} :
      now.rest ≠ [] → now.world.shared.handler = some answer →
      Ends t now [] (.ok answer, now.told (now.complaint "Unrecognized text.") (errorDetails now.line))

/-! ## Single attempts -/

theorem attempt_ignores_rejected (t : Tables σ) (rule : Nat) (text : Text) (s : State σ) (rejected : Bool) :
    outcome (attempt t rule text) { s with rejected := rejected } = outcome (attempt t rule text) s := by
  rw [outcome_attempt, outcome_attempt]
  rfl

theorem attempt_rejected {t : Tables σ} (backtracking : t.backtracking = true) {rule : Nat} {text : Text}
    {s now : State σ} (ended : outcome (attempt t rule text) s = (.ok .none, now))
    (rejected : now.rejected = true) : now = { s with rejected := true, world := now.world } := by
  rw [outcome_attempt] at ended
  split at ended
  · cases ended
  · split at ended
    · cases ended
    · rename_i acted _
      simp only [concluded, backtracking, if_true] at ended
      split at ended
      · rename_i given
        obtain rfl : s.restore acted.reopen = now := congrArg Prod.snd ended
        rw [State.restore, given]
      · -- A match that the action has kept stays kept: telling of an error changes nothing but the world.
        rename_i kept
        have accepted : now.rejected = acted.reopen.rejected := by
          split at ended
          · obtain ⟨w, told⟩ := state_reportHere (stuckComplaint rule) acted.reopen
            rw [ended] at told
            change now = _ at told
            rw [told]
          · exact congrArg (·.2.rejected) ended.symm
        exact absurd (accepted ▸ rejected) kept
    · rename_i noToken _
      rw [Prod.mk.injEq, Except.ok.injEq] at ended
      exact (noToken ended.1).elim

/-! ## Steps -/

theorem unmatched_ends (t : Tables σ) (s : State σ) : Ends t s [] (outcome unmatched s) := by
  rw [outcome_unmatched]
  split
  · rename_i empty
    exact .finished (List.isEmpty_iff.1 empty)
  · rename_i left
    have left : s.rest ≠ [] := fun empty => left (List.isEmpty_iff.2 empty)
    rw [outcome_reportHere]
    split
    · rename_i handler
      exact .answered left handler
    · rename_i handler
      exact .raised left handler

theorem tryRules_passes {t : Tables σ} (backtracking : t.backtracking = true) (rules : List Nat)
    (s : State σ) (w : World σ) (rejected : Bool) :
    ∃ passed left rejected' w', rules = passed ++ left ∧ Passes t s passed w w' ∧
      Ends t { s with rejected := rejected', world := w' } left
        (outcome (tryRules t rules) { s with rejected := rejected, world := w }) := by
  -- Every rule finds the state `s` again, up to the world and to the memory of the last rejection.
  induction rules generalizing w rejected with
  | nil => exact ⟨[], [], rejected, w, rfl, .nil w, unmatched_ends t _⟩
  | cons rule rules ih =>
    rw [outcome_tryRules_cons]
    dsimp only
    cases found : t.match? rule s.before s.rest with
    | error e => exact ⟨[], rule :: rules, rejected, w, rfl, .nil w, .unknown found⟩
    | ok found? =>
      cases found? with
      | none =>
        obtain ⟨passed, left, rejected', w', split, passes, ends⟩ := ih w rejected
        exact ⟨rule :: passed, left, rejected', w', by rw [split, List.cons_append],
          .unmatched found passes, ends⟩
      | some text =>
        have attempted := attempt_ignores_rejected t rule text { s with world := w } rejected
        dsimp only at attempted ⊢
        by_cases given : GivesUp (outcome (attempt t rule text) { s with rejected := rejected, world := w })
        · obtain ⟨between, ended⟩ : ∃ now, outcome (attempt t rule text)
              { s with rejected := rejected, world := w } = (.ok .none, now) :=
            ⟨_, Prod.ext given.1 rfl⟩
          have gone : between.rejected = true := by simpa [ended] using given.2
          have same := attempt_rejected backtracking ended gone
          obtain ⟨passed, left, rejected', w', split, passes, ends⟩ := ih between.world true
          refine ⟨rule :: passed, left, rejected', w', by rw [split, List.cons_append],
            .rejected found ?_ passes, ?_⟩
          · rw [← attempted, ended, same]
          · rw [ended]
            dsimp only
            rw [if_pos gone, same]
            exact ends
        · refine ⟨[], rule :: rules, rejected, w, rfl, .nil w, ?_⟩
          have last : Ends t { s with rejected := rejected, world := w } (rule :: rules)
              (outcome (attempt t rule text) { s with rejected := rejected, world := w }) :=
            .accepted found given
          split
          · rename_i now ended
            rw [if_neg fun gone => given ⟨by rw [ended], by rw [ended]; exact gone⟩, ← ended]
            exact last
          · exact last

/-- With backtracking, a step passes over the rules that find no match or reject it, and none of these changes
the scanner. The first rule that is left is attempted as if it were the only one; if none is left, the
scanner is as it was when the step began, and the step ends the input or finds it unrecognizable. -/
theorem next_backtracks (t : Tables σ) (backtracking : t.backtracking = true) (s : State σ)
    (running : s.done = false) :
    match t.currentRules s.start with
    | .error e => outcome (next t) s = (.error e, s.start)
    | .ok rules => ∃ passed left rejected w, rules = passed ++ left ∧ Passes t s.start passed s.start.world w ∧
        Ends t { s.start with rejected := rejected, world := w } left (outcome (next t) s) := by
  rw [outcome_next, running]
  cases t.currentRules s.start with
  | error e => rfl
  | ok rules =>
    simp only [backtracking, if_true]
    exact tryRules_passes backtracking rules s.start s.start.world s.start.rejected

def spoiling : Tables Unit where
  matchers := [fun _ rest => some rest.length, fun _ _ => none, fun _ _ => some 1]
  conditions := [(initialCondition, [0, 1, 2])]
  backtracking := true
  action
    | 0, _ => do
      modify fun s => { (s.unput "spoilt".toList).begin "elsewhere" with done := true, more := true, rejected := true }
      return .none
    | _, _ => return .str "letter"

theorem next_backtracks_spoiling :
    (outcome (next spoiling) { rest := "ab".toList, world := { memory := () } }).1 = .ok (.str "letter") ∧
      ∃ passed left rejected w, [0, 1, 2] = passed ++ left ∧
        Passes spoiling { rest := "ab".toList, world := { memory := () } } passed { memory := () } w ∧
        Ends spoiling { rest := "ab".toList, rejected := rejected, world := w } left
          (outcome (next spoiling) { rest := "ab".toList, world := { memory := () } }) :=
  ⟨rfl, next_backtracks spoiling rfl { rest := "ab".toList, world := { memory := () } } rfl⟩

end LexGen.Scanner
