import LexGen.Proofs.Scanner.EmptyMatches
import LexGen.Proofs.Scanner.Unrecognized
import LexGen.Proofs.Scanner.Unrejected

/-!
# Recovery from errors

What the handler of errors answers is what the step yields, so that the search for a token goes on if the answer is
nothing. The step has consumed nothing then.

* `next_cases`: a step of a scanner whose actions only yield values comes closer to the end of the search, or it is the
  last one, or it tells the handler of an error and stays where it is.
* `Skips` and `Lexes` are the search without a bound; `DeadEnd.not_lexes` says when it does not end.
* `lex_with_handler`: when the search for a token ends if there is a handler of errors.
* `silent_handler_never_returns`: a search that does not end.
-/

namespace LexGen.Scanner

variable {σ : Type}

/-! ## Actions that only yield values -/

/-- Actions change nothing. What they yield may depend on the state. -/
def Tables.OnlyYields (t : Tables σ) : Prop :=
  ∀ rule condition s, ∃ v, outcome (t.action rule condition) s = (.ok v, s)

/-- How the attempt of a match ends whose action only yields a value: it fails before the action, it yields a token, it
yields nothing and has moved or reached the end, or it tells the handler that it has not moved. -/
theorem attempt_yields {t : Tables σ} (yields : t.OnlyYields) (rule n : Nat) {s : State σ} (aware : s.Aware) :
    (∃ e, outcome (attempt t rule (s.rest.take n)) s = (.error e, s.commit t.ranges (s.rest.take n))) ∨
      (∃ v, v ≠ .none ∧
        outcome (attempt t rule (s.rest.take n)) s = (.ok v, (s.commit t.ranges (s.rest.take n)).reopen)) ∨
      (outcome (attempt t rule (s.rest.take n)) s = (.ok .none, (s.commit t.ranges (s.rest.take n)).reopen) ∧
        Closer s (s.commit t.ranges (s.rest.take n)).reopen) ∨
      (outcome (attempt t rule (s.rest.take n)) s =
          outcome (reportHere (stuckComplaint rule)) (s.commit t.ranges []).reopen ∧
        s.rest.take n = [] ∧ s.rest ≠ []) := by
  rw [outcome_attempt]
  cases entered : s.conditions with
  | nil => exact Or.inl ⟨_, rfl⟩
  | cons condition others =>
    obtain ⟨v, yielded⟩ := yields rule condition (s.commit t.ranges (s.rest.take n))
    have accepted : (s.commit t.ranges (s.rest.take n)).reopen.rejected = false := State.reopen_rejected _
    dsimp only
    rw [yielded]
    right
    cases v
    case none =>
      right
      dsimp only
      rw [concluded_accepted t rule (s.rest.take n) s accepted]
      split
      · rename_i stuck
        rw [Bool.and_eq_true, List.isEmpty_iff] at stuck
        obtain ⟨empty, stuck⟩ := stuck
        refine Or.inr ⟨by rw [empty], empty, fun reached => ?_⟩
        simp [State.isStuck, State.commit, reached] at stuck
      · rename_i moved
        exact Or.inl ⟨rfl, reopen_closer aware (.refl _) (Bool.eq_false_iff.2 moved)⟩
    all_goals
      refine Or.inl ⟨_, ?_, rfl⟩
      simp

/-! ## Which rule is picked -/

def Tables.picking (t : Tables σ) : Tables σ := { t with flex := t.flex && !t.backtracking }

theorem tryRules_flex (t : Tables σ) (flex : Bool) (rules : List Nat) :
    tryRules { t with flex := flex } rules = tryRules t rules := by
  induction rules with
  | nil => rfl
  | cons rule rules ih =>
    rw [tryRules, tryRules, ih]
    rfl

theorem accepted_attempt {t : Tables σ} (yields : t.OnlyYields) {rule : Nat} {text : Text} {s : State σ}
    (aware : s.Aware) (found : t.match? rule s.before s.rest = .ok (some text)) :
    (outcome (attempt t rule text) s).2.rejected = false := by
  obtain ⟨n, rfl⟩ := match?_some found
  have committed : (s.commit t.ranges (s.rest.take n)).reopen.rejected = false := State.reopen_rejected _
  obtain ⟨e, ended⟩ | ⟨v, -, ended⟩ | ⟨ended, -⟩ | ⟨ended, -⟩ := attempt_yields yields rule n aware
  · rw [ended]
    rfl
  · rw [ended]
    exact committed
  · rw [ended]
    exact committed
  · rw [ended, rejected_reportHere]
    exact State.reopen_rejected _

theorem next_settled {t : Tables σ} (yields : t.OnlyYields) {s : State σ} (running : s.done = false) {rules : List Nat}
    (current : t.currentRules s.start = .ok rules) : outcome (next t) s = settled t.picking rules s.start := by
  rw [outcome_next, running, current, Tables.picking]
  by_cases backtracking : t.backtracking = true
  · have accepted : ∀ rule text,
        { t with flex := false }.select s.start.before s.start.rest rules none = .ok (some (rule, text)) →
        (outcome (attempt { t with flex := false } rule text) s.start).2.rejected = false :=
      fun rule text won => accepted_attempt yields s.start_aware ((select_some won).resolve_left (by simp))
    have settled := (tryRules_settled rfl (fun _ _ _ => ([] : List Unit)) accepted).2
    have ordered : (t.flex && !t.backtracking) = false := by rw [backtracking, Bool.not_true, Bool.and_false]
    rw [tryRules_flex] at settled
    rw [ordered, ← settled]
    simp only [Bool.false_eq_true, if_false, backtracking, if_true]
  · have policy : (t.flex && !t.backtracking) = t.flex := by
      rw [Bool.not_eq_true] at backtracking
      rw [backtracking, Bool.not_false, Bool.and_true]
    rw [policy, settled, if_neg Bool.false_ne_true]
    exact if_neg backtracking

/-! ## Steps -/

/-- The scanner is in the same place of the input, with the same surroundings. -/
structure State.SamePlace (s now : State σ) : Prop where
  before : now.before = s.before
  rest : now.rest = s.rest
  conditions : now.conditions = s.conditions
  done : now.done = s.done
  shared : now.world.shared = s.world.shared

theorem State.SamePlace.trans {s between now : State σ} (first : s.SamePlace between) (second : between.SamePlace now) :
    s.SamePlace now :=
  ⟨second.before.trans first.before, second.rest.trans first.rest, second.conditions.trans first.conditions,
    second.done.trans first.done, second.shared.trans first.shared⟩

theorem State.samePlace_start {s : State σ} (left : s.rest ≠ []) : s.SamePlace s.start := by
  rw [s.start_of_left left]
  exact ⟨rfl, rfl, rfl, rfl, rfl⟩

theorem State.samePlace_reopen {s : State σ} (running : s.done = false) (left : s.rest ≠ []) (ranges : Bool) :
    s.SamePlace (s.commit ranges []).reopen := by
  have some : (s.commit ranges []).rest ≠ [] := left
  unfold reopen
  rw [if_neg fun empty => some (List.isEmpty_iff.1 empty)]
  exact ⟨rfl, rfl, rfl, running.symm, rfl⟩

/-- A step tells the handler of an error and yields the answer. It leaves the scanner where it was. -/
def Complains (t : Tables σ) (answer : Value) (s : State σ) : Prop :=
  ∃ now told, outcome (next t) s = (.ok answer, now) ∧ s.SamePlace now ∧
    now.world.reports = s.world.reports ++ [told]

theorem complains_of_reportHere {t : Tables σ} {answer : Value} {s now : State σ}
    (handled : s.world.shared.handler = some answer) {what : String}
    (ended : outcome (next t) s = outcome (reportHere what) now) (same : s.SamePlace now)
    (reports : now.world.reports = s.world.reports) : Complains t answer s := by
  rw [outcome_reportHere, same.shared, handled] at ended
  exact ⟨_, _, ended, same.trans ⟨rfl, rfl, rfl, rfl, rfl⟩, congrArg (· ++ _) reports⟩

theorem endToken_ne_none : endToken ≠ .none := nofun

theorem next_cases {t : Tables σ} (yields : t.OnlyYields) {answer : Value} {s : State σ} (running : s.done = false)
    (handled : s.world.shared.handler = some answer) :
    (∃ ended, Lexes t 1 s ended ∧ ended.2.world = s.world) ∨
      (∃ now, outcome (next t) s = (.ok .none, now) ∧ now.world = s.world ∧ Closer s.start now) ∨
      Complains t answer s := by
  cases current : t.currentRules s.start with
  | error e =>
    have ended : outcome (next t) s = (.error e, s.start) := by
      rw [outcome_next, running, current]
      rfl
    exact Or.inl ⟨_, .failed ended, s.start_world⟩
  | ok rules =>
    have ended := next_settled yields running current
    rw [settled] at ended
    cases won : t.picking.select s.start.before s.start.rest rules none with
    | error e =>
      rw [won] at ended
      exact Or.inl ⟨_, .failed ended, s.start_world⟩
    | ok best =>
      rw [won] at ended
      rcases best with _ | ⟨rule, text⟩
      · dsimp only at ended
        rw [outcome_unmatched] at ended
        split at ended
        · exact Or.inl ⟨_, .token ended endToken_ne_none, s.start_world⟩
        · rename_i left
          rw [s.start_rest, List.isEmpty_iff] at left
          exact Or.inr (Or.inr (complains_of_reportHere handled ended (State.samePlace_start left)
            (congrArg World.reports s.start_world)))
      · obtain ⟨n, rfl⟩ := match?_some ((select_some won).resolve_left (by simp))
        have world : (s.start.commit t.ranges (s.start.rest.take n)).reopen.world = s.world :=
          (State.reopen_world _).trans s.start_world
        change outcome (next t) s = outcome (attempt t rule (s.start.rest.take n)) s.start at ended
        obtain ⟨e, failed⟩ | ⟨v, token, yielded⟩ | ⟨nothing, closer⟩ | ⟨stuck, empty, left⟩ :=
          attempt_yields yields rule n s.start_aware
        · exact Or.inl ⟨_, .failed (ended.trans failed), s.start_world⟩
        · exact Or.inl ⟨_, .token (ended.trans yielded) token, world⟩
        · exact Or.inr (Or.inl ⟨_, ended.trans nothing, world, closer⟩)
        · rw [empty] at world
          have leftBefore : s.rest ≠ [] := by rwa [s.start_rest] at left
          have started := State.samePlace_start leftBefore
          exact Or.inr (Or.inr (complains_of_reportHere handled (ended.trans stuck)
            (started.trans (State.samePlace_reopen (started.done.trans running) left t.ranges))
            (congrArg World.reports world)))

/-! ## The search -/

/-- So many steps yield nothing. -/
inductive Skips (t : Tables σ) : Nat → State σ → State σ → Prop where
  | none (s : State σ) : Skips t 0 s s
  | more {steps : Nat} {s between now : State σ} :
      outcome (next t) s = (.ok .none, between) → Skips t steps between now → Skips t (steps + 1) s now

theorem Skips.lexes {t : Tables σ} {steps needed : Nat} {s now : State σ} {ended : Except Error Value × State σ}
    (skips : Skips t steps s now) (lexes : Lexes t needed now ended) : Lexes t (needed + steps) s ended := by
  induction skips with
  | none s => exact lexes
  | more step _ ih => exact .again step (ih lexes)

theorem Skips.append {t : Tables σ} {steps more : Nat} {s between now : State σ} (first : Skips t steps s between)
    (second : Skips t more between now) : Skips t (more + steps) s now := by
  induction first with
  | none s => exact second
  | more step _ ih => exact .more step (ih second)

theorem Skips.lt_of_lexes {t : Tables σ} {steps needed : Nat} {s now : State σ}
    {ended : Except Error Value × State σ} (skips : Skips t steps s now) (lexes : Lexes t needed s ended) :
    steps < needed := by
  induction lexes generalizing steps with
  | token step some =>
    cases skips with
    | none => exact Nat.one_pos
    | more skipped _ =>
      rw [step, Prod.mk.injEq, Except.ok.injEq] at skipped
      exact absurd skipped.1 some
  | failed step =>
    cases skips with
    | none => exact Nat.one_pos
    | more skipped _ =>
      rw [step] at skipped
      cases skipped
  | again step _ ih =>
    cases skips with
    | none => exact Nat.succ_pos _
    | more skipped others =>
      rw [step, Prod.mk.injEq] at skipped
      obtain ⟨-, rfl⟩ := skipped
      exact Nat.succ_lt_succ (ih others)

/-- The search comes to an end or to an error within as many steps as there can be left. -/
theorem exists_skips {t : Tables σ} (yields : t.OnlyYields) {answer : Value} (bound : Nat) {s : State σ}
    (handled : s.world.shared.handler = some answer) (within : s.stepsLeft ≤ bound) :
    ∃ steps now, steps < bound ∧ Skips t steps s now ∧ now.world = s.world ∧
      ((∃ ended, Lexes t 1 now ended ∧ ended.2.world = s.world) ∨ Complains t answer now) := by
  induction bound generalizing s with
  | zero => exact absurd within (Nat.not_le.2 s.stepsLeft_pos)
  | succ bound ih =>
    cases running : s.done with
    | true =>
      have ended : outcome (next t) s = (.ok endToken, s) := by
        rw [outcome_next, running]
        rfl
      exact ⟨0, s, Nat.succ_pos bound, .none s, rfl, Or.inl ⟨_, .token ended endToken_ne_none, rfl⟩⟩
    | false =>
      obtain ended | ⟨between, step, world, closer⟩ | complains := next_cases yields running handled
      · exact ⟨0, s, Nat.succ_pos bound, .none s, rfl, Or.inl ended⟩
      · have fewer := closer.stepsLeft_lt
        rw [s.start_rest] at fewer
        have all : s.stepsLeft = s.rest.length + 2 := by simp [State.stepsLeft, running]
        obtain ⟨steps, now, few, skips, same, last⟩ := ih (s := between) (by rwa [world]) (by omega)
        rw [world] at same last
        exact ⟨steps + 1, now, Nat.succ_lt_succ few, .more step skips, same, last⟩
      · exact ⟨0, s, Nat.succ_pos bound, .none s, rfl, Or.inr complains⟩

/-! ## Dead ends -/

/-- No rule matches at the position, or the rule that is picked matches empty text and its action always yields
nothing. -/
inductive DeadEnd (t : Tables σ) (s : State σ) : Prop where
  | unmatched {rules : List Nat} :
      t.currentRules s = .ok rules → t.Unmatched s.before s.rest rules → DeadEnd t s
  | empty {rules : List Nat} {rule : Nat} {condition : String} :
      t.currentRules s = .ok rules →
      t.picking.select s.before s.rest rules none = .ok (some (rule, [])) →
      s.conditions.head? = some condition →
      (∀ now, outcome (t.action rule condition) now = (.ok .none, now)) →
      DeadEnd t s

theorem currentRules_congr (t : Tables σ) {s now : State σ} (same : now.conditions = s.conditions) :
    t.currentRules now = t.currentRules s := by
  rw [Tables.currentRules, Tables.currentRules, same]

theorem DeadEnd.samePlace {t : Tables σ} {s now : State σ} (dead : DeadEnd t s) (same : s.SamePlace now) :
    DeadEnd t now := by
  have current := currentRules_congr t same.conditions
  cases dead with
  | unmatched rules unmatched =>
    exact .unmatched (current.trans rules) (by rwa [same.before, same.rest])
  | empty rules won entered always =>
    exact .empty (current.trans rules) (by rwa [same.before, same.rest]) (by rwa [same.conditions]) always

theorem DeadEnd.complains {t : Tables σ} (yields : t.OnlyYields) {answer : Value} {s : State σ} (dead : DeadEnd t s)
    (running : s.done = false) (left : s.rest ≠ []) (handled : s.world.shared.handler = some answer) :
    Complains t answer s := by
  have started := State.samePlace_start left
  have reports : s.start.world.reports = s.world.reports := congrArg World.reports s.start_world
  have leftStarted : s.start.rest ≠ [] := by rwa [s.start_rest]
  cases dead with
  | unmatched rules unmatched =>
    rw [← currentRules_congr t started.conditions] at rules
    rw [← started.before, ← started.rest] at unmatched
    have ended := (Refuses.of_unmatched unmatched).next running rules
    rw [outcome_unmatched, if_neg fun empty => leftStarted (List.isEmpty_iff.1 empty)] at ended
    exact complains_of_reportHere handled ended started reports
  | empty rules won entered always =>
    rw [← currentRules_congr t started.conditions] at rules
    rw [← started.before, ← started.rest] at won
    rw [← started.conditions] at entered
    have ended := next_settled yields running rules
    rw [settled, won] at ended
    change outcome (next t) s = outcome (attempt t _ []) s.start at ended
    rw [attempt_empty t _ leftStarted entered (always _) rfl, if_pos ⟨rfl, rfl, rfl⟩] at ended
    exact complains_of_reportHere handled ended
      (started.trans (State.samePlace_reopen (started.done.trans running) leftStarted t.ranges))
      ((congrArg World.reports (State.reopen_world _)).trans reports)

theorem DeadEnd.skips {t : Tables σ} (yields : t.OnlyYields) {s : State σ} (dead : DeadEnd t s)
    (running : s.done = false) (left : s.rest ≠ []) (handled : s.world.shared.handler = some .none) (steps : Nat) :
    ∃ now, Skips t steps s now := by
  induction steps generalizing s with
  | zero => exact ⟨s, .none s⟩
  | succ steps ih =>
    obtain ⟨between, -, step, same, -⟩ := dead.complains yields running left handled
    obtain ⟨now, skips⟩ := ih (dead.samePlace same) (same.done.trans running) (same.rest ▸ left)
      (same.shared ▸ handled)
    exact ⟨now, .more step skips⟩

theorem Skips.handler {t : Tables σ} (yields : t.OnlyYields) {answer : Value} {steps : Nat} {s now : State σ}
    (skips : Skips t steps s now) (handled : s.world.shared.handler = some answer) :
    now.world.shared.handler = some answer := by
  induction skips with
  | none s => exact handled
  | @more _ s between _ step _ ih =>
    have skipped : Skips t 1 s between := .more step (.none between)
    refine ih ?_
    cases running : s.done with
    | true =>
      rw [outcome_next, running] at step
      cases step
    | false =>
      obtain ⟨ended, lexes, -⟩ | ⟨later, step', world, -⟩ | ⟨later, -, step', same, -⟩ :=
        next_cases yields running handled
      · exact absurd (skipped.lt_of_lexes lexes) (Nat.lt_irrefl 1)
      · obtain rfl : between = later := congrArg Prod.snd (step.symm.trans step')
        rwa [world]
      · obtain rfl : between = later := congrArg Prod.snd (step.symm.trans step')
        rwa [same.shared]

theorem DeadEnd.not_lexes {t : Tables σ} (yields : t.OnlyYields) {steps : Nat} {s now : State σ}
    (handled : s.world.shared.handler = some .none) (skips : Skips t steps s now) (running : now.done = false)
    (left : now.rest ≠ []) (dead : DeadEnd t now) (needed : Nat) (ended : Except Error Value × State σ) :
    ¬ Lexes t needed s ended := by
  intro lexes
  obtain ⟨later, further⟩ := dead.skips yields running left (skips.handler yields handled) needed
  exact absurd ((skips.append further).lt_of_lexes lexes) (by omega)

/-- The search for a token with a handler of errors, if actions only yield values. If the handler answers with a value,
the search ends after at most two steps more than there are characters left. In any case it ends within so many steps
without an error, or by then it comes to a place where a step tells the handler of an error, yields the answer and stays
there. If the answer is nothing, the search does not end where no rule matches the text that is left, nor where the rule
that is picked matches empty text and its action always yields nothing. -/
theorem lex_with_handler (t : Tables σ) (yields : t.OnlyYields) {s : State σ} {answer : Value}
    (handled : s.world.shared.handler = some answer) :
    (answer ≠ .none → ∃ needed ended, needed ≤ s.rest.length + 2 ∧ Lexes t needed s ended ∧
        ∀ steps, needed ≤ steps → outcome (lex t steps) s = ended) ∧
      ((∃ needed ended, needed ≤ s.rest.length + 2 ∧ Lexes t needed s ended ∧ ended.2.world = s.world) ∨
        ∃ steps now, steps < s.rest.length + 2 ∧ Skips t steps s now ∧ now.world = s.world ∧ Complains t answer now) ∧
      (answer = .none → ∀ steps now, Skips t steps s now → now.done = false → now.rest ≠ [] → DeadEnd t now →
        ∀ needed ended, ¬ Lexes t needed s ended) := by
  have within : s.stepsLeft ≤ s.rest.length + 2 := by
    unfold State.stepsLeft
    split <;> omega
  obtain ⟨steps, now, few, skips, world, last⟩ := exists_skips yields _ handled within
  refine ⟨fun token => ?_, ?_, ?_⟩
  · obtain ⟨ended, lexes⟩ : ∃ ended, Lexes t 1 now ended := by
      rcases last with ⟨ended, lexes, -⟩ | ⟨later, told, step, -⟩
      · exact ⟨ended, lexes⟩
      · exact ⟨_, .token step token⟩
    have all := skips.lexes lexes
    exact ⟨1 + steps, ended, by omega, all, fun _ enough => all.outcome_lex enough⟩
  · rcases last with ⟨ended, lexes, same⟩ | complains
    · exact Or.inl ⟨1 + steps, ended, by omega, skips.lexes lexes, same⟩
    · exact Or.inr ⟨steps, now, few, skips, world, complains⟩
  · rintro rfl steps now skips running left dead
    exact dead.not_lexes yields handled skips running left

/-! ## A handler without an answer -/

def letters : Tables Unit where
  matchers := ['a', 'b'].map fun letter _ rest => if rest.head? = some letter then some 1 else none
  conditions := [(initialCondition, [0, 1])]
  action
    | 0, _ => return .none
    | _, _ => return .str "letter"

theorem letters_onlyYields : letters.OnlyYields
  | 0, _, _ => ⟨_, rfl⟩
  | _ + 1, _, _ => ⟨_, rfl⟩

def asking (answer : Value) (source : String) : State Unit :=
  { rest := source.toList, world := { shared := { handler := some answer }, memory := () } }

theorem letters_deadEnd {s : State Unit} (rest : s.rest = ['?']) (conditions : s.conditions = [initialCondition]) :
    DeadEnd letters s := by
  have current : letters.currentRules s = .ok [0, 1] := by
    rw [Tables.currentRules, conditions]
    rfl
  refine .unmatched current ?_
  rw [rest]
  exact List.forall_mem_cons.2 ⟨rfl, List.forall_mem_singleton.2 rfl⟩

/-- A handler that answers with a value ends the search, and one that answers with nothing does not. -/
theorem lex_with_handler_letters :
    (∃ needed ended, needed ≤ 5 ∧ Lexes letters needed (asking (.str "error") "aa?") ended ∧
        ∀ steps, needed ≤ steps → outcome (lex letters steps) (asking (.str "error") "aa?") = ended) ∧
      ∃ now, Skips letters 2 (asking .none "aa?") now ∧ now.rest = ['?'] ∧
        ∀ needed ended, ¬ Lexes letters needed (asking .none "aa?") ended := by
  have skips : Skips letters 2 (asking .none "aa?") (outcome (lex? letters 2) (asking .none "aa?")).2 :=
    .more rfl (.more rfl (.none _))
  have dead := letters_deadEnd (s := (outcome (lex? letters 2) (asking .none "aa?")).2) rfl rfl
  have answered := (lex_with_handler letters letters_onlyYields (s := asking (.str "error") "aa?") rfl).1 (by simp)
  have silent := (lex_with_handler letters letters_onlyYields (s := asking .none "aa?") rfl).2.2 rfl
  exact ⟨answered, _, skips, rfl, silent 2 _ skips rfl (List.cons_ne_nil _ _) dead⟩

/-- No rule matches the only character, and the handler answers nothing: whatever number of steps is taken, there is no
token and no error. -/
theorem silent_handler_never_returns :
    (asking .none "?").world.shared.handler = some .none ∧
      ∀ needed ended, ¬ Lexes letters needed (asking .none "?") ended :=
  ⟨rfl, (letters_deadEnd (s := asking .none "?") rfl rfl).not_lexes letters_onlyYields rfl (.none _)
    rfl (List.cons_ne_nil _ _)⟩

end LexGen.Scanner
