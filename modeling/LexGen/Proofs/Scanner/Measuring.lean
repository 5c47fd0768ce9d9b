import LexGen.Proofs.Scanner.Shortening

/-!
# The length of the match

The length of the current match is kept beside its text. A step takes the old text away before it looks for a match, and
the length only changes with the next match. If the step finds none, the length is that of the old text.

* `Session.sights` lists what is seen of a run: states between calls and in actions, and the steps with their attempts.
* `Settles` says what the attempts of a step leave of it, `Accounts` what a run leaves.
* `length_accounted`: by how much the length is off in every state of every run.
* `length_left_at_end`: a run in which it is.
-/

namespace LexGen.Scanner

variable {σ : Type}

/-! ## What is seen of a run -/

/-- The state between calls or in an action, or a step that begins in a state, makes attempts and leaves a state. -/
inductive Sight (σ : Type) where
  | state (s : State σ)
  | step (s : State σ) (attempts : List (Attempt σ)) (now : State σ)

section

variable (t : Tables σ) (each : Nat → Text → State σ → List (Sight σ))

def stepSights (s : State σ) : List (Sight σ) :=
  if s.done then []
  else .step s (stepAttempts t s) (outcome (next t) s).2 :: stepRecord t (fun _ => []) each s

def lexSights : (steps : Nat) → State σ → List (Sight σ)
  | 0, _ => []
  | steps + 1, s =>
    stepSights t each s ++
      match outcome (next t) s with
      | (.ok .none, now) => .state now :: lexSights steps now
      | _ => []

def callSights (steps : Nat) : Operation → State σ → List (Sight σ)
  | .next, s => stepSights t each s
  | .lex, s => lexSights t each steps s
  | _, _ => []

def Script.sights (steps : Nat) : Script σ → State σ → List (Sight σ)
  | yield _, s => [.state s]
  | raise _, s => [.state s]
  | look next, s => (next s).sights steps s
  | alter change next, s => .state s :: next.sights steps { s with world := change s.world }
  | call op next, s =>
    .state s :: (callSights t each steps op s ++
      (next (outcome (op.run t steps) s).1).sights steps (outcome (op.run t steps) s).2)

end

def attemptSights (t : Tables σ) (acting : Nat → String → State σ → List (Sight σ)) (rule : Nat) (text : Text)
    (s : State σ) : List (Sight σ) :=
  s.conditions.head?.toList.flatMap (acting rule · (s.commit t.ranges text))

namespace Session

def actionSights (x : Session σ) : (depth : Nat) → (rule : Nat) → (condition : String) → State σ → List (Sight σ)
  | 0, _, _, s => [.state s]
  | depth + 1, rule, condition, s =>
    (x.scripts rule condition).sights (x.tablesAt depth) (attemptSights (x.tablesAt depth) (x.actionSights depth))
      x.steps s

/-- What is seen when a script is played from a state: between its calls and inside of them, in actions too. -/
def sights (x : Session σ) (depth : Nat) (program : Script σ) (s : State σ) : List (Sight σ) :=
  program.sights (x.tablesAt depth) (attemptSights (x.tablesAt depth) (x.actionSights depth)) x.steps s

end Session

/-! ## By how much the length is off -/

def State.lag (s : State σ) : Int := s.length - s.text.length

@[simp] theorem State.lag_commit (ranges : Bool) (text : Text) (s : State σ) : (s.commit ranges text).lag = 0 :=
  Int.sub_self _

@[simp] theorem State.lag_consume (c : Char) (rest : Text) (s : State σ) : (s.consume c rest).lag = s.lag := by
  change s.length + 1 - ((s.text ++ [c]).length : Int) = s.length - s.text.length
  rw [List.length_append, List.length_singleton]
  omega

@[simp] theorem State.lag_reopen (s : State σ) : s.reopen.lag = s.lag := by
  unfold reopen
  split <;> rfl

theorem State.length_start (s : State σ) : s.start.length = s.length := by
  unfold start
  split <;> dsimp only <;> split <;> rfl

theorem State.text_start (s : State σ) : s.start.text = if s.more then s.text else [] := by
  unfold start
  split <;> dsimp only <;> split <;> rfl

theorem State.lag_start (s : State σ) : s.start.lag = if s.more then s.lag else s.length := by
  rw [lag, s.length_start, s.text_start]
  split
  · rfl
  · exact Int.sub_zero _

/-- Calls that take no steps leave the right length, or change it as they change the text. -/
theorem Operation.lag_after (t : Tables σ) (op : Operation) (s : State σ) :
    (op.after t s).lag = s.lag ∨ (op.after t s).lag = 0 := by
  cases op with
  | setInput text shared => exact .inr rfl
  | input =>
    refine .inl ?_
    rw [after]
    cases s.rest with
    | nil => rfl
    | cons c rest => exact State.lag_consume c rest s
  | unput text => exact .inr (Int.sub_self _)
  | less n => exact .inr (Int.sub_self _)
  | reject =>
    refine .inl ?_
    rw [after]
    split <;> rfl
  | popState =>
    refine .inl ?_
    rw [after, State.popState]
    split <;> rfl
  | _ => exact .inl rfl

/-- The length is right, or it is too large by what it was when a step began that has kept no match. -/
def Owes (sights : List (Sight σ)) (now : State σ) : Prop :=
  now.lag = 0 ∨ ∃ s attempts after, .step s attempts after ∈ sights ∧ s.more = false ∧
    (∀ a ∈ attempts, a.kept = false) ∧ now.lag = s.length

theorem Owes.mono {sights others : List (Sight σ)} {now : State σ} (owes : Owes sights now) (sub : sights ⊆ others) :
    Owes others now :=
  owes.imp_right fun ⟨s, attempts, after, mem, rest⟩ => ⟨s, attempts, after, sub mem, rest⟩

theorem Owes.of_lag {sights : List (Sight σ)} {s now : State σ} (owes : Owes sights s) (same : now.lag = s.lag) :
    Owes sights now := by
  unfold Owes
  rw [same]
  exact owes

/-- Every match of a step has the right length when its action begins. If the step has kept no match, it leaves the
length that it has found. -/
def MeasuresStep (s : State σ) (attempts : List (Attempt σ)) (now : State σ) : Prop :=
  (∀ a ∈ attempts, a.entered.lag = 0) ∧
    ((∀ a ∈ attempts, a.kept = false) → now.length = s.length ∧ now.text = if s.more then s.text else [])

/-! ## Attempts -/

/-- What the attempts of a step leave that begins in a state, and what is seen meanwhile. -/
structure Settles (s : State σ) (sights : List (Sight σ)) (attempts : List (Attempt σ)) (now : State σ) : Prop where
  seen : ∀ between, .state between ∈ sights → Owes sights between
  steps : ∀ before tried after, .step before tried after ∈ sights → MeasuresStep before tried after
  entered : ∀ a ∈ attempts, a.entered.lag = 0
  kept : ∀ a ∈ attempts, a.kept = true → Owes sights now
  unkept : (∀ a ∈ attempts, a.kept = false) → ∃ rejected w, now = { s with rejected := rejected, world := w }

namespace Settles

variable {s between now : State σ} {first second : List (Sight σ)} {attempts others : List (Attempt σ)}

theorem nothing (same : ∃ w, now = { s with world := w }) : Settles s [] [] now where
  seen := by simp
  steps := by simp
  entered := by simp
  kept := by simp
  unkept _ := by
    obtain ⟨w, same⟩ := same
    exact ⟨s.rejected, w, same⟩

theorem append (one : Settles s first attempts between) (two : Settles between second others now) :
    Settles s (first ++ second) (attempts ++ others) now where
  seen c mem :=
    (List.mem_append.1 mem).elim (fun mem => (one.seen c mem).mono (List.subset_append_left _ _))
      fun mem => (two.seen c mem).mono (List.subset_append_right _ _)
  steps before tried after mem := (List.mem_append.1 mem).elim (one.steps _ _ _) (two.steps _ _ _)
  entered := List.forall_mem_append.2 ⟨one.entered, two.entered⟩
  kept a mem kept := by
    by_cases later : ∃ b ∈ others, b.kept = true
    · obtain ⟨b, mem, kept⟩ := later
      exact (two.kept b mem kept).mono (List.subset_append_right _ _)
    · -- The later attempts have been taken back, so an earlier one has been kept.
      have unkept : ∀ b ∈ others, b.kept = false := by simpa using later
      obtain ⟨rejected, w, rfl⟩ := two.unkept unkept
      have earlier : a ∈ attempts :=
        (List.mem_append.1 mem).resolve_right fun mem => Bool.false_ne_true ((unkept a mem).symm.trans kept)
      exact ((one.kept a earlier kept).mono (List.subset_append_left _ _)).of_lag rfl
  unkept unkept := by
    obtain ⟨earlier, later⟩ := List.forall_mem_append.1 unkept
    obtain ⟨rejected, w, rfl⟩ := two.unkept later
    obtain ⟨rejected', w', rfl⟩ := one.unkept earlier
    exact ⟨rejected, w, rfl⟩

end Settles

/-- What a run leaves, and what is seen meanwhile. -/
structure Accounts (s : State σ) (sights : List (Sight σ)) (now : State σ) : Prop where
  last : now.lag = s.lag ∨ Owes sights now
  seen : ∀ between, .state between ∈ sights → between.lag = s.lag ∨ Owes sights between
  steps : ∀ before tried after, .step before tried after ∈ sights → MeasuresStep before tried after

namespace Accounts

variable {s between now : State σ} {first second : List (Sight σ)}

theorem nothing (same : now.lag = s.lag ∨ now.lag = 0) : Accounts s [] now where
  last := same.imp_right .inl
  seen := by simp
  steps := by simp

theorem here (s : State σ) : Accounts s [.state s] s where
  last := .inl rfl
  seen between mem := by
    obtain rfl : between = s := by simpa using mem
    exact .inl rfl
  steps := by simp

theorem append (one : Accounts s first between) (two : Accounts between second now) :
    Accounts s (first ++ second) now := by
  have onwards {c : State σ} : c.lag = between.lag ∨ Owes second c → c.lag = s.lag ∨ Owes (first ++ second) c := by
    rintro (same | owes)
    · exact one.last.imp same.trans fun owes => (owes.mono (List.subset_append_left _ _)).of_lag same
    · exact .inr (owes.mono (List.subset_append_right _ _))
  constructor
  · exact onwards two.last
  · intro c mem
    rcases List.mem_append.1 mem with mem | mem
    · exact (one.seen c mem).imp_right (Owes.mono · (List.subset_append_left _ _))
    · exact onwards (two.seen c mem)
  · exact fun before tried after mem => (List.mem_append.1 mem).elim (one.steps _ _ _) (two.steps _ _ _)

theorem owes (accounts : Accounts s first now) (right : s.lag = 0) :
    Owes first now ∧ ∀ between, .state between ∈ first → Owes first between :=
  ⟨accounts.last.elim (fun same => .inl (same.trans right)) id,
    fun between mem => (accounts.seen between mem).elim (fun same => .inl (same.trans right)) id⟩

end Accounts

/-! ## Steps -/

section

variable {t : Tables σ} {acting : Nat → String → State σ → List (Sight σ)}

theorem accounts_attemptSights
    (action : ∀ rule condition s, Accounts s (acting rule condition s) (outcome (t.action rule condition) s).2)
    (rule : Nat) (text : Text) (s : State σ) :
    ∃ now, Accounts (s.commit t.ranges text) (attemptSights t acting rule text s) now ∧
      ∀ condition, s.conditions.head? = some condition →
        now = (outcome (t.action rule condition) (s.commit t.ranges text)).2 := by
  unfold attemptSights
  cases s.conditions.head? with
  | none => exact ⟨_, .nothing (.inl rfl), by simp⟩
  | some condition =>
    rw [Option.toList_some, List.flatMap_singleton]
    exact ⟨_, action rule condition _, by simp⟩

theorem settles_attempt
    (action : ∀ rule condition s, Accounts s (acting rule condition s) (outcome (t.action rule condition) s).2)
    (rule : Nat) (text : Text) (s : State σ) :
    Settles s (attemptSights t acting rule text s) [attemptOf t rule text s] (outcome (attempt t rule text) s).2 := by
  have entered : (s.commit t.ranges text).lag = 0 := State.lag_commit _ _ _
  obtain ⟨left, accounts, acts⟩ := accounts_attemptSights action rule text s
  obtain ⟨owes, seen⟩ := accounts.owes entered
  refine ⟨seen, accounts.steps, List.forall_mem_singleton.2 entered, List.forall_mem_singleton.2 ?_, ?_⟩
  · intro kept
    rcases attemptOf_cases t rule text s with ⟨unkept, -⟩ | ⟨-, acted, w, entering, after⟩
    · rw [kept] at unkept
      cases unkept
    · have owed : Owes (attemptSights t acting rule text s) acted := by
        rcases entering with rfl | ⟨condition, current, rfl⟩
        · exact .inl entered
        · rw [← acts condition current]
          exact owes
      have same : (attemptOf t rule text s).after.lag = acted.lag := by
        rcases after with after | after
        · rw [after]
          rfl
        · rw [after]
          exact acted.lag_reopen
      exact owed.of_lag same
  · rw [List.forall_mem_singleton]
    intro unkept
    rcases attemptOf_cases t rule text s with ⟨-, now, after⟩ | ⟨kept, -⟩
    · exact ⟨now.rejected, now.world, after⟩
    · rw [unkept] at kept
      cases kept

variable {each : Nat → Text → State σ → List (Sight σ)}
  (attempts : ∀ rule text s, Settles s (each rule text s) [attemptOf t rule text s] (outcome (attempt t rule text) s).2)

include attempts

theorem settles_tryRules (rules : List Nat) (s : State σ) :
    Settles s (tryRecord t each rules s) (tryRecord t (fun rule text s => [attemptOf t rule text s]) rules s)
      (outcome (tryRules t rules) s).2 := by
  induction rules generalizing s with
  | nil => exact .nothing (state_unmatched s)
  | cons rule rules ih =>
    rw [outcome_tryRules_cons, tryRecord, tryRecord]
    cases t.match? rule s.before s.rest with
    | error e => exact .nothing ⟨s.world, rfl⟩
    | ok found =>
      cases found with
      | none => exact ih s
      | some text =>
        have attempted := attempts rule text s
        dsimp only
        rcases ended : outcome (attempt t rule text) s with ⟨_ | token, now⟩
        · rw [ended] at attempted
          exact attempted.append (.nothing ⟨now.world, rfl⟩)
        · rw [ended] at attempted
          cases token
          case none =>
            dsimp only
            split
            · exact attempted.append (ih now)
            · exact attempted.append (.nothing ⟨now.world, rfl⟩)
          all_goals exact attempted.append (.nothing ⟨now.world, rfl⟩)

theorem settles_stepRecord {s : State σ} (running : s.done = false) :
    Settles s.start (stepRecord t (fun _ => []) each s) (stepAttempts t s) (outcome (next t) s).2 := by
  rw [outcome_next, stepAttempts, stepRecord, stepRecord, running, List.nil_append, List.nil_append]
  simp only [Bool.false_eq_true, if_false]
  cases t.currentRules s.start with
  | error e => exact .nothing ⟨s.start.world, rfl⟩
  | ok rules =>
    dsimp only
    split
    · exact settles_tryRules attempts rules s.start
    · cases t.select s.start.before s.start.rest rules none with
      | error e => exact .nothing ⟨s.start.world, rfl⟩
      | ok best =>
        rcases best with _ | ⟨rule, text⟩
        · exact .nothing (state_unmatched s.start)
        · exact attempts rule text s.start

theorem accounts_stepSights (s : State σ) : Accounts s (stepSights t each s) (outcome (next t) s).2 := by
  unfold stepSights
  split
  · rename_i done
    rw [outcome_next, if_pos done]
    exact .nothing (.inl rfl)
  · rename_i running
    have settles := settles_stepRecord attempts (Bool.not_eq_true _ ▸ running)
    have within := List.subset_cons_self (Sight.step s (stepAttempts t s) (outcome (next t) s).2)
      (stepRecord t (fun _ => []) each s)
    refine ⟨?_, ?_, ?_⟩
    · by_cases some : ∃ a ∈ stepAttempts t s, a.kept = true
      · obtain ⟨a, mem, kept⟩ := some
        exact .inr ((settles.kept a mem kept).mono within)
      · have unkept : ∀ a ∈ stepAttempts t s, a.kept = false := by simpa using some
        obtain ⟨rejected, w, same⟩ := settles.unkept unkept
        have lag : (outcome (next t) s).2.lag = s.start.lag := by
          rw [same]
          rfl
        cases more : s.more with
        | true => exact .inl (by rw [lag, s.lag_start, if_pos more])
        | false =>
          have length : (outcome (next t) s).2.lag = s.length := by
            rw [lag, s.lag_start, more, if_neg Bool.false_ne_true]
          exact .inr (.inr ⟨s, _, _, List.mem_cons_self, more, unkept, length⟩)
    · intro between mem
      exact .inr ((settles.seen between (by simpa using mem)).mono within)
    · intro before tried after mem
      rcases List.mem_cons.1 mem with step | mem
      · obtain ⟨rfl, rfl, rfl⟩ := Sight.step.inj step
        refine ⟨settles.entered, fun unkept => ?_⟩
        obtain ⟨rejected, w, same⟩ := settles.unkept unkept
        rw [same]
        exact ⟨before.length_start, before.text_start⟩
      · exact settles.steps before tried after mem

theorem accounts_lexSights (steps : Nat) (s : State σ) :
    Accounts s (lexSights t each steps s) (outcome (lex? t steps) s).2 := by
  induction steps generalizing s with
  | zero => exact .nothing (.inl rfl)
  | succ steps ih =>
    have stepped := accounts_stepSights attempts s
    rw [outcome_lex?_succ, lexSights]
    rcases ended : outcome (next t) s with ⟨_ | token, now⟩
    · rw [ended] at stepped
      exact stepped.append (.nothing (.inl rfl))
    · rw [ended] at stepped
      cases token
      case none => exact stepped.append ((Accounts.here now).append (ih now))
      all_goals exact stepped.append (.nothing (.inl rfl))

theorem accounts_callSights (steps : Nat) (op : Operation) (s : State σ) :
    Accounts s (callSights t each steps op s) (outcome (op.run t steps) s).2 := by
  by_cases scans : op.scans = true
  · cases op with
    | next => exact accounts_stepSights attempts s
    | lex => exact (state_lex t steps s).symm ▸ accounts_lexSights attempts steps s
    | _ => cases scans
  · have plain : op.scans = false := by simpa using scans
    have none : callSights t each steps op s = [] := by
      cases op <;> first | rfl | cases plain
    obtain ⟨w, after⟩ := state_run t steps plain s
    rw [after, none]
    exact .nothing (op.lag_after t s)

theorem accounts_sights (steps : Nat) (program : Script σ) (s : State σ) :
    Accounts s (program.sights t each steps s) (outcome (program.play t steps) s).2 := by
  induction program generalizing s with
  | yield v => exact .here s
  | raise e => exact .here s
  | look next ih =>
    rw [Script.play, outcome_bind_ok (outcome_get s), Script.sights]
    exact ih s s
  | alter change next ih =>
    rw [Script.play, outcome_bind_ok (outcome_modify _ s), Script.sights]
    have changed : Accounts s [] { s with world := change s.world } := .nothing (.inl rfl)
    exact (Accounts.here s).append (changed.append (ih _))
  | call op next ih =>
    rw [Script.outcome_call, Script.sights]
    exact (Accounts.here s).append ((accounts_callSights attempts steps op s).append (ih _ _))

end

/-! ## Runs -/

theorem Session.accounts_actionSights (x : Session σ) (depth rule : Nat) (condition : String) (s : State σ) :
    Accounts s (x.actionSights depth rule condition s)
      (outcome ((x.tablesAt depth).action rule condition) s).2 := by
  -- Actions at one depth make calls at the depth below.
  induction depth generalizing rule condition s with
  | zero => exact .here s
  | succ depth ih => exact accounts_sights (settles_attempt ih) x.steps (x.scripts rule condition) s

theorem Session.accounts_sights (x : Session σ) (depth : Nat) (program : Script σ) (s : State σ) :
    Accounts s (x.sights depth program s) (outcome (program.play (x.tablesAt depth) x.steps) s).2 :=
  Scanner.accounts_sights (settles_attempt (x.accounts_actionSights depth)) x.steps program s

/-- Whatever is called in whatever order, in actions and outside of them: in every state of a run the length of the
current match is that of its text, or both differ as they did when the run began, or the length is too large by what
it was when a step of the run began that has kept no match. Every match of the run has the right length when its action
begins, and every step that keeps no match leaves the length that it has found, while the text is gone unless the next
match is to be appended to it. -/
theorem length_accounted (x : Session σ) (depth : Nat) (program : Script σ) (s : State σ) :
    (∀ now, .state now ∈ x.sights depth program s → now.lag = s.lag ∨ Owes (x.sights depth program s) now) ∧
      ∀ before attempts now, .step before attempts now ∈ x.sights depth program s →
        MeasuresStep before attempts now := by
  have accounts := x.accounts_sights depth program s
  exact ⟨accounts.seen, accounts.steps⟩

def lettered : Session Unit where
  tables :=
    { matchers := [fun _ rest => if rest.isEmpty then none else some 1]
      conditions := [(initialCondition, [0])]
      action := fun _ _ => return .none }
  scripts _ _ := .yield (.str "A")
  steps := 1

def lexTwice : Script Unit := .call .lex fun _ => .call .lex fun _ => .yield .none

/-- The second one is that at the end of the input. The step before it takes the text of the only match away, but not
its length. -/
theorem length_left_at_end :
    ∃ now, .state now ∈ lettered.sights 1 lexTwice { rest := ['a'], world := { memory := () } } ∧
      now.done = true ∧ now.text = [] ∧ now.length = 1 :=
  ⟨_, List.mem_of_getLast? rfl, rfl, rfl, rfl⟩

end LexGen.Scanner
