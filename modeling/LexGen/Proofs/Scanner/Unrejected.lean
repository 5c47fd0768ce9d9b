import LexGen.Proofs.Scanner.Selection
import LexGen.Proofs.Scanner.Trail

/-!
# Runs without rejections

A scanner whose actions may reject their matches tries rule after rule; one whose actions may not picks a rule
first. As long as nothing is rejected the two cannot be told apart.

* `Machine` is a scanner whose actions may call it and assign its fields; `Machine.events` lists the calls of a
  run, those of actions too, with what they come to.
* `Machine.backtracking_is_free`: a run without a call of `reject` is the same with and without backtracking.
-/

namespace LexGen.Scanner

variable {σ α : Type}

/-! ## Routines -/

/-- What is done with a scanner by code that may assign its fields. The mark of a rejected match is no such
field: only the call of `reject` sets it. -/
inductive Routine (σ : Type) where
  | yield (v : Value)
  | raise (e : Error)
  | look (next : State σ → Routine σ)
  | change (f : State σ → State σ) (next : Routine σ)
  | call (op : Operation) (next : Except Error Value → Routine σ)

def State.assign (f : State σ → State σ) (s : State σ) : State σ := { f s with rejected := s.rejected }

def Routine.play (t : Tables σ) (steps : Nat) : Routine σ → Run σ Value
  | yield v => return v
  | raise e => throw e
  | look next => do (next (← get)).play t steps
  | change f next => do
    modify (State.assign f)
    next.play t steps
  | call op next => do
    let result ← Script.make t steps op
    (next result).play t steps

theorem Routine.outcome_call (t : Tables σ) (steps : Nat) (op : Operation)
    (next : Except Error Value → Routine σ) (s : State σ) :
    outcome ((call op next).play t steps) s =
      outcome ((next (outcome (op.run t steps) s).1).play t steps) (outcome (op.run t steps) s).2 := by
  rw [play, outcome_bind_ok (Script.outcome_make t steps op s)]

/-! ## What is seen of a run -/

inductive Event (σ : Type) where
  | called (op : Operation)
  | returned (result : Except Error Value) (s : State σ)

def Event.rejects : Event σ → Bool
  | called .reject => true
  | _ => false

def Quiet (events : List (Event σ)) : Prop := ∀ event ∈ events, event.rejects = false

instance (events : List (Event σ)) : Decidable (Quiet events) :=
  inferInstanceAs (Decidable (∀ event ∈ events, event.rejects = false))

theorem quiet_iff_not_mem {events : List (Event σ)} : Quiet events ↔ .called .reject ∉ events := by
  constructor
  · intro quiet mem
    cases quiet _ mem
  · intro unused event mem
    unfold Event.rejects
    split
    · exact absurd mem unused
    · rfl

theorem quiet_cons {event : Event σ} {events : List (Event σ)} :
    Quiet (event :: events) ↔ event.rejects = false ∧ Quiet events :=
  List.forall_mem_cons

theorem quiet_append {first second : List (Event σ)} : Quiet (first ++ second) ↔ Quiet first ∧ Quiet second :=
  List.forall_mem_append

def Routine.events (t : Tables σ) (each : Nat → Text → State σ → List (Event σ)) (steps : Nat) :
    Routine σ → State σ → List (Event σ)
  | yield _, _ => []
  | raise _, _ => []
  | look next, s => (next s).events t each steps s
  | change f next, s => next.events t each steps (s.assign f)
  | call op next, s =>
    .called op :: callRecord t (fun _ => []) each steps op s ++
      .returned (outcome (op.run t steps) s).1 (outcome (op.run t steps) s).2 ::
        (next (outcome (op.run t steps) s).1).events t each steps (outcome (op.run t steps) s).2

def attemptEvents (t : Tables σ) (acting : Nat → String → State σ → List (Event σ)) (rule : Nat) (text : Text)
    (s : State σ) : List (Event σ) :=
  s.conditions.head?.toList.flatMap (acting rule · (s.commit t.ranges text))

/-- A scanner with a routine for each action. -/
structure Machine (σ : Type) where
  tables : Tables σ
  routines : (rule : Nat) → (condition : String) → Routine σ
  steps : Nat

namespace Machine

def tablesAt (x : Machine σ) : (depth : Nat) → Tables σ
  | 0 => { x.tables with action := fun _ _ => throw (.fault .endless) }
  | depth + 1 =>
    { x.tables with action := fun rule condition => (x.routines rule condition).play (x.tablesAt depth) x.steps }

def actionEvents (x : Machine σ) : (depth : Nat) → (rule : Nat) → (condition : String) → State σ →
    List (Event σ)
  | 0, _, _, _ => []
  | depth + 1, rule, condition, s =>
    (x.routines rule condition).events (x.tablesAt depth)
      (attemptEvents (x.tablesAt depth) (x.actionEvents depth)) x.steps s

/-- The calls that a routine makes when it is played from a state, and those that actions make meanwhile. -/
def events (x : Machine σ) (depth : Nat) (program : Routine σ) (s : State σ) : List (Event σ) :=
  program.events (x.tablesAt depth) (attemptEvents (x.tablesAt depth) (x.actionEvents depth)) x.steps s

def run (x : Machine σ) (depth : Nat) (program : Routine σ) (s : State σ) : Except Error Value × State σ :=
  outcome (program.play (x.tablesAt depth) x.steps) s

def withBacktracking (x : Machine σ) (backtracking : Bool) : Machine σ :=
  { x with tables := { x.tables with backtracking := backtracking } }

end Machine

/-! ## The mark of a rejected match -/

theorem rejected_reportHere (what : String) (s : State σ) :
    (outcome (reportHere what) s).2.rejected = s.rejected := by
  obtain ⟨w, told⟩ := state_reportHere what s
  rw [told]

theorem rejected_unmatched (s : State σ) :
    (outcome (unmatched : Run σ Value) s).2.rejected = s.rejected := by
  rw [outcome_unmatched]
  split
  · rfl
  · exact rejected_reportHere _ s

theorem Operation.after_accepted {op : Operation} (t : Tables σ) {s : State σ}
    (quiet : (Event.called op : Event σ).rejects = false) (accepted : s.rejected = false) :
    (op.after t s).rejected = false := by
  cases op with
  | reject => cases quiet
  | input =>
    rw [after]
    split <;> exact accepted
  | popState =>
    rw [after, State.popState]
    split <;> exact accepted
  | setInput text shared => rfl
  | _ => exact accepted

theorem concluded_accepted (t : Tables σ) (rule : Nat) (text : Text) (saved : State σ) {now : State σ}
    (accepted : now.rejected = false) :
    concluded t rule text saved now =
      if text.isEmpty && (saved.commit t.ranges text).isStuck now then
        outcome (reportHere (stuckComplaint rule)) now
      else (.ok .none, now) := by
  rw [concluded, accepted]
  rfl

/-! ## Steps with a single attempt -/

def settled (t : Tables σ) (rules : List Nat) (s : State σ) : Except Error Value × State σ :=
  match t.select s.before s.rest rules none with
  | .error e => (.error e, s)
  | .ok (some (rule, text)) => outcome (attempt t rule text) s
  | .ok none => outcome unmatched s

def settledRecord (t : Tables σ) (each : Nat → Text → State σ → List α) (rules : List Nat) (s : State σ) :
    List α :=
  match t.select s.before s.rest rules none with
  | .ok (some (rule, text)) => each rule text s
  | _ => []

section Settled

variable {t : Tables σ} (ordered : t.flex = false) (each : Nat → Text → State σ → List α)

include ordered in
theorem settledRecord_subset (rules : List Nat) (s : State σ) :
    settledRecord t each rules s ⊆ tryRecord t each rules s := by
  induction rules with
  | nil => simp [settledRecord, Tables.select]
  | cons rule rules ih =>
    rw [settledRecord, Tables.select, tryRecord]
    cases found : t.match? rule s.before s.rest with
    | error e => simp
    | ok found? =>
      cases found? with
      | none => exact ih
      | some text =>
        simp only [ordered, Bool.false_eq_true, if_false]
        exact List.subset_append_left _ _

include ordered in
/-- Rules are tried up to the first that matches, if that one does not reject its match. -/
theorem tryRules_settled {rules : List Nat} {s : State σ}
    (accepted : ∀ rule text, t.select s.before s.rest rules none = .ok (some (rule, text)) →
      (outcome (attempt t rule text) s).2.rejected = false) :
    tryRecord t each rules s = settledRecord t each rules s ∧
      outcome (tryRules t rules) s = settled t rules s := by
  induction rules with
  | nil => exact ⟨rfl, rfl⟩
  | cons rule rules ih =>
    rw [settledRecord, settled, outcome_tryRules_cons, tryRecord]
    rw [Tables.select] at accepted ⊢
    cases found : t.match? rule s.before s.rest with
    | error e => exact ⟨rfl, rfl⟩
    | ok found? =>
      rw [found] at accepted
      cases found? with
      | none => exact ih accepted
      | some text =>
        simp only [ordered, Bool.false_eq_true, if_false] at accepted ⊢
        have kept := accepted rule text rfl
        rcases ended : outcome (attempt t rule text) s with ⟨_ | token, now⟩
        · exact ⟨List.append_nil _, rfl⟩
        · rw [ended] at kept
          change now.rejected = false at kept
          cases token
          case none => simp [kept]
          all_goals exact ⟨List.append_nil _, rfl⟩

include ordered in
theorem settledRecord_subset_stepRecord {s : State σ} (running : s.done = false) {rules : List Nat}
    (current : t.currentRules s.start = .ok rules) :
    settledRecord t each rules s.start ⊆ stepRecord t (fun _ => []) each s := by
  rw [stepRecord, running, current]
  cases t.backtracking with
  | true => simpa using settledRecord_subset ordered each rules s.start
  | false => exact List.Subset.refl _

include ordered in
/-- Whether or not a step would try other rules after a rejection, it is settled by its first match. -/
theorem step_settled {s : State σ} (running : s.done = false) {rules : List Nat}
    (current : t.currentRules s.start = .ok rules)
    (accepted : ∀ rule text, t.select s.start.before s.start.rest rules none = .ok (some (rule, text)) →
      (outcome (attempt t rule text) s.start).2.rejected = false) :
    stepRecord t (fun _ => []) each s = settledRecord t each rules s.start ∧
      outcome (next t) s = settled t rules s.start := by
  rw [stepRecord, outcome_next, running, current]
  cases t.backtracking with
  | true => simpa using tryRules_settled ordered each accepted
  | false => exact ⟨rfl, rfl⟩

end Settled

/-! ## Two scanners -/

/-- Two parts of runs from one state, given by their events and by what they come to. If nothing is rejected in
the first then they are the same, and no mark of a rejected match appears. -/
def Alike (s : State σ) (events events' : List (Event σ)) (ended ended' : Except Error α × State σ) : Prop :=
  Quiet events → events' = events ∧ ended' = ended ∧ (s.rejected = false → ended.2.rejected = false)

theorem attempt_alike {t u : Tables σ} (ranges : u.ranges = t.ranges)
    {acting acting' : Nat → String → State σ → List (Event σ)}
    (action : ∀ rule condition s, Alike s (acting rule condition s) (acting' rule condition s)
      (outcome (t.action rule condition) s) (outcome (u.action rule condition) s))
    (rule : Nat) (text : Text) (s : State σ) (quiet : Quiet (attemptEvents t acting rule text s)) :
    attemptEvents u acting' rule text s = attemptEvents t acting rule text s ∧
      outcome (attempt u rule text) s = outcome (attempt t rule text) s ∧
      (outcome (attempt t rule text) s).2.rejected = false := by
  rw [attemptEvents, attemptEvents, outcome_attempt, outcome_attempt, ranges]
  rw [attemptEvents] at quiet
  cases entered : s.conditions with
  | nil => exact ⟨rfl, rfl, rfl⟩
  | cons condition others =>
    simp only [entered, List.head?_cons, Option.toList_some, List.flatMap_singleton] at quiet ⊢
    obtain ⟨events, ended, accepted⟩ := action rule condition (s.commit t.ranges text) quiet
    refine ⟨events, ?_⟩
    have kept := accepted rfl
    rw [ended]
    rcases acted : outcome (t.action rule condition) (s.commit t.ranges text) with ⟨_ | token, now⟩
    · rw [acted] at kept
      exact ⟨rfl, kept⟩
    · rw [acted] at kept
      have reopened : now.reopen.rejected = false := now.reopen_rejected.trans kept
      cases token
      case none =>
        dsimp only
        rw [concluded_accepted t rule text s reopened, concluded_accepted u rule text s reopened, ranges]
        refine ⟨rfl, ?_⟩
        split
        · exact (rejected_reportHere _ _).trans reopened
        · exact reopened
      all_goals exact ⟨rfl, reopened⟩

/-- Two scanners with the same rules, one after the other, with the events of their attempts. They may differ in
whether matches may be rejected, and their actions are alike. -/
structure Tables.Twins (t u : Tables σ) (each each' : Nat → Text → State σ → List (Event σ)) : Prop where
  matchers : u.matchers = t.matchers
  conditions : u.conditions = t.conditions
  ranges : u.ranges = t.ranges
  first : t.flex = false
  second : u.flex = false
  attempt : ∀ rule text s, Quiet (each rule text s) →
    each' rule text s = each rule text s ∧
      outcome (Scanner.attempt u rule text) s = outcome (Scanner.attempt t rule text) s ∧
      (outcome (Scanner.attempt t rule text) s).2.rejected = false

namespace Tables.Twins

variable {t u : Tables σ} {each each' : Nat → Text → State σ → List (Event σ)}

theorem select (twins : Twins t u each each') (before rest : Text) (rules : List Nat)
    (best : Option (Nat × Text)) : u.select before rest rules best = t.select before rest rules best :=
  select_congr twins.matchers (twins.second.trans twins.first.symm) before rest rules best

theorem currentRules (twins : Twins t u each each') (s : State σ) : u.currentRules s = t.currentRules s := by
  unfold Tables.currentRules Tables.rulesOf
  rw [twins.conditions]

theorem settled (twins : Twins t u each each') (rules : List Nat) (s : State σ) :
    Alike s (settledRecord t each rules s) (settledRecord u each' rules s) (Scanner.settled t rules s)
      (Scanner.settled u rules s) := by
  intro quiet
  rw [settledRecord] at quiet
  rw [settledRecord, settledRecord, Scanner.settled, Scanner.settled, twins.select]
  cases won : t.select s.before s.rest rules none with
  | error e => exact ⟨rfl, rfl, id⟩
  | ok best =>
    rcases best with _ | ⟨rule, text⟩
    · exact ⟨rfl, rfl, fun accepted => (rejected_unmatched s).trans accepted⟩
    · rw [won] at quiet
      obtain ⟨events, ended, accepted⟩ := twins.attempt rule text s quiet
      exact ⟨events, ended, fun _ => accepted⟩

theorem next (twins : Twins t u each each') (s : State σ) :
    Alike s (stepRecord t (fun _ => []) each s) (stepRecord u (fun _ => []) each' s)
      (outcome (Scanner.next t) s) (outcome (Scanner.next u) s) := by
  intro quiet
  cases running : s.done with
  | true => exact ⟨by simp [stepRecord, running], by simp [outcome_next, running], by simp [outcome_next, running]⟩
  | false =>
    cases current : t.currentRules s.start with
    | error e =>
      have current' := (twins.currentRules s.start).trans current
      refine ⟨by simp [stepRecord, running, current, current'], ?_, ?_⟩
      · simp [outcome_next, running, current, current']
      · simp [outcome_next, running, current]
    | ok rules =>
      have current' := (twins.currentRules s.start).trans current
      have first := settledRecord_subset_stepRecord twins.first each running current
      have quiet : Quiet (settledRecord t each rules s.start) := fun event mem => quiet event (first mem)
      have attempted : ∀ rule text, t.select s.start.before s.start.rest rules none = .ok (some (rule, text)) →
          outcome (Scanner.attempt u rule text) s.start = outcome (Scanner.attempt t rule text) s.start ∧
            (outcome (Scanner.attempt t rule text) s.start).2.rejected = false := by
        intro rule text won
        rw [settledRecord, won] at quiet
        exact (twins.attempt rule text s.start quiet).2
      obtain ⟨events, ended⟩ := step_settled twins.first each running current fun rule text won =>
        (attempted rule text won).2
      obtain ⟨events', ended'⟩ := step_settled twins.second each' running current' fun rule text won => by
        rw [twins.select] at won
        rw [(attempted rule text won).1]
        exact (attempted rule text won).2
      have alike := twins.settled rules s.start quiet
      rw [events, events', ended, ended', ← State.start_rejected s]
      exact alike

theorem lex? (twins : Twins t u each each') (steps : Nat) (s : State σ) :
    Alike s (lexRecord t (fun _ => []) each steps s) (lexRecord u (fun _ => []) each' steps s)
      (outcome (Scanner.lex? t steps) s) (outcome (Scanner.lex? u steps) s) := by
  induction steps generalizing s with
  | zero => exact fun _ => ⟨rfl, rfl, id⟩
  | succ steps ih =>
    intro quiet
    rw [lexRecord, quiet_append] at quiet
    obtain ⟨events, ended, accepted⟩ := twins.next s quiet.1
    rw [lexRecord, lexRecord, outcome_lex?_succ, outcome_lex?_succ, events, ended]
    rcases stepped : outcome (Scanner.next t) s with ⟨_ | token, now⟩
    · rw [stepped] at accepted
      exact ⟨rfl, rfl, accepted⟩
    · rw [stepped] at accepted quiet
      cases token
      case none =>
        obtain ⟨others, last, kept⟩ := ih now quiet.2
        exact ⟨congrArg (stepRecord t _ each s ++ ·) others, last, kept ∘ accepted⟩
      all_goals exact ⟨rfl, rfl, accepted⟩

theorem lex (twins : Twins t u each each') (steps : Nat) (s : State σ) :
    Alike s (lexRecord t (fun _ => []) each steps s) (lexRecord u (fun _ => []) each' steps s)
      (outcome (Scanner.lex t steps) s) (outcome (Scanner.lex u steps) s) := by
  intro quiet
  obtain ⟨events, ended, accepted⟩ := twins.lex? steps s quiet
  refine ⟨events, ?_, ?_⟩
  · rw [Scanner.lex, Scanner.lex, outcome_bind, outcome_bind, ended]
  · rwa [state_lex]

theorem run_plain (twins : Twins t u each each') (steps : Nat) {op : Operation} (plain : op.scans = false)
    (quiet : (Event.called op : Event σ).rejects = false) :
    (op.run u steps : Run σ Value) = op.run t steps := by
  cases op with
  | next | lex => cases plain
  | reject => cases quiet
  | setInput text shared => rw [Operation.run, Operation.run, Operation.startOn, Operation.startOn, twins.ranges]
  | currentRules => simp only [Operation.run, twins.currentRules]
  | _ => rfl

theorem run (twins : Twins t u each each') (steps : Nat) {op : Operation}
    (quiet : (Event.called op : Event σ).rejects = false) (s : State σ) :
    Alike s (callRecord t (fun _ => []) each steps op s) (callRecord u (fun _ => []) each' steps op s)
      (outcome (op.run t steps) s) (outcome (op.run u steps) s) := by
  by_cases scans : op.scans = true
  · cases op with
    | next => exact twins.next s
    | lex => exact twins.lex steps s
    | _ => cases scans
  · have plain : op.scans = false := by simpa using scans
    intro _
    rw [callRecord_plain plain, callRecord_plain plain, twins.run_plain steps plain quiet]
    obtain ⟨w, after⟩ := state_run t steps plain s
    rw [after]
    exact ⟨rfl, rfl, op.after_accepted t quiet⟩

theorem play (twins : Twins t u each each') (steps : Nat) (program : Routine σ) (s : State σ) :
    Alike s (program.events t each steps s) (program.events u each' steps s)
      (outcome (program.play t steps) s) (outcome (program.play u steps) s) := by
  induction program generalizing s with
  | yield v => exact fun _ => ⟨rfl, rfl, id⟩
  | raise e => exact fun _ => ⟨rfl, rfl, id⟩
  | look next ih => exact ih s s
  | change f next ih => exact ih (s.assign f)
  | call op next ih =>
    intro quiet
    rw [Routine.events, List.cons_append, quiet_cons, quiet_append, quiet_cons] at quiet
    obtain ⟨unrejected, within, -, others⟩ := quiet
    obtain ⟨events, ended, accepted⟩ := twins.run steps unrejected s within
    obtain ⟨rest, last, kept⟩ := ih _ _ others
    rw [Routine.events, Routine.events, Routine.outcome_call, Routine.outcome_call, events, ended, rest, last]
    exact ⟨rfl, rfl, kept ∘ accepted⟩

end Tables.Twins

/-! ## Machines -/

namespace Machine

theorem twins (x : Machine σ) (ordered : x.tables.flex = false) (first second : Bool) (depth : Nat) :
    Tables.Twins ((x.withBacktracking first).tablesAt depth) ((x.withBacktracking second).tablesAt depth)
      (attemptEvents ((x.withBacktracking first).tablesAt depth) ((x.withBacktracking first).actionEvents depth))
      (attemptEvents ((x.withBacktracking second).tablesAt depth)
        ((x.withBacktracking second).actionEvents depth)) := by
  -- Actions at one depth make calls at the depth below.
  induction depth with
  | zero =>
    exact ⟨rfl, rfl, rfl, ordered, ordered, attempt_alike rfl fun _ _ _ _ => ⟨rfl, rfl, id⟩⟩
  | succ depth ih =>
    have action : ∀ rule condition s, Alike s ((x.withBacktracking first).actionEvents (depth + 1) rule condition s)
        ((x.withBacktracking second).actionEvents (depth + 1) rule condition s)
        (outcome (((x.withBacktracking first).tablesAt (depth + 1)).action rule condition) s)
        (outcome (((x.withBacktracking second).tablesAt (depth + 1)).action rule condition) s) :=
      fun rule condition s => ih.play x.steps (x.routines rule condition) s
    have ranges : ((x.withBacktracking second).tablesAt (depth + 1)).ranges =
      ((x.withBacktracking first).tablesAt (depth + 1)).ranges := rfl
    exact ⟨rfl, rfl, ranges, ordered, ordered, attempt_alike ranges action⟩

/-- Without the flex policy, a run without a call of `reject` is the same whether or not matches may be
rejected: it makes the same calls with the same results, each of them leaves the same state, and it comes to
the same end. -/
theorem backtracking_is_free (x : Machine σ) (ordered : x.tables.flex = false) (first second : Bool)
    (depth : Nat) (program : Routine σ) (s : State σ)
    (unused : Event.called .reject ∉ (x.withBacktracking first).events depth program s) :
    (x.withBacktracking second).events depth program s = (x.withBacktracking first).events depth program s ∧
      (x.withBacktracking second).run depth program s = (x.withBacktracking first).run depth program s := by
  obtain ⟨events, ended, -⟩ :=
    (x.twins ordered first second depth).play x.steps program s (quiet_iff_not_mem.2 unused)
  exact ⟨events, ended⟩

/-- The first rule takes a word for another and gives its end back; the second enters another condition without
consuming input; the third, active there, takes a letter. -/
def trimming : Machine Unit where
  tables := {
    matchers := [fun _ rest => if rest.head? = some 'a' then some 2 else none, fun _ _ => some 0, fun _ _ => some 1]
    conditions := [(initialCondition, [0, 1]), ("letters", [2])]
    action := fun _ _ => return .none }
  routines
    | 0, _ => .call (.less 1) fun _ => .change (fun s => { s with text := "x".toList, offset := 7 }) <|
      .call .showPosition fun shown => match shown with
        | .ok v => .yield v
        | .error e => .raise e
    | 1, _ => .call (.begin "letters") fun _ => .yield .none
    | _, _ => .call .input fun _ => .yield (.str "letter")
  steps := 3

def threeTokens : Routine Unit :=
  .call (.setInput "abcd".toList none) fun _ => .call .lex fun _ => .call .lex fun _ => .call .lex fun _ =>
    .yield .none

theorem backtracking_is_free_trimming :
    Event.called .reject ∉ (trimming.withBacktracking true).events 1 threeTokens { world := { memory := () } } ∧
      (trimming.withBacktracking false).events 1 threeTokens { world := { memory := () } } =
        (trimming.withBacktracking true).events 1 threeTokens { world := { memory := () } } ∧
      (trimming.withBacktracking false).run 1 threeTokens { world := { memory := () } } =
        (trimming.withBacktracking true).run 1 threeTokens { world := { memory := () } } := by
  have unused : Event.called .reject ∉
      (trimming.withBacktracking true).events 1 threeTokens { world := { memory := () } } :=
    quiet_iff_not_mem.1 (by decide)
  exact ⟨unused, trimming.backtracking_is_free rfl true false 1 threeTokens _ unused⟩

end Machine

end LexGen.Scanner
