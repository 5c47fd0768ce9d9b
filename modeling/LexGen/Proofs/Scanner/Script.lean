import LexGen.Proofs.Scanner.Outcome

/-!
# Scripts

A script says what an action does, or what is done with a scanner from outside: which calls it makes, in
which order, and how it goes on with what they come to. Scripts are trees, so that one can speak of every
state that is passed through while a script is played, and of every call that it makes.

* `Session` gives the actions of a scanner as scripts; actions may call the scanner again, to any depth.
* `Session.states` lists the states that a script passes through, with those inside of actions.
-/

namespace LexGen.Scanner

variable {σ α : Type}

/-! ## Scripts -/

/-- What is done with a scanner, call by call. -/
inductive Script (σ : Type) where
  | yield (v : Value)
  | raise (e : Error)
  | look (next : State σ → Script σ)
  | alter (change : World σ → World σ) (next : Script σ)
  | call (op : Operation) (next : Except Error Value → Script σ)

namespace Script

def make (t : Tables σ) (steps : Nat) (op : Operation) : Run σ (Except Error Value) :=
  tryCatch (do return .ok (← op.run t steps)) fun e => return .error e

def play (t : Tables σ) (steps : Nat) : Script σ → Run σ Value
  | yield v => return v
  | raise e => throw e
  | look next => do (next (← get)).play t steps
  | alter change next => do
    modify fun s => { s with world := change s.world }
    next.play t steps
  | call op next => do
    let result ← make t steps op
    (next result).play t steps

def Makes (allowed : Operation → Prop) : Script σ → Prop
  | yield _ => True
  | raise _ => True
  | look next => ∀ s, (next s).Makes allowed
  | alter _ next => next.Makes allowed
  | call op next => allowed op ∧ ∀ result, (next result).Makes allowed

theorem makes_true (program : Script σ) : program.Makes fun _ => True := by
  induction program with
  | yield v => trivial
  | raise e => trivial
  | look next ih => exact ih
  | alter change next ih => exact ih
  | call op next ih => exact ⟨trivial, ih⟩

theorem Makes.mono {allowed permitted : Operation → Prop} (all : ∀ op, allowed op → permitted op)
    {program : Script σ} (makes : program.Makes allowed) : program.Makes permitted := by
  induction program with
  | yield v => trivial
  | raise e => trivial
  | look next ih => exact fun s => ih s (makes s)
  | alter change next ih => exact ih makes
  | call op next ih => exact ⟨all op makes.1, fun result => ih result (makes.2 result)⟩

theorem outcome_make (t : Tables σ) (steps : Nat) (op : Operation) (s : State σ) :
    outcome (make t steps op) s =
      (.ok (outcome (op.run t steps) s).1, (outcome (op.run t steps) s).2) := by
  rw [make, outcome_tryCatch, outcome_bind]
  rcases outcome (op.run t steps) s with ⟨_ | v, now⟩ <;> rfl

theorem outcome_call (t : Tables σ) (steps : Nat) (op : Operation) (next : Except Error Value → Script σ)
    (s : State σ) :
    outcome ((call op next).play t steps) s =
      outcome ((next (outcome (op.run t steps) s).1).play t steps) (outcome (op.run t steps) s).2 := by
  rw [play, outcome_bind_ok (outcome_make t steps op s)]

end Script

/-! ## Sessions -/

/-- A scanner with a script for each action. -/
structure Session (σ : Type) where
  tables : Tables σ
  scripts : (rule : Nat) → (condition : String) → Script σ
  steps : Nat

namespace Session

def tablesAt (x : Session σ) : (depth : Nat) → Tables σ
  | 0 => { x.tables with action := fun _ _ => throw (.fault .endless) }
  | depth + 1 =>
    { x.tables with action := fun rule condition => (x.scripts rule condition).play (x.tablesAt depth) x.steps }

@[simp] theorem tablesAt_ranges (x : Session σ) (depth : Nat) :
    (x.tablesAt depth).ranges = x.tables.ranges := by
  cases depth <;> rfl

@[simp] theorem tablesAt_backtracking (x : Session σ) (depth : Nat) :
    (x.tablesAt depth).backtracking = x.tables.backtracking := by
  cases depth <;> rfl

end Session

/-! ## What is recorded of runs

`mark` is recorded of the states between calls and between steps, `each` of every attempt of a rule. -/

section Record

variable (t : Tables σ) (mark : State σ → List α) (each : Nat → Text → State σ → List α)

def tryRecord : List Nat → State σ → List α
  | [], _ => []
  | rule :: rules, s =>
    match t.match? rule s.before s.rest with
    | .error _ => []
    | .ok none => tryRecord rules s
    | .ok (some text) =>
      each rule text s ++
        match outcome (attempt t rule text) s with
        | (.ok .none, now) => if now.rejected then tryRecord rules now else []
        | _ => []

def stepRecord (s : State σ) : List α :=
  if s.done then []
  else mark s.start ++ match t.currentRules s.start with
    | .error _ => []
    | .ok rules =>
      if t.backtracking then tryRecord t each rules s.start
      else match t.select s.start.before s.start.rest rules none with
        | .ok (some (rule, text)) => each rule text s.start
        | _ => []

def lexRecord : (steps : Nat) → State σ → List α
  | 0, _ => []
  | steps + 1, s =>
    stepRecord t mark each s ++
      match outcome (next t) s with
      | (.ok .none, now) => mark now ++ lexRecord steps now
      | _ => []

def callRecord (steps : Nat) : Operation → State σ → List α
  | .next, s => stepRecord t mark each s
  | .lex, s => lexRecord t mark each steps s
  | _, _ => []

def Script.record (steps : Nat) : Script σ → State σ → List α
  | yield _, s => mark s
  | raise _, s => mark s
  | look next, s => (next s).record steps s
  | alter change next, s => mark s ++ next.record steps { s with world := change s.world }
  | call op next, s =>
    mark s ++ callRecord t mark each steps op s ++
      (next (outcome (op.run t steps) s).1).record steps (outcome (op.run t steps) s).2

end Record

/-! ## The states of a run -/

def attemptStates (t : Tables σ) (acting : Nat → String → State σ → List (State σ)) (rule : Nat)
    (text : Text) (s : State σ) : List (State σ) :=
  let entered := s.commit t.ranges text
  entered :: entered.conditions.head?.toList.flatMap (acting rule · entered) ++
    [(outcome (attempt t rule text) s).2]

namespace Session

def actionStates (x : Session σ) : (depth : Nat) → (rule : Nat) → (condition : String) → State σ →
    List (State σ)
  | 0, _, _, s => [s]
  | depth + 1, rule, condition, s =>
    (x.scripts rule condition).record (x.tablesAt depth) (fun s => [s])
      (attemptStates (x.tablesAt depth) (x.actionStates depth)) x.steps s

/-- The states that a script passes through when it is played from a state: between its calls and inside of
them, in actions too. -/
def states (x : Session σ) (depth : Nat) (program : Script σ) (s : State σ) : List (State σ) :=
  program.record (x.tablesAt depth) (fun s => [s]) (attemptStates (x.tablesAt depth) (x.actionStates depth))
    x.steps s

end Session

/-! ## The attempts of a run -/

/-- An attempt of a rule, with the state that it began with, the state that its action found and the state that
it left. -/
structure Attempt (σ : Type) where
  source : State σ
  text : Text
  entered : State σ
  after : State σ
  kept : Bool

def keepsMatch (t : Tables σ) : Except Error Value × State σ → Bool
  | (.ok .none, now) => !(t.backtracking && now.rejected)
  | _ => true

theorem keepsMatch_of_accepted (t : Tables σ) {ended : Except Error Value × State σ}
    (accepted : ended.2.rejected = false) : keepsMatch t ended = true := by
  unfold keepsMatch
  split
  · simpa using Or.inr accepted
  · rfl

def attemptOf (t : Tables σ) (rule : Nat) (text : Text) (s : State σ) : Attempt σ where
  source := s
  text := text
  entered := s.commit t.ranges text
  after := (outcome (attempt t rule text) s).2
  kept := keepsMatch t (outcome (attempt t rule text) s)

def Session.attempts (x : Session σ) (depth : Nat) (program : Script σ) (s : State σ) : List (Attempt σ) :=
  program.record (x.tablesAt depth) (fun _ => []) (fun rule text s => [attemptOf (x.tablesAt depth) rule text s])
    x.steps s

end LexGen.Scanner
