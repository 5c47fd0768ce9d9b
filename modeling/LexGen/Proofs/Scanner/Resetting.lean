import LexGen.Proofs.Scanner.Termination
import Mathlib.Data.List.Forall2

/-!
# Starting on another text

When a scanner starts on a text, nothing is left of what it has scanned before: neither the position nor the current
match, nor marks that an action has set before it failed, nor the stack of start conditions. Only the world is kept, and
with it what actions remember on their own. So the property is about two scanners whose worlds need not be equal.

* `Unnoticed` is a relation of worlds that the scanner itself neither notices nor breaks up; `Agrees` says that work on
  states that are equal up to such worlds ends alike.
* `agrees_run`: calls end alike if actions do; `Session.respects` says which scripts do.
* `setInput_forgets`: after a start on the same text, all further calls end alike.
-/

namespace LexGen.Scanner

variable {σ α β : Type}

/-! ## States that are equal up to the world -/

namespace State

def inWorld (w : World σ) (s : State σ) : State σ := { s with world := w }

@[simp] theorem inWorld_before (w : World σ) (s : State σ) : (s.inWorld w).before = s.before := rfl

@[simp] theorem inWorld_rest (w : World σ) (s : State σ) : (s.inWorld w).rest = s.rest := rfl

@[simp] theorem inWorld_done (w : World σ) (s : State σ) : (s.inWorld w).done = s.done := rfl

@[simp] theorem inWorld_rejected (w : World σ) (s : State σ) : (s.inWorld w).rejected = s.rejected := rfl

@[simp] theorem inWorld_conditions (w : World σ) (s : State σ) : (s.inWorld w).conditions = s.conditions := rfl

@[simp] theorem inWorld_world (w : World σ) (s : State σ) : (s.inWorld w).world = w := rfl

theorem inWorld_commit (ranges : Bool) (text : Text) (w : World σ) (s : State σ) :
    (s.inWorld w).commit ranges text = (s.commit ranges text).inWorld w := rfl

theorem inWorld_reopen (w : World σ) (s : State σ) : (s.inWorld w).reopen = s.reopen.inWorld w := by
  rw [reopen, reopen, inWorld_rest]
  split <;> rfl

theorem inWorld_start (w : World σ) (s : State σ) : (s.inWorld w).start = s.start.inWorld w := by
  obtain ⟨⟩ := s
  unfold start inWorld
  split <;> dsimp only <;> split <;> rfl

theorem inWorld_popState (w : World σ) (s : State σ) :
    (s.inWorld w).popState = s.popState.map fun left => (left.1, left.2.inWorld w) := by
  obtain ⟨⟩ := s
  unfold popState inWorld
  dsimp only
  split <;> rfl

theorem popState_world {s now : State σ} {condition : String} (left : s.popState = some (condition, now)) :
    now.world = s.world := by
  unfold popState at left
  split at left <;> cases left <;> rfl

end State

/-- A relation of worlds with the same shared object that stays when both are told an error, when text is written to
both, and when both are given another object. -/
structure Unnoticed (R : World σ → World σ → Prop) : Prop where
  shared : ∀ {w w'}, R w w' → w'.shared = w.shared
  told : ∀ {w w'} report, R w w' →
    R { w with reports := w.reports ++ [report] } { w' with reports := w'.reports ++ [report] }
  written : ∀ {w w'} text, R w w' → R { w with output := w.output ++ text } { w' with output := w'.output ++ text }
  given : ∀ {w w'} object, R w w' → R { w with shared := object } { w' with shared := object }

theorem unnoticed_eq : Unnoticed (fun w w' : World σ => w' = w) where
  shared := by
    rintro w _ rfl
    rfl
  told := by
    rintro w _ report rfl
    rfl
  written := by
    rintro w _ text rfl
    rfl
  given := by
    rintro w _ object rfl
    rfl

def EndsAlike (R : World σ → World σ → Prop) (ended ended' : Except Error α × State σ) : Prop :=
  ∃ w, R ended.2.world w ∧ ended' = (ended.1, ended.2.inWorld w)

def Agrees (R : World σ → World σ → Prop) (x : Run σ α) : Prop :=
  ∀ s w, R s.world w → EndsAlike R (outcome x s) (outcome x (s.inWorld w))

def Tables.Respects (t : Tables σ) (R : World σ → World σ → Prop) : Prop :=
  ∀ rule condition, Agrees R (t.action rule condition)

theorem agrees_of_eq (x : Run σ α) : Agrees (fun w w' => w' = w) x := by
  rintro s _ rfl
  exact ⟨_, rfl, rfl⟩

theorem endsAlike_eq {ended ended' : Except Error α × State σ} :
    EndsAlike (fun w w' => w' = w) ended ended' ↔ ended' = ended := by
  constructor
  · rintro ⟨_, rfl, same⟩
    exact same
  · rintro rfl
    exact ⟨_, rfl, rfl⟩

variable {R : World σ → World σ → Prop}

theorem EndsAlike.same (result : Except Error α) {s : State σ} {w : World σ} (related : R s.world w) :
    EndsAlike R (result, s) (result, s.inWorld w) :=
  ⟨w, related, rfl⟩

theorem Agrees.bind {x : Run σ α} {f : α → Run σ β} (agrees : Agrees R x) (others : ∀ a, Agrees R (f a)) :
    Agrees R (x >>= f) := by
  intro s w related
  obtain ⟨w', related', same⟩ := agrees s w related
  rw [outcome_bind, outcome_bind, same]
  rcases ended : outcome x s with ⟨e | a, now⟩ <;> rw [ended] at related'
  · exact .same _ related'
  · exact others a now w' related'

theorem agrees_pure (a : α) : Agrees R (return a : Run σ α) :=
  fun _ _ related => .same _ related

/-! ## Calls that leave the world alone -/

theorem agrees_of_blind {x : Run σ α} (result : State σ → Except Error α) (after : State σ → State σ)
    (ends : ∀ s, outcome x s = (result s, after s)) (sees : ∀ s w, result (s.inWorld w) = result s)
    (commutes : ∀ s w, after (s.inWorld w) = (after s).inWorld w) (keeps : ∀ s, (after s).world = s.world) :
    Agrees R x := by
  intro s w related
  rw [ends, ends, sees, commutes]
  exact .same _ (by rwa [keeps])

theorem agrees_look (see : State σ → Value) (blind : ∀ s w, see (s.inWorld w) = see s) :
    Agrees R (do return see (← get)) :=
  agrees_of_blind (fun s => .ok (see s)) id (fun _ => rfl) (fun s w => by rw [blind]) (fun _ _ => rfl) fun _ => rfl

theorem agrees_change (change : State σ → State σ) (v : Value)
    (commutes : ∀ s w, change (s.inWorld w) = (change s).inWorld w) (keeps : ∀ s, (change s).world = s.world) :
    Agrees R (do
      modify change
      return v) :=
  agrees_of_blind (fun _ => .ok v) change (fun _ => rfl) (fun _ _ => rfl) commutes keeps

theorem agrees_input : Agrees R (do return Operation.textValue (← input)) := by
  intro s w related
  rcases s with ⟨before, _ | ⟨c, rest⟩⟩ <;> exact .same _ related

theorem agrees_leaveCondition : Agrees R Operation.leaveCondition := by
  intro s w related
  have ends (s : State σ) : outcome Operation.leaveCondition s =
      s.popState.elim (.error (.fault .badIndex), s) fun left => (.ok (.str left.1), left.2) := by
    rw [Operation.leaveCondition, outcome_bind_ok (outcome_get s)]
    cases s.popState <;> rfl
  rw [ends, ends, State.inWorld_popState]
  cases left : s.popState with
  | none => exact .same _ related
  | some popped => exact .same _ (by rwa [State.popState_world left])

theorem agrees_currentRules (t : Tables σ) (steps : Nat) : Agrees R (Operation.currentRules.run t steps) := by
  intro s w related
  have ends (s : State σ) : outcome (Operation.currentRules.run t steps) s =
      ((t.currentRules s).map fun rules => .list (rules.map fun (rule : Nat) => .int rule), s) := by
    rw [Operation.run, outcome_bind_ok (outcome_get s), outcome_bind, outcome_lift]
    cases t.currentRules s <;> rfl
  rw [ends, ends]
  exact .same _ related

/-- The script goes by nothing in which related worlds differ, and changes related worlds to related ones. -/
def Script.Respects (R : World σ → World σ → Prop) : Script σ → Prop
  | yield _ => True
  | raise _ => True
  | look next => (∀ s w, R s.world w → next (s.inWorld w) = next s) ∧ ∀ s, (next s).Respects R
  | alter change next => (∀ {w w'}, R w w' → R (change w) (change w')) ∧ next.Respects R
  | call _ next => ∀ result, (next result).Respects R

def replies (t : Tables σ) (steps : Nat) : List Operation → State σ → List (Except Error Value × State σ)
  | [], _ => []
  | op :: ops, s => outcome (op.run t steps) s :: replies t steps ops (outcome (op.run t steps) s).2

/-! ## Errors -/

section Respecting

variable (unnoticed : Unnoticed R)

include unnoticed

theorem agrees_report (message : String) (details : Value) : Agrees R (report message details : Run σ Value) := by
  intro s w related
  rw [outcome_report, outcome_report, s.inWorld_world, unnoticed.shared related]
  cases s.world.shared.handler with
  | some answer => exact ⟨_, unnoticed.told ⟨message, details⟩ related, rfl⟩
  | none => exact .same _ related

theorem agrees_reportHere (what : String) : Agrees R (reportHere what : Run σ Value) := by
  intro s w related
  rw [outcome_reportHere, outcome_reportHere, s.inWorld_world, unnoticed.shared related]
  cases s.world.shared.handler with
  | some answer => exact ⟨_, unnoticed.told ⟨s.complaint what, errorDetails s.line⟩ related, rfl⟩
  | none => exact .same _ related

theorem agrees_unmatched : Agrees R (unmatched : Run σ Value) := by
  intro s w related
  rw [outcome_unmatched, outcome_unmatched, s.inWorld_rest]
  split
  · exact .same _ related
  · exact agrees_reportHere unnoticed _ s w related

theorem agrees_reject (t : Tables σ) : Agrees R (reject t) := by
  unfold reject
  split
  · exact agrees_change (fun s => { s with rejected := true }) .scanner (fun _ _ => rfl) fun _ => rfl
  · exact agrees_reportHere unnoticed _

/-! ## Steps -/

variable {t : Tables σ}

theorem concluded_alike (rule : Nat) (text : Text) (saved : State σ) (before : World σ) {now : State σ} {w : World σ}
    (related : R now.world w) :
    EndsAlike R (concluded t rule text saved now) (concluded t rule text (saved.inWorld before) (now.inWorld w)) := by
  unfold concluded
  change EndsAlike R _ (if now.rejected then _ else
    if text.isEmpty && (saved.commit t.ranges text).isStuck now then _ else _)
  split
  · split
    · exact ⟨w, related, rfl⟩
    · exact .same _ related
  · split
    · exact agrees_reportHere unnoticed _ now w related
    · exact .same _ related

variable (actions : t.Respects R)

include actions

theorem agrees_attempt (rule : Nat) (text : Text) : Agrees R (attempt t rule text) := by
  intro s w related
  rw [outcome_attempt, outcome_attempt, s.inWorld_conditions]
  cases s.conditions with
  | nil => exact .same _ related
  | cons condition others =>
    obtain ⟨w', related', same⟩ := actions rule condition (s.commit t.ranges text) w related
    dsimp only
    rw [State.inWorld_commit, same]
    rcases ended : outcome (t.action rule condition) (s.commit t.ranges text) with ⟨e | token, now⟩ <;>
      rw [ended] at related'
    · exact .same _ related'
    · rw [← now.reopen_world] at related'
      cases token
      case none =>
        dsimp only
        rw [State.inWorld_reopen]
        exact concluded_alike unnoticed rule text s w related'
      all_goals
        dsimp only
        rw [State.inWorld_reopen]
        exact .same _ related'

theorem agrees_tryRules (rules : List Nat) : Agrees R (tryRules t rules) := by
  induction rules with
  | nil => exact agrees_unmatched unnoticed
  | cons rule rules ih =>
    intro s w related
    rw [outcome_tryRules_cons, outcome_tryRules_cons, s.inWorld_before, s.inWorld_rest]
    cases t.match? rule s.before s.rest with
    | error e => exact .same _ related
    | ok found? =>
      cases found? with
      | none => exact ih s w related
      | some text =>
        obtain ⟨w', related', same⟩ := agrees_attempt unnoticed actions rule text s w related
        dsimp only
        rw [same]
        rcases ended : outcome (attempt t rule text) s with ⟨e | token, now⟩ <;> rw [ended] at related'
        · exact .same _ related'
        · cases token
          case none =>
            dsimp only
            rw [now.inWorld_rejected]
            split
            · exact ih now w' related'
            · exact .same _ related'
          all_goals exact .same _ related'

theorem agrees_next : Agrees R (next t) := by
  intro s w related
  have started : R s.start.world w := by rwa [s.start_world]
  have current : t.currentRules (s.start.inWorld w) = t.currentRules s.start := rfl
  rw [outcome_next, outcome_next, s.inWorld_done, s.inWorld_start, current, s.start.inWorld_before,
    s.start.inWorld_rest]
  split
  · exact .same _ related
  · cases t.currentRules s.start with
    | error e => exact .same _ started
    | ok rules =>
      dsimp only
      split
      · exact agrees_tryRules unnoticed actions rules s.start w started
      · rcases t.select s.start.before s.start.rest rules none with e | _ | ⟨rule, text⟩
        · exact .same _ started
        · exact agrees_unmatched unnoticed s.start w started
        · exact agrees_attempt unnoticed actions rule text s.start w started

theorem agrees_lex? (steps : Nat) : Agrees R (lex? t steps) := by
  induction steps with
  | zero => exact agrees_pure none
  | succ steps ih =>
    rw [lex?]
    refine (agrees_next unnoticed actions).bind fun token => ?_
    cases token
    case none => exact ih
    all_goals exact agrees_pure _

theorem agrees_lex (steps : Nat) : Agrees R (lex t steps) := by
  refine (agrees_lex? unnoticed actions steps).bind fun token => ?_
  cases token with
  | some token => exact agrees_pure token
  | none => exact fun _ _ related => .same _ related

/-! ## Calls -/

theorem agrees_run (steps : Nat) (op : Operation) : Agrees R (op.run t steps) := by
  cases op with
  | setInput text shared =>
    intro s w related
    cases shared with
    | some object => exact .same _ (unnoticed.given object related)
    | none => exact .same _ related
  | next => exact agrees_next unnoticed actions
  | lex => exact agrees_lex unnoticed actions steps
  | input => exact agrees_input
  | unput text => exact agrees_change (·.unput text) .scanner (fun _ _ => rfl) fun _ => rfl
  | less n => exact agrees_change (·.less n) .none (fun _ _ => rfl) fun _ => rfl
  | more => exact agrees_change (fun s => { s with more := true }) .scanner (fun _ _ => rfl) fun _ => rfl
  | reject => exact agrees_reject unnoticed t
  | echo text => exact fun s w related => .same _ (unnoticed.written text related)
  | report message details => exact agrees_report unnoticed message details
  | begin condition => exact agrees_change (·.begin condition) .none (fun _ _ => rfl) fun _ => rfl
  | popState => exact agrees_leaveCondition
  | topState n => exact agrees_look (fun s => .str (s.topState n)) fun _ _ => rfl
  | stateStackSize => exact agrees_look (fun s => .int s.conditions.length) fun _ _ => rfl
  | currentRules => exact agrees_currentRules t steps
  | pastInput => exact agrees_look (fun s => Operation.textValue s.pastInput) fun _ _ => rfl
  | upcomingInput => exact agrees_look (fun s => Operation.textValue s.upcomingInput) fun _ _ => rfl
  | showPosition => exact agrees_look (fun s => Operation.textValue s.showPosition) fun _ _ => rfl

theorem replies_alike (steps : Nat) (ops : List Operation) {s : State σ} {w : World σ} (related : R s.world w) :
    List.Forall₂ (EndsAlike R) (replies t steps ops s) (replies t steps ops (s.inWorld w)) := by
  induction ops generalizing s w with
  | nil => exact .nil
  | cons op ops ih =>
    have alike := agrees_run unnoticed actions steps op s w related
    refine .cons alike ?_
    obtain ⟨w', related', same⟩ := alike
    rw [same]
    exact ih related'

theorem agrees_play (steps : Nat) {script : Script σ} (respects : script.Respects R) :
    Agrees R (script.play t steps) := by
  induction script with
  | yield v => exact agrees_pure v
  | raise e => exact fun _ _ related => .same _ related
  | look next ih =>
    intro s w related
    rw [Script.play, outcome_bind_ok (outcome_get s), outcome_bind_ok (outcome_get _), respects.1 s w related]
    exact ih s (respects.2 s) s w related
  | alter change next ih =>
    intro s w related
    rw [Script.play, outcome_bind_ok (outcome_modify _ s), outcome_bind_ok (outcome_modify _ _)]
    exact ih respects.2 { s with world := change s.world } (change w) (respects.1 related)
  | call op next ih =>
    refine Agrees.bind ?_ fun result => ih result (respects result)
    intro s w related
    obtain ⟨w', related', same⟩ := agrees_run unnoticed actions steps op s w related
    rw [Script.outcome_make, Script.outcome_make, same]
    exact .same _ related'

end Respecting

theorem Session.respects (x : Session σ) (unnoticed : Unnoticed R)
    (scripts : ∀ rule condition, (x.scripts rule condition).Respects R) (depth : Nat) :
    (x.tablesAt depth).Respects R := by
  induction depth with
  | zero => exact fun _ _ _ _ related => .same _ related
  | succ depth ih => exact fun rule condition => agrees_play unnoticed ih x.steps (scripts rule condition)

/-! ## Starting -/

def World.given (shared : Option Shared) (w : World σ) : World σ :=
  match shared with
  | some object => { w with shared := object }
  | none => w

theorem outcome_startOn (t : Tables σ) (text : Text) (shared : Option Shared) (s : State σ) :
    outcome (Operation.startOn t text shared) s =
      (.ok .scanner, State.setInput t.ranges text { s with world := s.world.given shared }) := by
  cases shared <;> rfl

/-- After a start on the same text, two scanners reply alike to all calls, whatever states they have been in. The first
component speaks of equal worlds, with any actions at all. The second is for worlds that differ in what the actions do
not go by, such as their memory or what has been written and told before. -/
theorem setInput_forgets (t : Tables σ) (steps : Nat) (text : Text) (shared : Option Shared) (ops : List Operation)
    (s s' : State σ) :
    (s'.world.given shared = s.world.given shared →
      replies t steps (.setInput text shared :: ops) s' = replies t steps (.setInput text shared :: ops) s) ∧
    ∀ R : World σ → World σ → Prop, Unnoticed R → t.Respects R → R (s.world.given shared) (s'.world.given shared) →
      List.Forall₂ (EndsAlike R) (replies t steps (.setInput text shared :: ops) s)
        (replies t steps (.setInput text shared :: ops) s') := by
  have alike (R : World σ → World σ → Prop) (unnoticed : Unnoticed R) (actions : t.Respects R)
      (related : R (s.world.given shared) (s'.world.given shared)) :
      List.Forall₂ (EndsAlike R) (replies t steps (.setInput text shared :: ops) s)
        (replies t steps (.setInput text shared :: ops) s') := by
    simp only [replies, Operation.run, outcome_startOn]
    exact .cons (.same _ related) (replies_alike unnoticed actions steps ops related)
  refine ⟨fun same => ?_, alike⟩
  have equal := alike _ unnoticed_eq (fun rule condition => agrees_of_eq _) same
  rw [← List.forall₂_eq_eq_eq]
  exact (equal.imp fun _ _ => endsAlike_eq.1).flip

/-- Worlds with the same shared object, in which the same has been written and told since the given ones. -/
structure Since (old old' w w' : World σ) : Prop where
  shared : w'.shared = w.shared
  written : ∃ text, w.output = old.output ++ text ∧ w'.output = old'.output ++ text
  told : ∃ reports, w.reports = old.reports ++ reports ∧ w'.reports = old'.reports ++ reports

theorem unnoticed_since (old old' : World σ) : Unnoticed (Since old old') where
  shared since := since.shared
  told := by
    rintro _ _ report ⟨shared, written, reports, told, told'⟩
    exact ⟨shared, written, reports ++ [report], by simp [told], by simp [told']⟩
  written := by
    rintro _ _ text ⟨shared, ⟨earlier, written, written'⟩, told⟩
    exact ⟨shared, ⟨earlier ++ text, by simp [written], by simp [written']⟩, told⟩
  given _ since := ⟨rfl, since.written, since.told⟩

/-- One character a token. Its action writes a mark and counts in its memory. -/
def tallying : Session Nat where
  tables :=
    { matchers := [fun _ rest => if rest.isEmpty then none else some 1]
      conditions := [(initialCondition, [0])]
      action := fun _ _ => return .none }
  scripts _ _ := .call (.echo ['.']) fun _ => .alter (fun w => { w with memory := w.memory + 1 }) (.yield (.str "T"))
  steps := 5

def fresh : State Nat := { world := { memory := 0 } }

def midway : State Nat where
  before := ['x', '\n']
  rest := ['y']
  text := ['x']
  length := 1
  line := 1
  loc := { firstLine := 2, lastLine := 2, lastColumn := 1 }
  piece := ['x']
  matched := ['\n', 'x']
  offset := 2
  done := true
  more := true
  rejected := true
  conditions := ["COMMENT", initialCondition]
  world := { output := ['.'], memory := 1 }

theorem tallying_respects (old old' : World Nat) : (tallying.tablesAt 1).Respects (Since old old') :=
  tallying.respects (unnoticed_since old old')
    (fun _ _ _ => ⟨fun since => ⟨since.shared, since.written, since.told⟩, trivial⟩) 1

theorem setInput_forgets_midway :
    let calls : List Operation := [.setInput ['a', 'b'] none, .next, .unput ['c'], .begin "COMMENT", .lex]
    ((midway.inWorld fresh.world).world.given none = fresh.world.given none ∧
      replies (tallying.tablesAt 1) 5 calls (midway.inWorld fresh.world) = replies (tallying.tablesAt 1) 5 calls fresh) ∧
    Unnoticed (Since fresh.world midway.world) ∧ (tallying.tablesAt 1).Respects (Since fresh.world midway.world) ∧
    Since fresh.world midway.world (fresh.world.given none) (midway.world.given none) ∧
    List.Forall₂ (EndsAlike (Since fresh.world midway.world)) (replies (tallying.tablesAt 1) 5 calls fresh)
      (replies (tallying.tablesAt 1) 5 calls midway) := by
  have since : Since fresh.world midway.world (fresh.world.given none) (midway.world.given none) :=
    ⟨rfl, ⟨[], rfl, rfl⟩, [], rfl, rfl⟩
  exact ⟨⟨rfl, (setInput_forgets _ _ _ _ _ _ _).1 rfl⟩, unnoticed_since _ _, tallying_respects _ _, since,
    (setInput_forgets _ _ _ _ _ _ _).2 _ (unnoticed_since _ _) (tallying_respects _ _) since⟩

end LexGen.Scanner
