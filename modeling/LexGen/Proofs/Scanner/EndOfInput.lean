import LexGen.Proofs.Scanner.Invariant

/-!
# The end of the input

A scanner that is done takes no more steps, so text that is pushed back then is lost. Actions may push text back
at the end of the input: a scanner with input left is opened again when its action has ended. That does not
happen if the action fails, or if text is pushed back between calls.

* `State.Settled` is the property between calls: the scanner is done only if no input is left.
* `StepLaws` do not hold of it inside of actions; `settled_attempt` says what an attempt needs of its action.
* `done_only_at_end` is the law of runs, and `pushed_back_after_end` a run outside of it.
-/

namespace LexGen.Scanner

variable {σ : Type}

def State.Settled (s : State σ) : Prop := s.done = true → s.rest = []

/-! ## Single steps -/

namespace State.Settled

theorem of_running {s : State σ} (running : s.done = false) : s.Settled :=
  fun done => absurd done (by simp [running])

theorem start {s : State σ} (h : s.Settled) : s.start.Settled := by
  unfold State.start
  split
  · rename_i empty
    have none : s.rest = [] := List.isEmpty_iff.1 empty
    dsimp only
    split <;> exact fun _ => none
  · dsimp only
    split <;> exact h

theorem commit {s : State σ} (h : s.Settled) (ranges : Bool) (text : Text) : (s.commit ranges text).Settled := by
  intro done
  change s.rest.drop text.length = []
  rw [h done, List.drop_nil]

theorem reopen (s : State σ) : s.reopen.Settled := by
  unfold State.reopen
  split
  · rename_i empty
    exact fun _ => List.isEmpty_iff.1 empty
  · exact of_running rfl

theorem after {s : State σ} (h : s.Settled) (t : Tables σ) {op : Operation}
    (heeds : op.pushesBack = true → s.done = false) : (op.after t s).Settled := by
  cases op with
  | setInput text shared => exact of_running rfl
  | unput text => exact of_running (heeds rfl)
  | less n => exact of_running (heeds rfl)
  | input =>
    dsimp only [Operation.after]
    split
    · exact h
    · rename_i left
      exact fun done => absurd (h done) (by simp [left])
  | reject =>
    dsimp only [Operation.after]
    split <;> exact h
  | popState =>
    obtain ⟨⟩ := s
    rename_i conditions _
    rcases conditions with _ | ⟨condition, _ | _⟩ <;> exact h
  | _ => exact h

end State.Settled

/-! ## Attempts -/

def Tables.FailsSettled (t : Tables σ) : Prop :=
  ∀ rule condition s e, s.Settled → (outcome (t.action rule condition) s).1 = .error e →
    (outcome (t.action rule condition) s).2.Settled

theorem settled_attempt {t : Tables σ} (fails : t.FailsSettled) (rule n : Nat) {s : State σ} (h : s.Settled) :
    (outcome (attempt t rule (s.rest.take n)) s).2.Settled := by
  have entered := h.commit t.ranges (s.rest.take n)
  rw [outcome_attempt]
  split
  · exact entered
  · rename_i condition _ _
    split
    · rename_i e now ended
      have failed := fails rule condition _ e entered (by rw [ended])
      rwa [ended] at failed
    · rename_i now ended
      unfold concluded
      split
      · dsimp only
        split
        · exact h
        · exact .reopen now
      · split
        · obtain ⟨w, told⟩ := state_reportHere (stuckComplaint rule) now.reopen
          rw [told]
          exact State.Settled.reopen now
        · exact .reopen now
    · exact .reopen _

theorem trail_settled {t : Tables σ} (fails : t.FailsSettled) :
    Trail t (fun s => [s]) (fun _ _ _ => []) (Keeps State.Settled) where
  append first second h := by
    obtain ⟨between, before⟩ := first h
    obtain ⟨now, after⟩ := second between
    exact ⟨now, fun s mem => (List.mem_append.1 mem).elim (before s) (after s)⟩
  marked s h := ⟨h, by simpa using h⟩
  world s w h := ⟨h, by simp⟩
  start s h := ⟨h.start, by simp⟩
  attempt rule n s h := ⟨settled_attempt fails rule n h, by simp⟩

theorem settled_call {t : Tables σ} (fails : t.FailsSettled) (steps : Nat) (op : Operation) {s : State σ}
    (h : s.Settled) (heeds : op.pushesBack = true → s.done = false) :
    Keeps State.Settled s (callRecord t (fun s => [s]) (fun _ _ _ => []) steps op s)
      (outcome (op.run t steps) s).2 := by
  by_cases pushes : op.pushesBack = true
  · have plain : op.scans = false := by cases op <;> first | rfl | cases pushes
    obtain ⟨w, after⟩ := state_run t steps plain s
    rw [after, callRecord_plain plain]
    exact fun _ => ⟨h.after t heeds, by simp⟩
  · exact (trail_settled fails).run steps (fun s _ h => ⟨h.after t fun pushed => absurd pushed pushes, by simp⟩) s

/-! ## Actions that fail -/

/-- The script raises no error once it has pushed text back. `pushed` tells whether it has. -/
def Script.RaisesFirst : (pushed : Bool) → Script σ → Prop
  | _, yield _ => True
  | pushed, raise _ => pushed = false
  | pushed, look next => ∀ s, (next s).RaisesFirst pushed
  | pushed, alter _ next => next.RaisesFirst pushed
  | pushed, call op next => ∀ result, (next result).RaisesFirst (pushed || op.pushesBack)

theorem Script.settled_of_error {t : Tables σ} (fails : t.FailsSettled) (steps : Nat) (program : Script σ)
    {pushed : Bool} (first : program.RaisesFirst pushed) {s : State σ} (h : pushed = false → s.Settled) {e : Error}
    (failed : (outcome (program.play t steps) s).1 = .error e) :
    (outcome (program.play t steps) s).2.Settled := by
  induction program generalizing pushed s with
  | yield v => cases failed
  | raise _ => exact h first
  | look next ih =>
    rw [play, outcome_bind_ok (outcome_get s)] at failed ⊢
    exact ih s (first s) h failed
  | alter change next ih =>
    rw [play, outcome_bind_ok (outcome_modify _ s)] at failed ⊢
    exact ih first h failed
  | call op next ih =>
    rw [outcome_call] at failed ⊢
    refine ih _ (first _) (fun unpushed => ?_) failed
    rw [Bool.or_eq_false_iff] at unpushed
    have settled := h unpushed.1
    exact (settled_call fails steps op settled (fun pushes => absurd pushes (by simp [unpushed.2])) settled).1

theorem Session.failsSettled (x : Session σ)
    (actions : ∀ rule condition, (x.scripts rule condition).RaisesFirst false) (depth : Nat) :
    (x.tablesAt depth).FailsSettled := by
  induction depth with
  | zero => exact fun _ _ _ _ h _ => h
  | succ depth ih =>
    intro rule condition s e h failed
    exact Script.settled_of_error ih x.steps _ (actions rule condition) (fun _ => h) failed

/-! ## Runs -/

def Script.calls (t : Tables σ) (steps : Nat) : Script σ → State σ → List (Operation × State σ)
  | yield _, _ => []
  | raise _, _ => []
  | look next, s => (next s).calls t steps s
  | alter change next, s => next.calls t steps { s with world := change s.world }
  | call op next, s =>
    (op, s) :: (next (outcome (op.run t steps) s).1).calls t steps (outcome (op.run t steps) s).2

def Session.pauses (x : Session σ) (depth : Nat) (program : Script σ) (s : State σ) : List (State σ) :=
  program.record (x.tablesAt depth) (fun s => [s]) (fun _ _ _ => []) x.steps s

theorem Script.settled_record {t : Tables σ} (fails : t.FailsSettled) (steps : Nat) (program : Script σ) {s : State σ}
    (h : s.Settled)
    (heeds : ∀ call ∈ program.calls t steps s, call.1.pushesBack = true → call.2.done = false) :
    ∀ now ∈ program.record t (fun s => [s]) (fun _ _ _ => []) steps s, now.Settled := by
  induction program generalizing s with
  | yield v => simpa [record] using h
  | raise e => simpa [record] using h
  | look next ih => exact ih s h heeds
  | alter change next ih => exact List.forall_mem_cons.2 ⟨h, ih h heeds⟩
  | call op next ih =>
    rw [calls, List.forall_mem_cons] at heeds
    obtain ⟨settled, within⟩ := settled_call fails steps op h heeds.1 h
    exact List.forall_mem_append.2 ⟨List.forall_mem_cons.2 ⟨h, within⟩, ih _ settled heeds.2⟩

/-- Between calls the scanner is done only if no input is left, so that text that has been pushed back is scanned:
if no action raises an error after it has pushed text back, and if no text is pushed back between calls while the
scanner is done. Otherwise actions may do anything. -/
theorem done_only_at_end (x : Session σ)
    (actions : ∀ rule condition, (x.scripts rule condition).RaisesFirst false) (depth : Nat) (program : Script σ)
    (s : State σ) (settled : s.done = true → s.rest = [])
    (heeds : ∀ call ∈ program.calls (x.tablesAt depth) x.steps s, call.1.pushesBack = true → call.2.done = false) :
    ∀ now ∈ x.pauses depth program s, now.done = true → now.rest = [] :=
  program.settled_record (x.failsSettled actions depth) x.steps settled heeds

/-- At the end of the input the second rule pushes a letter back once, and the third rule raises an error. -/
def refilling : Session Unit where
  tables :=
    { matchers := [fun _ rest => if rest.isEmpty then none else some 1,
        fun before rest => if rest.isEmpty && before.length = 2 then some 0 else none, fun _ _ => some 0]
      conditions := [(initialCondition, [0, 1, 2])]
      action := fun _ _ => return .none }
  scripts
    | 0, _ => .yield (.str "letter")
    | 1, _ => .call (.unput ['c']) fun _ => .yield .none
    | _, _ => .raise (.fault .badValue)
  steps := 3

def refillingCalls : Script Unit :=
  .call .lex fun _ => .call (.less 0) fun _ => .call .lex fun _ => .call .lex fun _ => .call .lex fun _ =>
    .call .lex fun _ => .yield .none

def refillingStart : State Unit := { rest := "ab".toList, world := { memory := () } }

theorem done_only_at_end_refilling :
    (refilling.pauses 1 refillingCalls refillingStart).map (fun now => (now.done, String.ofList now.rest)) =
        [(false, "ab"), (false, "ab"), (false, "b"), (false, "ab"), (false, "ab"), (false, "b"), (false, "b"),
          (false, ""), (true, ""), (false, "c"), (false, "c"), (false, ""), (true, ""), (true, "")] ∧
      ∀ now ∈ refilling.pauses 1 refillingCalls refillingStart, now.done = true → now.rest = [] := by
  refine ⟨by decide +kernel, done_only_at_end refilling ?_ 1 refillingCalls refillingStart (by decide) ?_⟩
  · intro rule condition
    rcases rule with _ | _ | rule <;> simp [refilling, Script.RaisesFirst]
  · decide +kernel

def lettersOnly : Session Unit where
  tables :=
    { matchers := [fun _ rest => if rest.isEmpty then none else some 1]
      conditions := [(initialCondition, [0])]
      action := fun _ _ => return .none }
  scripts _ _ := .yield (.str "letter")
  steps := 2

def pushingBackAtEnd : Script Unit :=
  .call .lex fun _ => .call (.unput ['a']) fun _ => .call .lex fun _ => .yield .none

/-- Text that is pushed back between calls at the end of the input is never scanned, although a rule matches it. -/
theorem pushed_back_after_end :
    ∃ now ∈ lettersOnly.pauses 1 pushingBackAtEnd { world := { memory := () } },
      now.done = true ∧ now.rest = ['a'] ∧ lettersOnly.tables.match? 0 now.before now.rest = .ok (some ['a']) ∧
        outcome (next (lettersOnly.tablesAt 1)) now = (.ok endToken, now) :=
  ⟨_, List.mem_of_getElem? (show _[3]? = some _ from rfl), rfl, rfl, rfl, rfl⟩

end LexGen.Scanner
