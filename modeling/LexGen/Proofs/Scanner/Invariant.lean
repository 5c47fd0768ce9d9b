import LexGen.Proofs.Scanner.Trail

/-!
# What runs of a scanner keep

A property of states that every single step of a scanner keeps holds in all states that a run passes through.

* `StepLaws` says what single steps are; `StepLaws.attempt` puts them together to an attempt.
* `Session.Preserved.states` is the law of runs: the steps and the allowed calls keep the property, so every
  state of a script of such calls has it. `Session.Preserved.sources` says the same of the states in which rules are
  attempted.
-/

namespace LexGen.Scanner

variable {σ : Type}

/-! ## What attempts keep -/

structure StepLaws (ranges : Bool) (P : State σ → Prop) : Prop where
  world : ∀ s w, P s → P { s with world := w }
  start : ∀ s, P s → P s.start
  commit : ∀ s n, P s → P (s.commit ranges (s.rest.take n))
  reopen : ∀ s, P s → P s.reopen
  restore : ∀ saved now, P saved → P now → P (saved.restore now)

/-- From one state to another through states that all have a property, if the first has it. -/
def Keeps (P : State σ → Prop) (s : State σ) (passed : List (State σ)) (now : State σ) : Prop :=
  P s → P now ∧ ∀ between ∈ passed, P between

theorem StepLaws.attempt {t : Tables σ} {P : State σ → Prop} (laws : StepLaws t.ranges P)
    (action : ∀ rule condition s, P s → P (outcome (t.action rule condition) s).2) (rule n : Nat) {s : State σ}
    (h : P s) : P (outcome (Scanner.attempt t rule (s.rest.take n)) s).2 := by
  have entered := laws.commit s n h
  rw [outcome_attempt]
  split
  · exact entered
  · rename_i condition _ _
    have acted := action rule condition _ entered
    split
    · rename_i ended
      rwa [ended] at acted
    · rename_i now ended
      rw [ended] at acted
      have reopened := laws.reopen now acted
      unfold concluded
      split
      · dsimp only
        split
        · exact laws.restore s now.reopen h reopened
        · exact reopened
      · split
        · obtain ⟨w, told⟩ := state_reportHere (stuckComplaint rule) now.reopen
          rw [told]
          exact laws.world _ w reopened
        · exact reopened
    · rename_i now _ ended
      rw [ended] at acted
      exact laws.reopen now acted

theorem StepLaws.trail {t : Tables σ} {P : State σ → Prop} (laws : StepLaws t.ranges P)
    {acting : Nat → String → State σ → List (State σ)}
    (action : ∀ rule condition s, Keeps P s (acting rule condition s) (outcome (t.action rule condition) s).2) :
    Trail t (fun s => [s]) (attemptStates t acting) (Keeps P) where
  append first second h := by
    obtain ⟨between, before⟩ := first h
    obtain ⟨now, after⟩ := second between
    exact ⟨now, fun s mem => (List.mem_append.1 mem).elim (before s) (after s)⟩
  marked s h := ⟨h, by simpa using h⟩
  world s w h := ⟨laws.world s w h, by simp⟩
  start s h := ⟨laws.start s h, by simp⟩
  attempt rule n s h := by
    have entered := laws.commit s n h
    have attempted := laws.attempt (fun rule condition s h => (action rule condition s h).1) rule n h
    refine ⟨attempted, ?_⟩
    intro now mem
    simp only [attemptStates, List.cons_append, List.mem_cons, List.mem_append, List.mem_flatMap,
      List.not_mem_nil, or_false] at mem
    rcases mem with rfl | ⟨condition, -, mem⟩ | rfl
    · exact entered
    · exact (action rule condition _ entered).2 now mem
    · exact attempted

theorem StepLaws.trail_sources {t : Tables σ} {P : State σ → Prop} (laws : StepLaws t.ranges P)
    (action : ∀ rule condition s, P s → P (outcome (t.action rule condition) s).2) :
    Trail t (fun _ => []) (fun rule text s => [attemptOf t rule text s])
      fun s attempts now => Keeps P s (attempts.map (·.source)) now where
  append first second h := by
    obtain ⟨between, before⟩ := first h
    obtain ⟨now, after⟩ := second between
    rw [List.map_append]
    exact ⟨now, List.forall_mem_append.2 ⟨before, after⟩⟩
  marked s h := ⟨h, by simp⟩
  world s w h := ⟨laws.world s w h, by simp⟩
  start s h := ⟨laws.start s h, by simp⟩
  attempt rule n s h := ⟨laws.attempt action rule n h, List.forall_mem_singleton.2 h⟩

/-! ## What runs keep -/

structure Session.Preserved (x : Session σ) (allowed : Operation → Prop) (P : State σ → Prop) : Prop
    extends StepLaws x.tables.ranges P where
  call : ∀ op s, allowed op → P s → P (op.after x.tables s)

namespace Session.Preserved

variable {x : Session σ} {allowed : Operation → Prop} {P : State σ → Prop}

theorem plain (preserved : x.Preserved allowed P) (depth : Nat) (op : Operation) (s : State σ)
    (permitted : allowed op) : Keeps P s [] (op.after (x.tablesAt depth) s) := by
  intro h
  rw [Operation.after_tablesAt]
  exact ⟨preserved.call op s permitted h, by simp⟩

theorem trail (preserved : x.Preserved allowed P)
    (permitted : ∀ rule condition, (x.scripts rule condition).Makes allowed) (depth : Nat) :
    Trail (x.tablesAt depth) (fun s => [s]) (attemptStates (x.tablesAt depth) (x.actionStates depth))
      (Keeps P) := by
  have laws : StepLaws (x.tablesAt depth).ranges P := (x.tablesAt_ranges depth).symm ▸ preserved.toStepLaws
  -- Actions at one depth make calls at the depth below.
  induction depth with
  | zero => exact laws.trail fun _ _ s h => ⟨h, by simpa [actionStates] using h⟩
  | succ depth ih =>
    refine laws.trail fun rule condition s => ?_
    have below := ih ((x.tablesAt_ranges depth).symm ▸ preserved.toStepLaws)
    exact below.play x.steps (fun op s allowed _ => preserved.plain depth op s allowed) _
      (permitted rule condition) s

theorem states (preserved : x.Preserved allowed P)
    (actions : ∀ rule condition, (x.scripts rule condition).Makes allowed) (depth : Nat) (program : Script σ)
    (permitted : program.Makes allowed) {s : State σ} (h : P s) : ∀ now ∈ x.states depth program s, P now :=
  ((preserved.trail actions depth).play x.steps (fun op s allowed _ => preserved.plain depth op s allowed)
    program permitted s h).2

/-- All states in which rules are attempted have a property that the steps and the calls of a run keep. -/
theorem sources (preserved : x.Preserved allowed P)
    (actions : ∀ rule condition, (x.scripts rule condition).Makes allowed) (depth : Nat) (program : Script σ)
    (permitted : program.Makes allowed) {s : State σ} (h : P s) : ∀ a ∈ x.attempts depth program s, P a.source := by
  have laws : StepLaws (x.tablesAt depth).ranges P := (x.tablesAt_ranges depth).symm ▸ preserved.toStepLaws
  have action : ∀ rule condition s, P s → P (outcome ((x.tablesAt depth).action rule condition) s).2 := by
    intro rule condition s h
    cases depth with
    | zero => exact h
    | succ depth =>
      exact ((preserved.trail actions depth).play x.steps (fun op s allowed _ => preserved.plain depth op s allowed)
        _ (actions rule condition) s h).1
  have kept := (laws.trail_sources action).play x.steps (fun op s allowed _ => preserved.plain depth op s allowed)
    program permitted s h
  exact List.forall_mem_map.1 kept.2

end Session.Preserved

end LexGen.Scanner
