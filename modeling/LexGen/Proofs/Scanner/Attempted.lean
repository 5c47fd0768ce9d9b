import LexGen.Proofs.Scanner.Trail

/-!
# The rules that a run attempts

Rules are attempted only after they have been matched, so every attempted rule exists.

* `Session.attempted` lists the rules that are attempted while a script is played, with those inside of actions.
* `Script.forall_mem_record`: what holds of all that steps record holds of all that a script records.
-/

namespace LexGen.Scanner

variable {σ α : Type}

/-! ## Attempted rules -/

def attemptRules (t : Tables σ) (acting : Nat → String → State σ → List Nat) (rule : Nat) (text : Text)
    (s : State σ) : List Nat :=
  let entered := s.commit t.ranges text
  rule :: entered.conditions.head?.toList.flatMap (acting rule · entered)

namespace Session

def actionAttempts (x : Session σ) : (depth : Nat) → (rule : Nat) → (condition : String) → State σ → List Nat
  | 0, _, _, _ => []
  | depth + 1, rule, condition, s =>
    (x.scripts rule condition).record (x.tablesAt depth) (fun _ => [])
      (attemptRules (x.tablesAt depth) (x.actionAttempts depth)) x.steps s

def attempted (x : Session σ) (depth : Nat) (program : Script σ) (s : State σ) : List Nat :=
  program.record (x.tablesAt depth) (fun _ => []) (attemptRules (x.tablesAt depth) (x.actionAttempts depth))
    x.steps s

@[simp] theorem tablesAt_matchers (x : Session σ) (depth : Nat) :
    (x.tablesAt depth).matchers = x.tables.matchers := by
  cases depth <;> rfl

end Session

/-! ## What is recorded -/

theorem lt_of_match? {t : Tables σ} {rule : Nat} {before rest : Text} {found : Option Text}
    (h : t.match? rule before rest = .ok found) : rule < t.matchers.length := by
  unfold Tables.match? at h
  split at h
  · rename_i atRule
    exact (List.getElem?_eq_some_iff.1 atRule).1
  · cases h

section

variable {t : Tables σ} {mark : State σ → List α} {each : Nat → Text → State σ → List α} {P : α → Prop}

theorem forall_mem_tryRecord (attempt : ∀ rule text s, rule < t.matchers.length → ∀ a ∈ each rule text s, P a)
    (rules : List Nat) (s : State σ) : ∀ a ∈ tryRecord t each rules s, P a := by
  induction rules generalizing s with
  | nil => simp [tryRecord]
  | cons rule rules ih =>
    rw [tryRecord]
    cases matched : t.match? rule s.before s.rest with
    | error e => simp
    | ok found =>
      cases found with
      | none => exact ih s
      | some text =>
        refine List.forall_mem_append.2 ⟨attempt rule text s (lt_of_match? matched), ?_⟩
        split
        · split
          · exact ih _
          · simp
        · simp

theorem forall_mem_stepRecord (marked : ∀ s, ∀ a ∈ mark s, P a)
    (attempt : ∀ rule text s, rule < t.matchers.length → ∀ a ∈ each rule text s, P a) (s : State σ) :
    ∀ a ∈ stepRecord t mark each s, P a := by
  unfold stepRecord
  split
  · simp
  · refine List.forall_mem_append.2 ⟨marked s.start, ?_⟩
    split
    · simp
    · split
      · exact forall_mem_tryRecord attempt _ _
      · split
        · rename_i rule text selected
          have matched := (select_some selected).resolve_left (by simp)
          exact attempt rule text _ (lt_of_match? matched)
        · simp

theorem forall_mem_lexRecord (marked : ∀ s, ∀ a ∈ mark s, P a)
    (step : ∀ s, ∀ a ∈ stepRecord t mark each s, P a) (steps : Nat) (s : State σ) :
    ∀ a ∈ lexRecord t mark each steps s, P a := by
  induction steps generalizing s with
  | zero => simp [lexRecord]
  | succ steps ih =>
    rw [lexRecord]
    refine List.forall_mem_append.2 ⟨step s, ?_⟩
    split
    · exact List.forall_mem_append.2 ⟨marked _, ih _⟩
    · simp

theorem forall_mem_callRecord (marked : ∀ s, ∀ a ∈ mark s, P a)
    (step : ∀ s, ∀ a ∈ stepRecord t mark each s, P a) (steps : Nat) (op : Operation) (s : State σ) :
    ∀ a ∈ callRecord t mark each steps op s, P a := by
  unfold callRecord
  split
  · exact step _
  · exact forall_mem_lexRecord marked step _ _
  · simp

/-- What holds of the marks and of all that is recorded of steps holds of all that is recorded of a script. -/
theorem Script.forall_mem_record (marked : ∀ s, ∀ a ∈ mark s, P a)
    (step : ∀ s, ∀ a ∈ stepRecord t mark each s, P a) (steps : Nat) (program : Script σ) (s : State σ) :
    ∀ a ∈ program.record t mark each steps s, P a := by
  induction program generalizing s with
  | yield v => exact marked s
  | raise e => exact marked s
  | look next ih => exact ih s s
  | alter change next ih => exact List.forall_mem_append.2 ⟨marked s, ih _⟩
  | call op next ih =>
    rw [Script.record]
    refine List.forall_mem_append.2 ⟨List.forall_mem_append.2 ⟨marked s, ?_⟩, ih _ _⟩
    exact forall_mem_callRecord marked step steps op s

end

/-! ## Runs -/

theorem Session.forall_mem_attemptRules {x : Session σ} (depth : Nat) (rule : Nat) (text : Text) (s : State σ)
    (inRange : rule < x.tables.matchers.length) :
    ∀ i ∈ attemptRules (x.tablesAt depth) (x.actionAttempts depth) rule text s,
      i < x.tables.matchers.length := by
  induction depth generalizing rule text s with
  | zero => simpa [attemptRules, actionAttempts] using inRange
  | succ depth ih =>
    refine List.forall_mem_cons.2 ⟨inRange, ?_⟩
    intro i mem
    obtain ⟨condition, -, mem⟩ := List.mem_flatMap.1 mem
    exact Script.forall_mem_record (by simp)
      (forall_mem_stepRecord (by simp) fun rule text s h => ih rule text s (by simpa using h)) x.steps
      (x.scripts rule condition) _ i mem

theorem Session.lt_of_mem_attempted (x : Session σ) (depth : Nat) (program : Script σ) (s : State σ) :
    ∀ i ∈ x.attempted depth program s, i < x.tables.matchers.length :=
  Script.forall_mem_record (by simp)
    (forall_mem_stepRecord (by simp) fun rule text s h =>
      x.forall_mem_attemptRules depth rule text s (by simpa using h)) x.steps program s

end LexGen.Scanner
