import LexGen.Proofs.Scanner.Backtracking
import LexGen.Proofs.Scanner.Selection
import LexGen.Proofs.Scanner.Trail

/-!
# The search for a token ends

The search goes on as long as steps yield nothing. Nothing bounds it, so it ends only because of what the
actions do: if they do not go back in the input, every step but one comes closer to its end, or fails for
matching empty text.

* `Lexes` is the search itself, without a bound on the number of its steps.
* `next_comes_closer`: a step that yields nothing leaves fewer steps to be taken.
* `lex_terminates`: the search ends after at most two steps more than there are characters left.
-/

namespace LexGen.Scanner

variable {σ : Type}

/-! ## Actions that go forward -/

def Operation.goesForward : Operation → Bool
  | input | more | reject | echo _ => true
  | _ => false

def Script.InstallsNone : Script σ → Prop
  | yield _ => True
  | raise _ => True
  | look next => ∀ s, (next s).InstallsNone
  | alter change next =>
    (∀ w, w.shared.handler = none → (change w).shared.handler = none) ∧ next.InstallsNone
  | call _ next => ∀ result, (next result).InstallsNone

def State.Unhandled (s : State σ) : Prop := s.world.shared.handler = none

/-- From a state to one that is not behind it. -/
structure Forward (backtracking : Bool) (s now : State σ) : Prop where
  conditions : now.conditions = s.conditions
  done : now.done = s.done
  unhandled : s.Unhandled → now.Unhandled
  rejected : backtracking = false → now.rejected = s.rejected
  position : now.rest.length < s.rest.length ∨ now.before = s.before ∧ now.rest = s.rest

namespace Forward

variable {backtracking : Bool} {s between now : State σ}

theorem refl (s : State σ) : Forward backtracking s s :=
  ⟨rfl, rfl, id, fun _ => rfl, Or.inr ⟨rfl, rfl⟩⟩

theorem trans (first : Forward backtracking s between) (second : Forward backtracking between now) :
    Forward backtracking s now where
  conditions := second.conditions.trans first.conditions
  done := second.done.trans first.done
  unhandled h := second.unhandled (first.unhandled h)
  rejected without := (second.rejected without).trans (first.rejected without)
  position := by
    rcases second.position with shorter | ⟨before, rest⟩
    · rcases first.position with earlier | ⟨-, rest⟩
      · exact Or.inl (Nat.lt_trans shorter earlier)
      · exact Or.inl (rest ▸ shorter)
    · rw [before, rest]
      exact first.position

theorem world (s : State σ) {w : World σ} (h : s.Unhandled → w.shared.handler = none) :
    Forward backtracking s { s with world := w } :=
  ⟨rfl, rfl, h, fun _ => rfl, Or.inr ⟨rfl, rfl⟩⟩

end Forward

theorem reject_forward (t : Tables σ) {s : State σ} (unhandled : s.Unhandled) :
    Forward t.backtracking s (outcome (reject t) s).2 := by
  unfold reject
  cases backtracking : t.backtracking with
  | true => exact ⟨rfl, rfl, id, nofun, Or.inr ⟨rfl, rfl⟩⟩
  | false =>
    rw [if_neg Bool.false_ne_true, outcome_reportHere, show s.world.shared.handler = none from unhandled]
    exact .refl s

theorem run_forward (t : Tables σ) (steps : Nat) {op : Operation} (forward : op.goesForward = true)
    {s : State σ} (unhandled : s.Unhandled) : Forward t.backtracking s (outcome (op.run t steps) s).2 := by
  cases op with
  | input =>
    rw [Operation.run, outcome_bind, input, outcome_bind_ok (outcome_get s)]
    cases left : s.rest with
    | nil => exact .refl s
    | cons c rest =>
      refine ⟨rfl, rfl, id, fun _ => rfl, Or.inl ?_⟩
      rw [left]
      exact Nat.lt_succ_self rest.length
  | more => exact ⟨rfl, rfl, id, fun _ => rfl, Or.inr ⟨rfl, rfl⟩⟩
  | reject => exact reject_forward t unhandled
  | echo text => exact .world s id
  | _ => cases forward

theorem play_forward (t : Tables σ) (steps : Nat) (script : Script σ)
    (forward : script.Makes fun op => op.goesForward = true) (installs : script.InstallsNone) {s : State σ}
    (unhandled : s.Unhandled) : Forward t.backtracking s (outcome (script.play t steps) s).2 := by
  induction script generalizing s with
  | yield v => exact .refl s
  | raise e => exact .refl s
  | look next ih =>
    rw [Script.play, outcome_bind_ok (outcome_get s)]
    exact ih s (forward s) (installs s) unhandled
  | alter change next ih =>
    rw [Script.play, outcome_bind_ok (outcome_modify _ s)]
    have changed : Forward t.backtracking s { s with world := change s.world } := .world s (installs.1 s.world)
    exact changed.trans (ih forward installs.2 (changed.unhandled unhandled))
  | call op next ih =>
    rw [Script.outcome_call]
    have called := run_forward t steps forward.1 unhandled
    exact called.trans (ih _ (forward.2 _) (installs _) (called.unhandled unhandled))

/-! ## Steps -/

def ActsForward (t : Tables σ) : Prop :=
  ∀ rule condition s, s.Unhandled → Forward t.backtracking s (outcome (t.action rule condition) s).2

theorem Session.actsForward (x : Session σ) (depth : Nat)
    (forward : ∀ rule condition, (x.scripts rule condition).Makes fun op => op.goesForward = true)
    (installs : ∀ rule condition, (x.scripts rule condition).InstallsNone) :
    ActsForward (x.tablesAt depth) := by
  cases depth with
  | zero => exact fun _ _ s _ => .refl s
  | succ depth =>
    intro rule condition s unhandled
    have played := play_forward (x.tablesAt depth) x.steps _ (forward rule condition) (installs rule condition)
      unhandled
    rw [x.tablesAt_backtracking] at played ⊢
    exact played

/-- The end of the input has been noticed if it has been reached. So it is while rules are tried. -/
def State.Aware (s : State σ) : Prop := s.rest = [] → s.done = true

theorem State.start_aware (s : State σ) : s.start.Aware := by
  intro reached
  rw [s.start_rest] at reached
  unfold State.start
  rw [if_pos (List.isEmpty_iff.2 reached)]
  dsimp only
  split <;> rfl

/-- From a state in which rules are tried to one that is closer to the end of the search. -/
def Closer (s now : State σ) : Prop :=
  now.rest.length < s.rest.length ∨ s.rest = [] ∧ now.rest = [] ∧ now.done = true

@[simp] theorem State.start_world (s : State σ) : s.start.world = s.world := by
  unfold State.start
  split <;> dsimp only <;> split <;> rfl

@[simp] theorem State.reopen_before (s : State σ) : s.reopen.before = s.before := by
  unfold State.reopen
  split <;> rfl

@[simp] theorem State.reopen_rest (s : State σ) : s.reopen.rest = s.rest := by
  unfold State.reopen
  split <;> rfl

@[simp] theorem State.reopen_text (s : State σ) : s.reopen.text = s.text := by
  unfold State.reopen
  split <;> rfl

@[simp] theorem State.reopen_conditions (s : State σ) : s.reopen.conditions = s.conditions := by
  unfold State.reopen
  split <;> rfl

attribute [simp] State.reopen_rejected

@[simp] theorem State.reopen_world (s : State σ) : s.reopen.world = s.world := by
  unfold State.reopen
  split <;> rfl

theorem State.reopen_done {s : State σ} (reached : s.rest = []) : s.reopen.done = s.done := by
  unfold State.reopen
  rw [if_pos (List.isEmpty_iff.2 reached)]

theorem commit_position (ranges : Bool) (n : Nat) (s : State σ) :
    (s.commit ranges (s.rest.take n)).rest.length < s.rest.length ∨
      s.rest.take n = [] ∧ (s.commit ranges (s.rest.take n)).rest = s.rest := by
  have dropped : (s.commit ranges (s.rest.take n)).rest = s.rest.drop (s.rest.take n).length := rfl
  cases matched : s.rest.take n with
  | nil => exact Or.inr ⟨rfl, by rw [← matched, dropped, matched]; rfl⟩
  | cons c others =>
    left
    have le : (s.rest.take n).length ≤ s.rest.length := List.length_take_le' n s.rest
    rw [← matched, dropped, List.length_drop]
    rw [matched, List.length_cons] at le ⊢
    omega

theorem concluded_kept {t : Tables σ} {rule : Nat} {text : Text} {s acted now : State σ}
    (unhandled : acted.Unhandled) (kept : acted.rejected = false)
    (ended : concluded t rule text s acted.reopen = (.ok .none, now)) :
    now = acted.reopen ∧ (text.isEmpty && (s.commit t.ranges text).isStuck acted.reopen) = false := by
  rw [concluded, acted.reopen_rejected, kept, if_neg Bool.false_ne_true] at ended
  split at ended
  · rw [outcome_reportHere, acted.reopen_world, show acted.world.shared.handler = none from unhandled] at ended
    cases ended
  · rename_i moved
    exact ⟨(congrArg Prod.snd ended).symm, Bool.eq_false_iff.2 moved⟩

theorem concluded_rejected {t : Tables σ} {rule : Nat} {text : Text} {s acted now : State σ}
    (backtracking : t.backtracking = true) (rejected : acted.rejected = true)
    (ended : concluded t rule text s acted.reopen = (.ok .none, now)) : now = s.restore acted.reopen := by
  rw [concluded, acted.reopen_rejected, if_pos rejected, if_pos backtracking] at ended
  exact (congrArg Prod.snd ended).symm

/-- An action that has yielded nothing leaves a position further on, or the end of the input has been there. -/
theorem reopen_closer {t : Tables σ} {n : Nat} {s acted : State σ} (aware : s.Aware)
    (forward : Forward t.backtracking (s.commit t.ranges (s.rest.take n)) acted)
    (moved : ((s.rest.take n).isEmpty && (s.commit t.ranges (s.rest.take n)).isStuck acted.reopen) = false) :
    Closer s acted.reopen := by
  rw [Closer, acted.reopen_rest]
  rcases commit_position t.ranges n s with consumed | ⟨empty, same⟩
  · rcases forward.position with shorter | ⟨-, rest⟩
    · exact Or.inl (Nat.lt_trans shorter consumed)
    · exact Or.inl (rest ▸ consumed)
  · rcases forward.position with shorter | ⟨before, rest⟩
    · exact Or.inl (same ▸ shorter)
    · -- Nothing has moved; an empty match that moves nothing passes only at the end of the input.
      have left : acted.rest = [] := by simpa [State.isStuck, empty, before, rest, forward.conditions] using moved
      have reached : s.rest = [] := by rw [← same, ← rest, left]
      exact Or.inr ⟨reached, left, (State.reopen_done left).trans (forward.done.trans (aware reached))⟩

theorem attempt_closer {t : Tables σ} (acts : ActsForward t) {rule n : Nat} {s now : State σ}
    (aware : s.Aware) (unhandled : s.Unhandled)
    (ended : outcome (attempt t rule (s.rest.take n)) s = (.ok .none, now)) :
    now.Unhandled ∧ (t.backtracking = true ∧ now.rejected = true ∨ Closer s now) := by
  rw [outcome_attempt] at ended
  split at ended
  · cases ended
  · rename_i condition _ _
    have forward := acts rule condition (s.commit t.ranges (s.rest.take n)) unhandled
    split at ended
    · cases ended
    · rename_i acted yielded
      rw [yielded] at forward
      have acted_unhandled : acted.Unhandled := forward.unhandled unhandled
      cases rejected : acted.rejected with
      | false =>
        obtain ⟨rfl, moved⟩ := concluded_kept acted_unhandled rejected ended
        refine ⟨?_, Or.inr (reopen_closer aware forward moved)⟩
        rw [State.Unhandled, acted.reopen_world]
        exact acted_unhandled
      | true =>
        cases backtracking : t.backtracking with
        | false =>
          have committed : acted.rejected = false := forward.rejected backtracking
          rw [rejected] at committed
          cases committed
        | true =>
          obtain rfl := concluded_rejected backtracking rejected ended
          refine ⟨?_, Or.inl ⟨rfl, ?_⟩⟩
          · rw [State.Unhandled, State.restore, acted.reopen_world]
            exact acted_unhandled
          · rw [State.restore, acted.reopen_rejected, rejected]
    · rename_i noToken _
      rw [Prod.mk.injEq, Except.ok.injEq] at ended
      exact (noToken ended.1).elim

theorem not_unmatched_none {s now : State σ} (unhandled : s.Unhandled) :
    outcome (unmatched : Run σ Value) s ≠ (.ok .none, now) := by
  intro ended
  rw [outcome_unmatched, outcome_reportHere, show s.world.shared.handler = none from unhandled] at ended
  split at ended <;> cases ended

theorem tryRules_closer {t : Tables σ} (acts : ActsForward t) (backtracking : t.backtracking = true)
    {rules : List Nat} {s now : State σ} (aware : s.Aware) (unhandled : s.Unhandled)
    (ended : outcome (tryRules t rules) s = (.ok .none, now)) : now.Unhandled ∧ Closer s now := by
  induction rules generalizing s with
  | nil => exact absurd ended (not_unmatched_none unhandled)
  | cons rule rules ih =>
    rw [outcome_tryRules_cons] at ended
    cases found : t.match? rule s.before s.rest with
    | error e =>
      rw [found] at ended
      cases ended
    | ok found? =>
      rw [found] at ended
      cases found? with
      | none => exact ih aware unhandled ended
      | some text =>
        obtain ⟨n, rfl⟩ := match?_some found
        dsimp only at ended
        split at ended
        · rename_i between attempted
          obtain ⟨between_unhandled, closer⟩ := attempt_closer acts aware unhandled attempted
          split at ended
          · -- The next rule finds the state that this one has found.
            rename_i rejected
            have same := attempt_rejected backtracking attempted rejected
            rw [same] at ended
            exact ih (s := { s with rejected := true, world := between.world }) aware between_unhandled ended
          · rename_i kept
            obtain rfl : between = now := congrArg Prod.snd ended
            exact ⟨between_unhandled, closer.resolve_left fun given => kept given.2⟩
        · rename_i other
          exact (other now ended).elim

def State.stepsLeft (s : State σ) : Nat := if s.done then 1 else s.rest.length + 2

theorem State.stepsLeft_pos (s : State σ) : 0 < s.stepsLeft := by
  unfold State.stepsLeft
  split <;> omega

theorem Closer.stepsLeft_lt {s now : State σ} (closer : Closer s now) :
    now.stepsLeft < s.rest.length + 2 := by
  unfold State.stepsLeft
  rcases closer with shorter | ⟨-, -, done⟩
  · split <;> omega
  · rw [if_pos done]
    omega

/-- A step that yields nothing comes closer to the end of the search, whatever rules match empty text and
whatever matches are rejected. -/
theorem next_comes_closer {t : Tables σ} (acts : ActsForward t) {s now : State σ} (unhandled : s.Unhandled)
    (ended : outcome (next t) s = (.ok .none, now)) : now.Unhandled ∧ now.stepsLeft < s.stepsLeft := by
  have started : s.start.Unhandled := by
    rw [State.Unhandled, s.start_world]
    exact unhandled
  suffices step : s.done = false ∧ now.Unhandled ∧ Closer s.start now by
    obtain ⟨running, now_unhandled, closer⟩ := step
    have lt := closer.stepsLeft_lt
    rw [s.start_rest] at lt
    refine ⟨now_unhandled, ?_⟩
    rwa [show s.stepsLeft = s.rest.length + 2 by simp [State.stepsLeft, running]]
  rw [outcome_next] at ended
  split at ended
  · cases ended
  · rename_i running
    refine ⟨Bool.eq_false_iff.2 running, ?_⟩
    split at ended
    · cases ended
    · split at ended
      · rename_i backtracking
        exact tryRules_closer acts backtracking s.start_aware started ended
      · rename_i without
        split at ended
        · cases ended
        · rename_i rule text selected
          obtain ⟨n, rfl⟩ := match?_some ((select_some selected).resolve_left nofun)
          obtain ⟨now_unhandled, closer⟩ := attempt_closer acts s.start_aware started ended
          exact ⟨now_unhandled, closer.resolve_left fun given => without given.1⟩
        · exact absurd ended (not_unmatched_none started)

/-! ## The search -/

/-- The search for a token ends after a number of steps: all but the last have yielded nothing. -/
inductive Lexes (t : Tables σ) : Nat → State σ → Except Error Value × State σ → Prop where
  | token {s now : State σ} {token : Value} :
      outcome (next t) s = (.ok token, now) → token ≠ .none → Lexes t 1 s (.ok token, now)
  | failed {s now : State σ} {e : Error} :
      outcome (next t) s = (.error e, now) → Lexes t 1 s (.error e, now)
  | again {steps : Nat} {s between : State σ} {ended : Except Error Value × State σ} :
      outcome (next t) s = (.ok .none, between) → Lexes t steps between ended → Lexes t (steps + 1) s ended

theorem outcome_lex_succ (t : Tables σ) (steps : Nat) (s : State σ) :
    outcome (lex t (steps + 1)) s =
      match outcome (next t) s with
      | (.error e, now) => (.error e, now)
      | (.ok .none, now) => outcome (lex t steps) now
      | (.ok token, now) => (.ok token, now) := by
  rw [lex, outcome_bind, outcome_lex?_succ]
  rcases outcome (next t) s with ⟨_ | token, now⟩
  · rfl
  · cases token
    case none =>
      dsimp only
      rw [lex, outcome_bind]
    all_goals rfl

theorem Lexes.outcome_lex {t : Tables σ} {needed : Nat} {s : State σ} {ended : Except Error Value × State σ}
    (h : Lexes t needed s ended) {steps : Nat} (enough : needed ≤ steps) : outcome (lex t steps) s = ended := by
  induction h generalizing steps with
  | @token s now token step some =>
    obtain ⟨steps, rfl⟩ := Nat.exists_eq_add_of_le' enough
    rw [outcome_lex_succ, step]
    cases token
    case none => exact absurd rfl some
    all_goals rfl
  | failed step =>
    obtain ⟨steps, rfl⟩ := Nat.exists_eq_add_of_le' enough
    rw [outcome_lex_succ, step]
  | @again needed s between ended step _ ih =>
    obtain ⟨more, rfl⟩ := Nat.exists_eq_add_of_le' enough
    rw [← Nat.add_assoc, outcome_lex_succ, step]
    exact ih (Nat.le_add_left needed more)

theorem exists_lexes {t : Tables σ} (acts : ActsForward t) (bound : Nat) {s : State σ} (unhandled : s.Unhandled)
    (within : s.stepsLeft ≤ bound) : ∃ steps ended, steps ≤ bound ∧ Lexes t steps s ended := by
  induction bound generalizing s with
  | zero => exact absurd within (Nat.not_le.2 s.stepsLeft_pos)
  | succ bound ih =>
    rcases step : outcome (next t) s with ⟨e | token, now⟩
    · exact ⟨1, _, by omega, .failed step⟩
    · by_cases none : token = .none
      · subst none
        obtain ⟨now_unhandled, closer⟩ := next_comes_closer acts unhandled step
        obtain ⟨steps, ended, few, lexes⟩ := ih now_unhandled (by omega)
        exact ⟨steps + 1, ended, by omega, .again step lexes⟩
      · exact ⟨1, _, by omega, .token step none⟩

/-- Without a handler of errors the search for a token ends, if actions only consume input, append, reject and
echo: there is a token or an error after at most two steps more than there are characters left. -/
theorem lex_terminates (x : Session σ)
    (forward : ∀ rule condition, (x.scripts rule condition).Makes fun op => op.goesForward = true)
    (installs : ∀ rule condition, (x.scripts rule condition).InstallsNone) (depth : Nat) (s : State σ)
    (unhandled : s.world.shared.handler = none) :
    ∃ needed ended, needed ≤ s.rest.length + 2 ∧ Lexes (x.tablesAt depth) needed s ended ∧
      ∀ steps, needed ≤ steps → outcome (lex (x.tablesAt depth) steps) s = ended := by
  have within : s.stepsLeft ≤ s.rest.length + 2 := by
    unfold State.stepsLeft
    split <;> omega
  obtain ⟨needed, ended, few, lexes⟩ := exists_lexes (x.actsForward depth forward installs) _ unhandled within
  exact ⟨needed, ended, few, lexes, fun steps enough => lexes.outcome_lex enough⟩

/-- Both rules match empty text. The first rejects its match, the second consumes a character. -/
def sipping : Session Unit where
  tables :=
    { matchers := [fun _ _ => some 0, fun _ _ => some 0]
      conditions := [(initialCondition, [0, 1])]
      backtracking := true
      action := fun _ _ => return .none }
  scripts
    | 0, _ => .call .reject fun _ => .yield .none
    | _, _ => .call .input fun _ => .call .more fun _ => .yield .none
  steps := 4

def sippingStart : State Unit := { rest := "ab".toList, world := { memory := () } }

theorem lex_terminates_sipping :
    outcome (lex (sipping.tablesAt 1) 3) sippingStart ≠ outcome (lex (sipping.tablesAt 1) 4) sippingStart ∧
      ∃ needed ended, needed ≤ sippingStart.rest.length + 2 ∧
        Lexes (sipping.tablesAt 1) needed sippingStart ended ∧
        ∀ steps, needed ≤ steps → outcome (lex (sipping.tablesAt 1) steps) sippingStart = ended := by
  refine ⟨fun same => (nomatch congrArg Prod.fst same), lex_terminates sipping ?_ ?_ 1 sippingStart rfl⟩
  · intro rule condition
    rcases rule with _ | rule
    · simp [sipping, Script.Makes, Operation.goesForward]
    · simp [sipping, Script.Makes, Operation.goesForward]
  · intro rule condition
    rcases rule with _ | rule
    · simp [sipping, Script.InstallsNone]
    · simp [sipping, Script.InstallsNone]

end LexGen.Scanner
