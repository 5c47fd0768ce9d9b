import LexGen.Proofs.Scanner.Termination
import LexGen.Proofs.Value.Lookup

/-!
# The tokens of a text

The tokens of a text are what the actions yield, each with the match as its action leaves it. The token at the end is
not among them. An action may yield a value that equals the token at the end, and then only the mark at the end of the
input tells the two apart. That mark is never set while an action runs, if no rule matches empty text.

* `Steps` is a number of steps with the tokens that their actions yield; `stepEnds_next` says how one step ends.
* `Steps.found`: the tokens of any number of steps are found, all of them and in their order.
* `accounted_tokenize?`: whatever is found is the tokens of a number of steps, and so is what has been found before an
  error.
* `tokenize_loses_nothing` puts both together.
-/

namespace LexGen.Scanner

variable {σ : Type}

/-! ## What actions yield -/

def yielded : Except Error Value × State σ → List Token
  | (.error _, _) => []
  | (.ok .none, _) => []
  | (.ok v, now) => [⟨v, now.text, now.loc⟩]

theorem yielded_reopen (result : Except Error Value) (now : State σ) :
    yielded (result, now.reopen) = yielded (result, now) := by
  unfold State.reopen
  split
  · rfl
  · rcases result with _ | v
    · rfl
    · cases v <;> rfl

theorem yielded_token {v : Value} (some : v ≠ .none) (now : State σ) :
    yielded (.ok v, now) = [⟨v, now.text, now.loc⟩] := by
  cases v
  case none => exact absurd rfl some
  all_goals rfl

def attemptTokens (t : Tables σ) (rule : Nat) (text : Text) (s : State σ) : List Token :=
  s.conditions.head?.toList.flatMap fun condition =>
    yielded (outcome (t.action rule condition) (s.commit t.ranges text))

def stepTokens (t : Tables σ) (s : State σ) : List Token := stepRecord t (fun _ => []) (attemptTokens t) s

/-- A number of steps, and what the actions yield in them. -/
inductive Steps (t : Tables σ) : Nat → State σ → List Token → State σ → Prop where
  | none (s : State σ) : Steps t 0 s [] s
  | more {n : Nat} {s between now : State σ} {v : Value} {tokens : List Token} :
      outcome (next t) s = (.ok v, between) →
      Steps t n between tokens now →
      Steps t (n + 1) s (stepTokens t s ++ tokens) now

theorem Steps.append {t : Tables σ} {n m : Nat} {s between now : State σ} {first second : List Token}
    (before : Steps t n s first between) (after : Steps t m between second now) :
    Steps t (m + n) s (first ++ second) now := by
  induction before with
  | none s => exact after
  | more step _ ih =>
    rw [List.append_assoc]
    exact .more step (ih after)

/-! ## States between steps -/

/-- The end of the input has not been noticed, and errors are raised. -/
structure State.Ready (s : State σ) : Prop where
  running : s.done = false
  unhandled : s.Unhandled

structure State.Ended (s : State σ) : Prop where
  done : s.done = true
  rest : s.rest = []

theorem State.Ready.commit {s : State σ} (ready : s.Ready) (ranges : Bool) (text : Text) :
    (s.commit ranges text).Ready :=
  ⟨ready.running, ready.unhandled⟩

theorem State.Ready.reopen {s : State σ} (ready : s.Ready) : s.reopen.Ready := by
  unfold State.reopen
  split
  · exact ready
  · exact ⟨rfl, ready.unhandled⟩

/-! ## Calls of actions -/

def Operation.isLocal : Operation → Bool
  | setInput .. | next | lex => false
  | _ => true

theorem ready_run (t : Tables σ) (steps : Nat) {op : Operation} (isLocal : op.isLocal = true) {s : State σ}
    (ready : s.Ready) : (outcome (op.run t steps) s).2.Ready := by
  have unhandled : s.world.shared.handler = none := ready.unhandled
  cases op with
  | setInput | next | lex => cases isLocal
  | input =>
    obtain ⟨before, rest⟩ := s
    cases rest <;> exact ⟨ready.running, ready.unhandled⟩
  | reject =>
    have forward := reject_forward t ready.unhandled
    exact ⟨forward.done.trans ready.running, forward.unhandled ready.unhandled⟩
  | report message details =>
    rw [Operation.run, outcome_report, unhandled]
    exact ready
  | popState =>
    obtain ⟨⟩ := s
    rename_i conditions _
    rcases conditions with _ | ⟨condition, _ | _⟩ <;> exact ⟨ready.running, ready.unhandled⟩
  | currentRules =>
    rw [Operation.run, outcome_bind_ok (outcome_get s), outcome_bind, outcome_lift]
    cases t.currentRules s <;> exact ready
  | _ => exact ⟨ready.running, ready.unhandled⟩

theorem ready_play (t : Tables σ) (steps : Nat) (script : Script σ) (makes : script.Makes fun op => op.isLocal = true)
    (installs : script.InstallsNone) {s : State σ} (ready : s.Ready) : (outcome (script.play t steps) s).2.Ready := by
  induction script generalizing s with
  | yield v => exact ready
  | raise e => exact ready
  | look next ih =>
    rw [Script.play, outcome_bind_ok (outcome_get s)]
    exact ih s (makes s) (installs s) ready
  | alter change next ih =>
    rw [Script.play, outcome_bind_ok (outcome_modify _ s)]
    exact ih makes installs.2 ⟨ready.running, installs.1 s.world ready.unhandled⟩
  | call op next ih =>
    rw [Script.outcome_call]
    exact ih _ (makes.2 _) (installs _) (ready_run t steps makes.1 ready)

def Tables.StaysReady (t : Tables σ) : Prop :=
  ∀ rule condition s, s.Ready → (outcome (t.action rule condition) s).2.Ready

theorem Session.staysReady (x : Session σ)
    (actions : ∀ rule condition, (x.scripts rule condition).Makes fun op => op.isLocal = true)
    (installs : ∀ rule condition, (x.scripts rule condition).InstallsNone) (depth : Nat) :
    (x.tablesAt depth).StaysReady := by
  cases depth with
  | zero => exact fun _ _ _ ready => ready
  | succ depth =>
    intro rule condition s ready
    exact ready_play (x.tablesAt depth) x.steps _ (actions rule condition) (installs rule condition) ready

/-! ## Single steps -/

def Tables.MatchesSome (t : Tables σ) : Prop :=
  ∀ rule before rest text, t.match? rule before rest = .ok (some text) → text ≠ []

/-- How a step ends in which the actions yield the given tokens. -/
inductive StepEnds : List Token → Except Error Value × State σ → Prop where
  | failed (e : Error) (now : State σ) : StepEnds [] (.error e, now)
  | nothing {now : State σ} : now.Ready → StepEnds [] (.ok .none, now)
  | token {v : Value} {now : State σ} : v ≠ .none → now.Ready → StepEnds [⟨v, now.text, now.loc⟩] (.ok v, now)
  | atEnd {now : State σ} : now.Ended → StepEnds [] (.ok endToken, now)

theorem StepEnds.of_none {tokens : List Token} {now : State σ} (ends : StepEnds tokens (.ok .none, now)) :
    tokens = [] ∧ now.Ready := by
  cases ends with
  | nothing ready => exact ⟨rfl, ready⟩
  | token some => exact absurd rfl some

theorem stepEnds_token {v : Value} (some : v ≠ .none) {now : State σ} (ready : now.Ready) :
    StepEnds (yielded (.ok v, now)) (.ok v, now) := by
  rw [yielded_token some]
  exact .token some ready

/-- While rules are tried, the end of the input has been noticed exactly if it has been reached. -/
structure State.Trying (s : State σ) : Prop where
  done_eq : s.done = s.rest.isEmpty
  unhandled : s.Unhandled

theorem State.Ready.start {s : State σ} (ready : s.Ready) : s.start.Trying where
  done_eq := by rw [s.start_done, s.start_rest, ready.running, Bool.false_or]
  unhandled := by
    rw [State.Unhandled, s.start_world]
    exact ready.unhandled

theorem stepEnds_unmatched {s : State σ} (trying : s.Trying) : StepEnds [] (outcome unmatched s) := by
  rw [outcome_unmatched, outcome_reportHere, show s.world.shared.handler = none from trying.unhandled]
  split
  · rename_i reached
    exact .atEnd ⟨trying.done_eq.trans reached, List.isEmpty_iff.1 reached⟩
  · exact .failed _ _

section Steps

variable {t : Tables σ}

theorem ready_of_match? (nonempty : t.MatchesSome) {rule : Nat} {text : Text} {s : State σ} (trying : s.Trying)
    (found : t.match? rule s.before s.rest = .ok (some text)) : s.Ready := by
  refine ⟨?_, trying.unhandled⟩
  rw [trying.done_eq, Bool.eq_false_iff]
  intro reached
  obtain ⟨n, rfl⟩ := match?_some found
  refine nonempty rule s.before s.rest _ found ?_
  rw [List.isEmpty_iff.1 reached, List.take_nil]

variable (actions : t.StaysReady)

include actions

theorem stepEnds_attempt (rule : Nat) (text : Text) {s : State σ} (ready : s.Ready) :
    StepEnds (attemptTokens t rule text s) (outcome (attempt t rule text) s) := by
  rw [outcome_attempt, attemptTokens]
  cases s.conditions with
  | nil => exact .failed _ _
  | cons condition others =>
    have acted := actions rule condition _ (ready.commit t.ranges text)
    rw [List.head?_cons, Option.toList_some, List.flatMap_singleton]
    dsimp only
    rcases ended : outcome (t.action rule condition) (s.commit t.ranges text) with ⟨e | v, now⟩
    · exact .failed e now
    · rw [ended] at acted
      have reopened : now.reopen.Ready := acted.reopen
      cases v
      case none =>
        dsimp only
        rw [concluded, outcome_reportHere, show now.reopen.world.shared.handler = none from reopened.unhandled]
        split
        · split
          · exact .nothing ⟨ready.running, reopened.unhandled⟩
          · exact .nothing reopened
        · split
          · exact .failed _ _
          · exact .nothing reopened
      all_goals
        rw [← yielded_reopen]
        refine stepEnds_token ?_ reopened
        simp

variable (nonempty : t.MatchesSome)

include nonempty

theorem stepEnds_tryRules (backtracking : t.backtracking = true) (rules : List Nat) {s : State σ} (trying : s.Trying) :
    StepEnds (tryRecord t (attemptTokens t) rules s) (outcome (tryRules t rules) s) := by
  induction rules generalizing s with
  | nil => exact stepEnds_unmatched trying
  | cons rule rules ih =>
    rw [outcome_tryRules_cons, tryRecord]
    cases found : t.match? rule s.before s.rest with
    | error e => exact .failed e s
    | ok found? =>
      cases found? with
      | none => exact ih trying
      | some text =>
        have ready := ready_of_match? nonempty trying found
        have attempted := stepEnds_attempt actions rule text ready
        dsimp only
        rcases ended : outcome (attempt t rule text) s with ⟨e | v, now⟩ <;> rw [ended] at attempted
        · rw [List.append_nil]
          exact attempted
        · cases v
          case none =>
            dsimp only
            split
            · -- The next rule finds the state that this one has found.
              rename_i rejected
              have same := attempt_rejected backtracking ended rejected
              obtain ⟨none, now_ready⟩ := attempted.of_none
              rw [none]
              refine ih ⟨?_, now_ready.unhandled⟩
              rw [same]
              exact trying.done_eq
            · rw [List.append_nil]
              exact attempted
          all_goals
            rw [List.append_nil]
            exact attempted

theorem stepEnds_next {s : State σ} (ready : s.Ready) : StepEnds (stepTokens t s) (outcome (next t) s) := by
  have trying := ready.start
  rw [outcome_next, stepTokens, stepRecord, ready.running]
  simp only [Bool.false_eq_true, if_false, List.nil_append]
  cases t.currentRules s.start with
  | error e => exact .failed e _
  | ok rules =>
    dsimp only
    split
    · rename_i backtracking
      exact stepEnds_tryRules actions nonempty backtracking rules trying
    · cases won : t.select s.start.before s.start.rest rules none with
      | error e => exact .failed e _
      | ok best =>
        rcases best with _ | ⟨rule, text⟩
        · exact stepEnds_unmatched trying
        · have found := (select_some won).resolve_left (by simp)
          exact stepEnds_attempt actions rule text (ready_of_match? nonempty trying found)

end Steps

theorem next_ended (t : Tables σ) {s : State σ} (ended : s.Ended) :
    outcome (next t) s = (.ok endToken, s) ∧ stepTokens t s = [] := by
  rw [outcome_next, stepTokens, stepRecord, ended.done]
  exact ⟨rfl, rfl⟩

theorem Steps.of_ended {t : Tables σ} {n : Nat} {s now : State σ} {tokens : List Token} (ended : s.Ended)
    (run : Steps t n s tokens now) : tokens = [] ∧ now = s := by
  induction run with
  | none s => exact ⟨rfl, rfl⟩
  | @more n s between now v tokens step _ ih =>
    obtain ⟨same, none⟩ := next_ended t ended
    rw [same, Prod.mk.injEq] at step
    obtain ⟨-, rfl⟩ := step
    rw [none]
    exact ih ended

/-! ## Tokens that are found -/

def tokensAfter (t : Tables σ) (steps count : Nat) :
    Except Error (Option Value) × State σ → Except Error (Option (List Token)) × State σ
  | (.error e, now) => (.error e, now)
  | (.ok none, now) => (.ok none, now)
  | (.ok (some kind), now) =>
    if now.done && Value.same kind endToken then (.ok (some []), now)
    else match outcome (tokenize? t steps count) now with
      | (.ok (some tokens), last) => (.ok (some (⟨kind, now.text, now.loc⟩ :: tokens)), last)
      | ended => ended

theorem outcome_tokenize?_succ (t : Tables σ) (steps count : Nat) (s : State σ) :
    outcome (tokenize? t steps (count + 1)) s = tokensAfter t steps count (outcome (lex? t steps) s) := by
  rw [tokenize?, outcome_bind]
  rcases outcome (lex? t steps) s with ⟨_ | _ | kind, now⟩
  · rfl
  · rfl
  · dsimp only
    rw [outcome_bind_ok (outcome_get now), tokensAfter]
    split
    · rfl
    · rw [outcome_bind]
      rcases outcome (tokenize? t steps count) now with ⟨_ | _ | tokens, last⟩ <;> rfl

theorem outcome_lex?_token {t : Tables σ} {s now : State σ} {v : Value} (step : outcome (next t) s = (.ok v, now))
    (some : v ≠ .none) (steps : Nat) : outcome (lex? t (steps + 1)) s = (.ok (.some v), now) := by
  rw [outcome_lex?_succ, step]
  cases v
  case none => exact absurd rfl some
  all_goals rfl

theorem tokensAfter_ended (t : Tables σ) (steps count : Nat) {now : State σ} (ended : now.Ended) :
    tokensAfter t steps count (.ok (some endToken), now) = (.ok (some []), now) := by
  have same : Value.same endToken endToken = true := by rw [endToken, Value.same_int, beq_self_eq_true]
  rw [tokensAfter, ended.done, same]
  rfl

section Found

variable {t : Tables σ} (actions : t.StaysReady) (nonempty : t.MatchesSome)

include actions nonempty

/-- The search for tokens finds what the actions yield. `left` bounds the search for the first token, `steps` the ones
after it. -/
theorem Steps.found {n : Nat} {s now : State σ} {tokens : List Token} (run : Steps t n s tokens now) (ready : s.Ready)
    {steps left count : Nat} (enough : n < steps) (within : n < left)
    (reached : count + 1 ≤ tokens.length ∨ now.done = true) :
    (tokensAfter t steps count (outcome (lex? t left) s)).1 = .ok (some (tokens.take (count + 1))) := by
  induction run generalizing left count with
  | none s =>
    rcases reached with none | done
    · cases none
    · rw [ready.running] at done
      cases done
  | @more n s between now v tokens step run ih =>
    obtain ⟨left, rfl⟩ := Nat.exists_eq_add_of_lt within
    have ends := stepEnds_next actions nonempty ready
    rw [step] at ends
    generalize stepTokens t s = first at ends reached
    cases ends with
    | nothing between_ready =>
      rw [outcome_lex?_succ, step]
      exact ih between_ready (by omega) (by omega) reached
    | token some between_ready =>
      rw [outcome_lex?_token step some, tokensAfter, between_ready.running, Bool.false_and, if_neg Bool.false_ne_true,
        List.singleton_append, List.take_succ_cons]
      cases count with
      | zero => rfl
      | succ count =>
        have others : (tokensAfter t steps count (outcome (lex? t steps) between)).1 =
            .ok (.some (tokens.take (count + 1))) :=
          ih between_ready (by omega) (by omega) (by simpa using reached)
        rw [outcome_tokenize?_succ]
        generalize tokensAfter t steps count (outcome (lex? t steps) between) = ended at others ⊢
        obtain ⟨found, last⟩ := ended
        cases others
        rfl
    | atEnd between_ended =>
      obtain ⟨rfl, -⟩ := run.of_ended between_ended
      rw [outcome_lex?_token step (by simp [endToken]), tokensAfter_ended t steps count between_ended]
      rfl

end Found

/-! ## Tokens that have been found -/

/-- How the search for a token ends, as a number of steps of which only the last one can have yielded a token. -/
inductive Searched (t : Tables σ) (s : State σ) : Nat → Except Error (Option Value) × State σ → Prop where
  | nothing {steps : Nat} {now : State σ} : Steps t steps s [] now → Searched t s steps (.ok none, now)
  | token {steps n : Nat} {v : Value} {now : State σ} :
      Steps t n s [⟨v, now.text, now.loc⟩] now → now.Ready → Searched t s steps (.ok (some v), now)
  | atEnd {steps n : Nat} {now : State σ} :
      Steps t n s [] now → now.Ended → Searched t s steps (.ok (some endToken), now)
  | failed {steps n : Nat} {between now : State σ} {e : Error} :
      Steps t n s [] between → outcome (next t) between = (.error e, now) → stepTokens t between = [] →
      Searched t s steps (.error e, now)

theorem Searched.after {t : Tables σ} {s between : State σ} (step : outcome (next t) s = (.ok .none, between))
    (none : stepTokens t s = []) {steps : Nat} {ended : Except Error (Option Value) × State σ}
    (searched : Searched t between steps ended) : Searched t s (steps + 1) ended := by
  have prepend {n : Nat} {tokens : List Token} {now : State σ} (run : Steps t n between tokens now) :
      Steps t (n + 1) s tokens now := by
    simpa only [none, List.nil_append] using Steps.more step run
  cases searched with
  | nothing run => exact .nothing (prepend run)
  | token run ready => exact .token (prepend run) ready
  | atEnd run ended => exact .atEnd (prepend run) ended
  | failed run failed none => exact .failed (prepend run) failed none

/-- What the search for tokens has come to: the tokens of a number of steps, at most as many as asked for, and fewer
only at the end of the input; or a search for a token that the bound on its steps has cut short; or an error. -/
inductive Accounted (t : Tables σ) (steps count : Nat) (s : State σ) :
    Except Error (Option (List Token)) × State σ → Prop where
  | found {n : Nat} {tokens : List Token} {now : State σ} :
      Steps t n s tokens now → tokens.length ≤ count → (tokens.length < count → now.Ended) →
      Accounted t steps count s (.ok (some tokens), now)
  | cut {n : Nat} {tokens : List Token} {between now : State σ} :
      Steps t n s tokens between → tokens.length < count → Steps t steps between [] now →
      Accounted t steps count s (.ok none, now)
  | failed {n : Nat} {tokens : List Token} {between now : State σ} {e : Error} :
      Steps t n s tokens between → tokens.length < count → outcome (next t) between = (.error e, now) →
      stepTokens t between = [] →
      Accounted t steps count s (.error e, now)

section Accounting

variable {t : Tables σ} (actions : t.StaysReady) (nonempty : t.MatchesSome)

include actions nonempty

theorem searched_lex? (steps : Nat) {s : State σ} (ready : s.Ready) :
    Searched t s steps (outcome (lex? t steps) s) := by
  induction steps generalizing s with
  | zero => exact .nothing (.none s)
  | succ steps ih =>
    have ends := stepEnds_next actions nonempty ready
    rcases step : outcome (next t) s with ⟨e | v, between⟩ <;> rw [step] at ends
    · rw [outcome_lex?_succ, step]
      refine .failed (.none s) step ?_
      generalize stepTokens t s = tokens at ends
      cases ends
      rfl
    · by_cases none : v = .none
      · subst none
        obtain ⟨none, between_ready⟩ := ends.of_none
        rw [outcome_lex?_succ, step]
        exact (ih between_ready).after step none
      · have one : Steps t 1 s (stepTokens t s) between := by
          simpa only [List.append_nil] using Steps.more step (.none between)
        rw [outcome_lex?_token step none]
        generalize stepTokens t s = tokens at ends one
        cases ends with
        | nothing => exact absurd rfl none
        | token _ between_ready => exact .token one between_ready
        | atEnd between_ended => exact .atEnd one between_ended

theorem accounted_tokenize? (steps count : Nat) {s : State σ} (ready : s.Ready) :
    Accounted t steps count s (outcome (tokenize? t steps count) s) := by
  induction count generalizing s with
  | zero => exact .found (.none s) (Nat.le_refl 0) fun less => absurd less (Nat.lt_irrefl 0)
  | succ count ih =>
    have searched := searched_lex? actions nonempty steps ready
    rw [outcome_tokenize?_succ]
    generalize outcome (lex? t steps) s = ended at searched
    cases searched with
    | nothing run => exact .cut (.none s) (Nat.succ_pos count) run
    | failed run failed none => exact .failed run (Nat.succ_pos count) failed none
    | atEnd run now_ended =>
      rw [tokensAfter_ended t steps count now_ended]
      exact .found run (Nat.zero_le _) fun _ => now_ended
    | @token _ v now run now_ready =>
      have others := ih now_ready
      rw [tokensAfter, now_ready.running, Bool.false_and, if_neg Bool.false_ne_true]
      generalize outcome (tokenize? t steps count) now = ended at others ⊢
      cases others with
      | found more most ended =>
        exact .found (run.append more) (Nat.succ_le_succ most) fun fewer => ended (Nat.lt_of_succ_lt_succ fewer)
      | cut more fewer cut => exact .cut (run.append more) (Nat.succ_lt_succ fewer) cut
      | failed more fewer failed none => exact .failed (run.append more) (Nat.succ_lt_succ fewer) failed none

end Accounting

/-! ## Whole texts -/

/-- The tokens of a text are what the actions yield that are run in the steps from its beginning, in their order, each
with the match as its action leaves it, if no rule matches empty text, nothing handles errors, and actions neither start
on another text nor take steps themselves. Nothing else is asked of what the actions yield. The first component says
that all of it is found, the second that nothing else is, and that no input is left at the end. -/
theorem tokenize_loses_nothing (x : Session σ)
    (nonempty : ∀ rule before rest text, x.tables.match? rule before rest = .ok (some text) → text ≠ [])
    (actions : ∀ rule condition, (x.scripts rule condition).Makes fun op => op.isLocal = true)
    (installs : ∀ rule condition, (x.scripts rule condition).InstallsNone)
    (depth : Nat) (source : Text) (s : State σ) (unhandled : s.world.shared.handler = none) :
    (∀ n tokens now, Steps (x.tablesAt depth) n (s.setInput x.tables.ranges source) tokens now →
      ∀ steps count, n < steps → count ≤ tokens.length ∨ now.done = true →
        (outcome (tokenize? (x.tablesAt depth) steps count) (s.setInput x.tables.ranges source)).1 =
          .ok (some (tokens.take count))) ∧
    ∀ steps count, Accounted (x.tablesAt depth) steps count (s.setInput x.tables.ranges source)
      (outcome (tokenize? (x.tablesAt depth) steps count) (s.setInput x.tables.ranges source)) := by
  have ready : (s.setInput x.tables.ranges source).Ready := ⟨rfl, unhandled⟩
  have acts := x.staysReady actions installs depth
  have matched : (x.tablesAt depth).MatchesSome := by
    intro rule before rest text found
    refine nonempty rule before rest text ?_
    cases depth <;> exact found
  refine ⟨fun n tokens now run steps count enough reached => ?_, fun steps count =>
    accounted_tokenize? acts matched steps count ready⟩
  cases count with
  | zero => rfl
  | succ count =>
    rw [outcome_tokenize?_succ]
    exact run.found acts matched ready enough enough reached

/-- Both `a` and `d` yield tokens that equal the token at the end. The first rule for `b` rejects its match after it has
consumed what follows, and the second one puts two other letters in its place. -/
def endLike : Session Unit where
  tables :=
    { matchers := "abbd".toList.map fun letter _ rest => if rest.head? = some letter then some 1 else none
      conditions := [(initialCondition, [0, 1, 2, 3])]
      backtracking := true
      action := fun _ _ => return .none }
  scripts
    | 0, _ => .yield (.int 1)
    | 1, _ => .call .input fun _ => .call .reject fun _ => .yield .none
    | 2, _ => .call (.unput ['d', 'd']) fun _ => .call .more fun _ => .yield .none
    | _, _ => .yield (.bool true)
  steps := 1

def endLikeStart : State Unit := State.setInput false "abd".toList { world := { memory := () } }

theorem endLike_matchesSome : endLike.tables.MatchesSome := by
  intro rule before rest text found
  rcases rest with _ | ⟨first, others⟩
  · rcases rule with _ | _ | _ | _ | rule <;> simp [Tables.match?, endLike] at found
  · rcases rule with _ | _ | _ | _ | rule <;> simp [Tables.match?, endLike] at found <;> simp [← found.2]

theorem tokenize_loses_nothing_endLike :
    ∃ n tokens now, Steps (endLike.tablesAt 1) n endLikeStart tokens now ∧
      tokens.map (fun a => (Value.same a.kind endToken, String.ofList a.text)) =
        [(true, "a"), (true, "d"), (true, "d"), (true, "d")] ∧
      now.done = true ∧ now.rest = [] ∧
      ∀ steps count, n < steps →
        (outcome (tokenize? (endLike.tablesAt 1) steps count) endLikeStart).1 = .ok (some (tokens.take count)) := by
  have actions : ∀ rule condition, (endLike.scripts rule condition).Makes fun op => op.isLocal = true := by
    intro rule condition
    rcases rule with _ | _ | _ | rule <;> simp [endLike, Script.Makes, Operation.isLocal]
  have installs : ∀ rule condition, (endLike.scripts rule condition).InstallsNone := by
    intro rule condition
    rcases rule with _ | _ | _ | rule <;> simp [endLike, Script.InstallsNone]
  have found : (outcome (tokenize? (endLike.tablesAt 1) 7 9) endLikeStart).1.toOption.join.map
      (·.map fun a => (Value.same a.kind endToken, String.ofList a.text)) =
        some [(true, "a"), (true, "d"), (true, "d"), (true, "d")] := by decide +kernel
  obtain ⟨complete, sound⟩ := tokenize_loses_nothing endLike endLike_matchesSome actions installs 1 "abd".toList
    { world := { memory := () } } rfl
  have accounted : Accounted (endLike.tablesAt 1) 7 9 endLikeStart
      (outcome (tokenize? (endLike.tablesAt 1) 7 9) endLikeStart) := sound 7 9
  generalize outcome (tokenize? (endLike.tablesAt 1) 7 9) endLikeStart = ended at found accounted
  cases accounted with
  | cut => cases found
  | failed => cases found
  | @found n tokens now run _ atEnd =>
    have kinds := Option.some.inj found
    have four : tokens.length = 4 := by simpa using congrArg List.length kinds
    obtain ⟨done, rest⟩ := atEnd (by omega)
    exact ⟨n, tokens, now, run, kinds, done, rest, fun steps count enough =>
      complete n tokens now run steps count enough (Or.inr done)⟩

end LexGen.Scanner
