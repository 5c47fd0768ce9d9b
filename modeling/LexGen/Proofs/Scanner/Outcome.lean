import LexGen.Scanner.Operation

/-!
# Outcomes of runs

What work on the state of a scanner yields, as a function of the state. The steps of the scanner are
described once in these terms; everything that is proved of the scanner goes through these descriptions.
-/

namespace LexGen.Scanner

variable {σ α β : Type}

def outcome (x : Run σ α) (s : State σ) : Except Error α × State σ := x.run.run s

@[simp] theorem outcome_get (s : State σ) : outcome (get : Run σ (State σ)) s = (.ok s, s) := rfl

@[simp] theorem outcome_set (now s : State σ) :
    outcome (set now : Run σ PUnit) s = (.ok ⟨⟩, now) := rfl

@[simp] theorem outcome_modify (f : State σ → State σ) (s : State σ) :
    outcome (modify f : Run σ PUnit) s = (.ok ⟨⟩, f s) := rfl

@[simp] theorem outcome_lift (x : Except Error α) (s : State σ) :
    outcome (liftM x : Run σ α) s = (x, s) := rfl

theorem outcome_bind (x : Run σ α) (f : α → Run σ β) (s : State σ) :
    outcome (x >>= f) s =
      match outcome x s with
      | (.ok a, now) => outcome (f a) now
      | (.error e, now) => (.error e, now) := by
  simp only [outcome, ExceptT.run_bind, StateT.run_bind]
  rcases x.run.run s with ⟨_ | _, now⟩ <;> rfl

theorem outcome_bind_ok {x : Run σ α} {f : α → Run σ β} {s now : State σ} {a : α}
    (h : outcome x s = (.ok a, now)) : outcome (x >>= f) s = outcome (f a) now := by
  rw [outcome_bind, h]

theorem outcome_tryCatch (x : Run σ α) (f : Error → Run σ α) (s : State σ) :
    outcome (tryCatch x f) s =
      match outcome x s with
      | (.ok a, now) => (.ok a, now)
      | (.error e, now) => outcome (f e) now := by
  simp only [outcome, tryCatch, tryCatchThe, MonadExceptOf.tryCatch, ExceptT.tryCatch, ExceptT.run_mk,
    StateT.run_bind]
  change (StateT.run x.run s >>= fun p => _) = _
  rcases x.run.run s with ⟨_ | _, now⟩ <;> rfl

/-! ## Errors -/

def raised (message : String) : (details : Value) → Error
  | .dict entries => .lexical message (detailNumber? entries "line") (detailText entries "text")
  | _ => .fault .noAttribute

theorem raised_errorDetails (message : String) (line : Int) :
    raised message (errorDetails line) = .lexical message (some line) "" := by
  simp [raised, errorDetails, detailNumber?, detailText, Value.get?, Value.lookup, Value.same,
    Value.integer?, Value.str?]

def State.told (message : String) (details : Value) (s : State σ) : State σ :=
  { s with world := { s.world with reports := s.world.reports ++ [⟨message, details⟩] } }

theorem outcome_report (message : String) (details : Value) (s : State σ) :
    outcome (report message details : Run σ Value) s =
      match s.world.shared.handler with
      | some answer => (.ok answer, s.told message details)
      | none => (.error (raised message details), s) := by
  unfold report
  simp only [outcome_bind, outcome_get]
  cases s.world.shared.handler with
  | some answer => rfl
  | none => cases details <;> rfl

def State.complaint (what : String) (s : State σ) : String :=
  "Lexical error on line " ++ toString (s.line + 1) ++ ". " ++ what ++ "\n" ++ String.ofList s.showPosition

theorem outcome_reportHere (what : String) (s : State σ) :
    outcome (reportHere what : Run σ Value) s =
      match s.world.shared.handler with
      | some answer => (.ok answer, s.told (s.complaint what) (errorDetails s.line))
      | none => (.error (.lexical (s.complaint what) (some s.line) ""), s) := by
  unfold reportHere
  rw [outcome_bind_ok (outcome_get s), outcome_report, raised_errorDetails]
  rfl

theorem state_report (message : String) (details : Value) (s : State σ) :
    ∃ w, (outcome (report message details : Run σ Value) s).2 = { s with world := w } := by
  rw [outcome_report]
  cases s.world.shared.handler with
  | some answer => exact ⟨_, rfl⟩
  | none => exact ⟨s.world, rfl⟩

theorem state_reportHere (what : String) (s : State σ) :
    ∃ w, (outcome (reportHere what : Run σ Value) s).2 = { s with world := w } := by
  unfold reportHere
  rw [outcome_bind_ok (outcome_get s)]
  exact state_report _ _ s

/-! ## Attempts -/

def stuckComplaint (rule : Nat) : String :=
  "Rule " ++ toString rule ++ " matched empty text without consuming input."

/-- How an attempt ends whose action has yielded nothing. `saved` is the state before the match. -/
def concluded (t : Tables σ) (rule : Nat) (text : Text) (saved now : State σ) :
    Except Error Value × State σ :=
  if now.rejected then (.ok .none, if t.backtracking then saved.restore now else now)
  else if text.isEmpty && (saved.commit t.ranges text).isStuck now then
    outcome (reportHere (stuckComplaint rule)) now
  else (.ok .none, now)

theorem outcome_attempt (t : Tables σ) (rule : Nat) (text : Text) (s : State σ) :
    outcome (attempt t rule text) s =
      match s.conditions with
      | [] => (.error (.fault .badIndex), s.commit t.ranges text)
      | condition :: _ =>
        match outcome (t.action rule condition) (s.commit t.ranges text) with
        | (.error e, now) => (.error e, now)
        | (.ok .none, now) => concluded t rule text s now.reopen
        | (.ok token, now) => (.ok token, now.reopen) := by
  unfold attempt
  simp only [outcome_bind, outcome_get, outcome_set]
  change outcome (match s.conditions with | [] => _ | _ :: _ => _) _ = _
  cases s.conditions with
  | nil => rfl
  | cons condition others =>
    simp only [outcome_bind, outcome_modify]
    rcases outcome (t.action rule condition) (s.commit t.ranges text) with ⟨_ | token, now⟩
    · rfl
    · cases token
      case none =>
        simp only [outcome_bind, outcome_get, concluded]
        split
        · cases t.backtracking <;> rfl
        · split <;> rfl
      all_goals rfl

/-! ## Steps -/

theorem outcome_unmatched (s : State σ) :
    outcome (unmatched : Run σ Value) s =
      if s.rest.isEmpty then (.ok endToken, s) else outcome (reportHere "Unrecognized text.") s := by
  unfold unmatched
  rw [outcome_bind_ok (outcome_get s)]
  split <;> rfl

theorem outcome_tryRules_cons (t : Tables σ) (rule : Nat) (rules : List Nat) (s : State σ) :
    outcome (tryRules t (rule :: rules)) s =
      match t.match? rule s.before s.rest with
      | .error e => (.error e, s)
      | .ok none => outcome (tryRules t rules) s
      | .ok (some text) =>
        match outcome (attempt t rule text) s with
        | (.ok .none, now) => if now.rejected then outcome (tryRules t rules) now else (.ok .none, now)
        | ended => ended := by
  rw [tryRules, outcome_bind_ok (outcome_get s), outcome_bind, outcome_lift]
  cases t.match? rule s.before s.rest with
  | error e => rfl
  | ok found =>
    cases found with
    | none => rfl
    | some text =>
      simp only [outcome_bind]
      rcases outcome (attempt t rule text) s with ⟨_ | token, now⟩
      · rfl
      · cases token
        case none =>
          simp only [outcome_bind, outcome_get]
          split <;> rfl
        all_goals rfl

theorem outcome_next (t : Tables σ) (s : State σ) :
    outcome (next t) s =
      if s.done then (.ok endToken, s)
      else match t.currentRules s.start with
        | .error e => (.error e, s.start)
        | .ok rules =>
          if t.backtracking then outcome (tryRules t rules) s.start
          else match t.select s.start.before s.start.rest rules none with
            | .error e => (.error e, s.start)
            | .ok (some (rule, text)) => outcome (attempt t rule text) s.start
            | .ok none => outcome unmatched s.start := by
  rw [next, outcome_bind_ok (outcome_get s)]
  split
  · rfl
  · simp only [outcome_bind, outcome_set, outcome_lift]
    cases t.currentRules s.start with
    | error e => rfl
    | ok rules =>
      dsimp only
      split
      · rfl
      · simp only [outcome_bind, outcome_lift]
        rcases t.select s.start.before s.start.rest rules none with _ | _ | ⟨rule, text⟩ <;> rfl

theorem outcome_lex?_succ (t : Tables σ) (steps : Nat) (s : State σ) :
    outcome (lex? t (steps + 1)) s =
      match outcome (next t) s with
      | (.error e, now) => (.error e, now)
      | (.ok .none, now) => outcome (lex? t steps) now
      | (.ok token, now) => (.ok (some token), now) := by
  rw [lex?, outcome_bind]
  rcases outcome (next t) s with ⟨_ | token, now⟩
  · rfl
  · cases token <;> rfl

theorem state_lex (t : Tables σ) (steps : Nat) (s : State σ) :
    (outcome (lex t steps) s).2 = (outcome (lex? t steps) s).2 := by
  rw [lex, outcome_bind]
  rcases outcome (lex? t steps) s with ⟨_ | token, now⟩
  · rfl
  · cases token <;> rfl

end LexGen.Scanner
