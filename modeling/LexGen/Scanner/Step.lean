import LexGen.Scanner.Input
import LexGen.Scanner.Position

/-!
# Scanning

A step of the scanner finds a rule that matches at the position and runs its action. An action yields a token,
or nothing to go on. Only the rules of the current start condition are tried, in their order: the first that
matches wins, or the one with the longest match where the options say so. With backtracking, an action may
reject its match; then everything is as before the match, and the next rule is tried.
-/

namespace LexGen.Scanner

/-- What a scanner works with. `σ` is the type of the memory of its actions. -/
structure Tables (σ : Type) where
  /-- How long a match of each rule is, between the text before the position, in reverse, and the text
  after it. -/
  matchers : List (Text → Text → Option Nat)
  conditions : List (String × List Nat)
  flex : Bool := false
  backtracking : Bool := false
  ranges : Bool := false
  /-- The action of a rule, with the start condition that the rule matched in. -/
  action : (rule : Nat) → (condition : String) → Run σ Value

def endToken : Value := .int 1

variable {σ : Type}

/-! ## Errors -/

def errorDetails (line : Int) : Value :=
  .dict [(.str "text", .str ""), (.str "token", .none), (.str "line", .int line)]

def detailNumber? (details : List (Value × Value)) (name : String) : Option Int :=
  (Value.get? details name).bind Value.integer?

def detailText (details : List (Value × Value)) (name : String) : String :=
  ((Value.get? details name).bind Value.str?).getD ""

/-- Tell the handler of an error. Without a handler the error is raised. -/
def report (message : String) (details : Value) : Run σ Value := do
  let s ← get
  match s.world.shared.handler with
  | some answer => do
    set { s with world := { s.world with reports := s.world.reports ++ [Report.mk message details] } }
    return answer
  | none =>
    match details with
    | .dict entries => throw (.lexical message (detailNumber? entries "line") (detailText entries "text"))
    | _ => throw (.fault .noAttribute)

def reportHere (what : String) : Run σ Value := do
  let s ← get
  report ("Lexical error on line " ++ toString (s.line + 1) ++ ". " ++ what ++ "\n" ++
    String.ofList s.showPosition) (errorDetails s.line)

/-- Reject the current match. This is an error without backtracking. -/
def reject (t : Tables σ) : Run σ Value := do
  if t.backtracking then
    modify fun s => { s with rejected := true }
    return .scanner
  else
    reportHere ("You can only invoke reject() in the lexer when the lexer is of the backtracking persuasion " ++
      "(options.backtrack_lexer = True).")

/-! ## Finding a rule -/

/-- The rules of a start condition. The empty name stands for the initial condition. -/
def Tables.rulesOf (t : Tables σ) (condition : String) : Except Error (List Nat) :=
  let name := if condition.isEmpty then initialCondition else condition
  match t.conditions.lookup name with
  | some rules => .ok rules
  | none => .error (.fault (.noKey (.str name)))

def Tables.currentRules (t : Tables σ) (s : State σ) : Except Error (List Nat) :=
  t.rulesOf (s.conditions.headD "")

def Tables.match? (t : Tables σ) (rule : Nat) (before rest : Text) : Except Error (Option Text) :=
  match t.matchers[rule]? with
  | some matcher => .ok ((matcher before rest).map rest.take)
  | none => .error (.fault .badIndex)

def better (best : Option (Nat × Text)) (rule : Nat) (found : Text) : Option (Nat × Text) :=
  match best with
  | some (other, text) => if found.length ≤ text.length then some (other, text) else some (rule, found)
  | none => some (rule, found)

def Tables.select (t : Tables σ) (before rest : Text) :
    (rules : List Nat) → (best : Option (Nat × Text)) → Except Error (Option (Nat × Text))
  | [], best => .ok best
  | rule :: rules, best =>
    match t.match? rule before rest with
    | .error e => .error e
    | .ok none => t.select before rest rules best
    | .ok (some found) =>
      if t.flex then t.select before rest rules (better best rule found) else .ok (some (rule, found))

/-! ## Steps -/

/-- Whether an empty match has left everything as it was, so that it would be found again forever. -/
def State.isStuck (before now : State σ) : Bool :=
  !now.rest.isEmpty && now.before == before.before && now.rest == before.rest &&
    now.conditions == before.conditions

def attempt (t : Tables σ) (rule : Nat) (text : Text) : Run σ Value := do
  let saved ← get
  let entered := saved.commit t.ranges text
  set entered
  match entered.conditions with
  | [] => throw (.fault .badIndex)
  | condition :: _ => do
    let token ← t.action rule condition
    modify State.reopen
    match token with
    | .none => do
      let now ← get
      if now.rejected then do
        if t.backtracking then set (saved.restore now)
        return .none
      else if text.isEmpty && entered.isStuck now then
        reportHere ("Rule " ++ toString rule ++ " matched empty text without consuming input.")
      else return .none
    | token => return token

def unmatched : Run σ Value := do
  let s ← get
  if s.rest.isEmpty then return endToken else reportHere "Unrecognized text."

def tryRules (t : Tables σ) : (rules : List Nat) → Run σ Value
  | [] => unmatched
  | rule :: rules => do
    let s ← get
    match ← t.match? rule s.before s.rest with
    | none => tryRules t rules
    | some text => do
      match ← attempt t rule text with
      | .none => do
        let s ← get
        if s.rejected then tryRules t rules else return .none
      | token => return token

/-- One step of the scanner: a token, nothing if the action yields none, or the token at the end. -/
def next (t : Tables σ) : Run σ Value := do
  let s ← get
  if s.done then return endToken
  let s := s.start
  set s
  let rules ← t.currentRules s
  if t.backtracking then tryRules t rules
  else match ← t.select s.before s.rest rules none with
    | some (rule, text) => attempt t rule text
    | none => unmatched

/-- Step until there is a token. Yields nothing if that takes more steps than the given number. -/
def lex? (t : Tables σ) : (steps : Nat) → Run σ (Option Value)
  | 0 => return none
  | steps + 1 => do
    match ← next t with
    | .none => lex? t steps
    | token => return some token

def lex (t : Tables σ) (steps : Nat) : Run σ Value := do
  match ← lex? t steps with
  | some token => return token
  | none => throw (.fault .endless)

/-! ## Tokens -/

/-- A token with the text and the span of its match. -/
structure Token where
  kind : Value
  text : Text
  loc : Location

/-- The tokens up to the end of the input, at most the given number. Yields nothing if one of them takes too
many steps. -/
def tokenize? (t : Tables σ) (steps : Nat) : (count : Nat) → Run σ (Option (List Token))
  | 0 => return some []
  | count + 1 => do
    match ← lex? t steps with
    | none => return none
    | some kind => do
      let s ← get
      if s.done && Value.same kind endToken then return some []
      else do
        match ← tokenize? t steps count with
        | none => return none
        | some tokens => return some (⟨kind, s.text, s.loc⟩ :: tokens)

end LexGen.Scanner
