import LexGen.Proofs.CompiledLexer.EchoRule
import LexGen.Proofs.CompiledLexer.Moves
import LexGen.Proofs.CompiledLexer.Selection
import LexGen.Proofs.Scanner.Termination

/-!
# Scanning everything

With the flex policy a lexer goes through every text to its end. Where no rule of the grammar matches a text that is
not empty, the rule that echoes takes one character; an empty match never wins while there is input left.

* `next_advances`: one step.
* `flex_scans_everything`: all steps.
-/

namespace LexGen.CompiledLexer

open Scanner Program

variable {settings : Settings} {tokens : Value} {grammar : Grammar} {lexer : CompiledLexer}

/-! ## The state between steps -/

structure Between (grammar : Grammar) (ready : Memory → Prop) (s : State Memory) : Prop where
  memory : ready s.world.memory
  inclusive : Inclusive grammar s.conditions
  fresh : s.more = false
  ended : s.done = true → s.rest = [] ∧ s.text = []

/-- The next character, if no rule of the grammar that is active in the current condition matches a text that is not
empty. -/
noncomputable def unmatchedText (grammar : Grammar) (lexer : CompiledLexer) (s : State Memory) : Text :=
  open Classical in
  if ∃ i < grammar.rules.length, ∃ text, ActiveIn grammar (conditionOf (s.conditions.headD "")) i ∧
      lexer.Matches s.before s.rest i text ∧ text ≠ [] then []
  else s.rest.take 1

theorem unmatchedText_of_rest {s : State Memory} (empty : s.rest = []) : unmatchedText grammar lexer s = [] := by
  rw [unmatchedText, empty]
  split <;> rfl

structure Advances (grammar : Grammar) (lexer : CompiledLexer) (s now : State Memory) : Prop where
  split : now.text ++ now.rest = s.rest
  output : now.world.output = s.world.output ++ unmatchedText grammar lexer s
  reports : now.world.reports = s.world.reports
  progress : now.done = true ∨ now.rest.length < s.rest.length

/-! ## Attempts -/

theorem outcome_attempt_of_acted {t : Tables Memory} {i : Nat} {text : Text} {s now : State Memory}
    {condition : String} {others : List String} (stack : s.conditions = condition :: others) {v : Value}
    (acted : outcome (t.action i condition) (s.commit t.ranges text) = (.ok v, now)) (kept : now.rejected = false)
    (free : text ≠ [] ∨ now.rest = []) : outcome (attempt t i text) s = (.ok v, now.reopen) := by
  have unstuck : (text.isEmpty && (s.commit t.ranges text).isStuck now.reopen) = false := by
    rcases free with nonempty | empty
    · simp [nonempty]
    · simp [State.isStuck, empty]
  rw [outcome_attempt, stack]
  dsimp only
  rw [acted]
  cases v
  case none => simp [concluded, kept, unstuck]
  all_goals rfl

def entered (ranges : Bool) (text : Text) (s : State Memory) : State Memory :=
  s.start.commit ranges text

theorem entered_world (ranges : Bool) (text : Text) (s : State Memory) : (entered ranges text s).world = s.world :=
  s.start_world

theorem entered_conditions (ranges : Bool) (text : Text) (s : State Memory) :
    (entered ranges text s).conditions = s.conditions :=
  s.start_conditions

theorem entered_text (ranges : Bool) (text : Text) {s : State Memory} (fresh : s.more = false) :
    (entered ranges text s).text = text := by
  change s.start.text ++ text = text
  rw [State.start_text fresh, List.nil_append]

/-- The state after a match whose action has changed nothing but the start conditions and the world. -/
def acted (ranges : Bool) (text : Text) (s : State Memory) (conditions : List String) (w : World Memory) :
    State Memory :=
  { entered ranges text s with conditions, world := w }

section Acted

variable {ready : Memory → Prop} {ranges : Bool} {text : Text} {s : State Memory} {conditions : List String}
  {w : World Memory}

theorem acted_rest : (acted ranges text s conditions w).rest = s.rest.drop text.length := by
  rw [← s.start_rest]
  rfl

theorem acted_rest_nil (empty : s.rest = []) : (acted ranges text s conditions w).rest = [] := by
  rw [acted_rest, empty]
  exact List.drop_nil

theorem acted_text (fresh : s.more = false) : (acted ranges text s conditions w).text = text :=
  entered_text ranges text fresh

theorem acted_done (running : s.done = false) : (acted ranges text s conditions w).done = s.rest.isEmpty := by
  change s.start.done = s.rest.isEmpty
  rw [State.start_done, running, Bool.false_or]

theorem rest_of_done (running : s.done = false) (done : (acted ranges text s conditions w).reopen.done = true) :
    s.rest = [] := by
  unfold State.reopen at done
  split at done
  · rw [acted_done running] at done
    exact List.isEmpty_iff.1 done
  · cases done

theorem between_acted (between : Between grammar ready s) (running : s.done = false) (begins : text <+: s.rest)
    (inclusive : Inclusive grammar conditions) (memory : ready w.memory) :
    Between grammar ready (acted ranges text s conditions w).reopen where
  memory := by rwa [State.reopen_world]
  inclusive := by rwa [State.reopen_conditions]
  fresh := by
    unfold State.reopen
    split <;> rfl
  ended done := by
    have empty := rest_of_done running done
    rw [empty, List.prefix_nil] at begins
    rw [State.reopen_rest, acted_rest, State.reopen_text, acted_text between.fresh, empty]
    exact ⟨List.drop_nil, begins⟩

theorem advances_acted (between : Between grammar ready s) (running : s.done = false) (begins : text <+: s.rest)
    (free : text ≠ [] ∨ s.rest = [])
    (output : w.output = s.world.output ++ unmatchedText grammar lexer s) (reports : w.reports = s.world.reports) :
    Advances grammar lexer s (acted ranges text s conditions w).reopen where
  split := by
    rw [State.reopen_text, acted_text between.fresh, State.reopen_rest, acted_rest]
    exact List.prefix_iff_eq_append.1 begins
  output := by rwa [State.reopen_world]
  reports := by rwa [State.reopen_world]
  progress := by
    rcases free with nonempty | empty
    · right
      have positive := List.length_pos_iff.2 nonempty
      have le := begins.length_le
      rw [State.reopen_rest, acted_rest, List.length_drop]
      omega
    · left
      rw [State.reopen_done (acted_rest_nil empty), acted_done running, empty]
      rfl

end Acted

/-! ## Steps -/

section Steps

variable {ready : Memory → Prop} {action : Nat → String → Exec Value} {s : State Memory} {condition : String}
  {others : List String} {i : Nat} {text : Text}

theorem attempt_advances (between : Between grammar ready s) (running : s.done = false)
    (stack : s.conditions = condition :: others) (begins : text <+: s.rest) (free : text ≠ [] ∨ s.rest = [])
    {v : Value} {conditions : List String} {w : World Memory}
    (ended : outcome (action i condition) (entered lexer.options.ranges text s) =
      (.ok v, acted lexer.options.ranges text s conditions w))
    (inclusive : Inclusive grammar conditions) (memory : ready w.memory)
    (output : w.output = s.world.output ++ unmatchedText grammar lexer s) (reports : w.reports = s.world.reports) :
    ∃ v now, outcome (attempt (lexer.tables action) i text) s.start = (.ok v, now) ∧ Between grammar ready now ∧
      Advances grammar lexer s now :=
  ⟨v, _, outcome_attempt_of_acted (s.start_conditions.trans stack) ended rfl (free.imp_right acted_rest_nil),
    between_acted between running begins inclusive memory,
    advances_acted between running begins free output reports⟩

theorem own_advances (between : Between grammar ready s) (running : s.done = false)
    (stack : s.conditions = condition :: others) (moves : Moves grammar ready (action i condition))
    (begins : text <+: s.rest) (free : text ≠ [] ∨ s.rest = []) (matched : unmatchedText grammar lexer s = []) :
    ∃ v now, outcome (attempt (lexer.tables action) i text) s.start = (.ok v, now) ∧ Between grammar ready now ∧
      Advances grammar lexer s now := by
  have world := entered_world lexer.options.ranges text s
  have stack' := entered_conditions lexer.options.ranges text s
  obtain ⟨v, conditions, m, ended, moved, memory⟩ :=
    moves (entered lexer.options.ranges text s) (world ▸ between.memory) (stack' ▸ between.inclusive)
  rw [stack'] at moved
  refine attempt_advances between running stack begins free ended (moved.inclusive between.inclusive) memory ?_ ?_
  · rw [matched, List.append_nil, ← world]
  · rw [← world]

theorem echo_advances (compiled : (ofGrammar settings tokens grammar).outcome = .ok lexer)
    (flex : grammar.options.flex = true) (usable : Usable ready) (acts : Acts grammar lexer ready action)
    (between : Between grammar ready s) (running : s.done = false) (stack : s.conditions = condition :: others)
    {c : Char} {rest : Text} (left : s.rest = c :: rest) (unmatched : unmatchedText grammar lexer s = [c]) :
    ∃ v now, outcome (attempt (lexer.tables action) grammar.rules.length [c]) s.start = (.ok v, now) ∧
      Between grammar ready now ∧ Advances grammar lexer s now := by
  obtain ⟨entry, atEntry, depth, globals, source, sourceOf, runs⟩ := acts.last
  rw [action_echoRule compiled flex] at atEntry
  obtain rfl := Option.some.inj atEntry
  obtain rfl := Except.ok.inj sourceOf
  have world := entered_world lexer.options.ranges [c] s
  have memory : ready (entered lexer.options.ranges [c] s).world.memory := world ▸ between.memory
  have ended := (runs condition _ memory).trans (outcome_echoText depth globals _ condition (usable.plain _ memory))
  refine attempt_advances between running stack ?_ (.inl (List.cons_ne_nil _ _)) ended ?_
    (usable.framed _ _ memory) ?_ ?_
  · rw [left]
    exact ⟨rest, rfl⟩
  · rw [entered_conditions]
    exact between.inclusive
  · change (entered lexer.options.ranges [c] s).world.output ++ (entered lexer.options.ranges [c] s).text = _
    rw [entered_text _ _ between.fresh, unmatched, world]
  · change (entered lexer.options.ranges [c] s).world.reports = _
    rw [world]

end Steps

/-! ## The rule that echoes -/

theorem activeIn_echoRule (flex : grammar.options.flex = true) {condition : String}
    (included : grammar.Includes condition) : ActiveIn grammar condition grammar.rules.length :=
  ⟨echoRule, getElem?_completed flex, included⟩

theorem matches_echoRule (compiled : (ofGrammar settings tokens grammar).outcome = .ok lexer)
    (flex : grammar.options.flex = true) {before rest text : Text} :
    lexer.Matches before rest grammar.rules.length text ↔ rest ≠ [] ∧ text = rest.take 1 := by
  obtain ⟨rule, atRule, one, none⟩ := matchLength_echoRule compiled flex
  rw [Matches, atRule]
  cases rest with
  | nil => simp [none]
  | cons c rest => simp [one, eq_comm]

theorem prefix_of_matches {before rest text : Text} {i : Nat} (found : lexer.Matches before rest i text) :
    text <+: rest := by
  obtain ⟨rule, -, found⟩ := found
  obtain ⟨n, -, rfl⟩ := Option.map_eq_some_iff.1 found
  exact List.take_prefix n rest

theorem own_or_last (flex : grammar.options.flex = true) {condition : String} {i : Nat}
    (active : ActiveIn grammar condition i) : i < grammar.rules.length ∨ i = grammar.rules.length := by
  obtain ⟨rule, atRule, -⟩ := active
  have inRange := (List.getElem?_eq_some_iff.1 atRule).1
  rw [completed_of_flex flex, List.length_append, List.length_singleton] at inRange
  omega

/-! ## One step -/

section Step

variable {ready : Memory → Prop} {action : Nat → String → Exec Value} {s : State Memory} {condition : String}
  {others : List String} {i : Nat} {text : Text}

theorem unmatchedText_of_own (stack : s.conditions = condition :: others) (own : i < grammar.rules.length)
    (active : ActiveIn grammar (conditionOf condition) i) (found : lexer.Matches s.before s.rest i text)
    (nonempty : text ≠ []) : unmatchedText grammar lexer s = [] := by
  rw [unmatchedText, if_pos]
  rw [stack, List.headD_cons]
  exact ⟨i, own, text, active, found, nonempty⟩

theorem unmatchedText_of_last (flex : grammar.options.flex = true) (stack : s.conditions = condition :: others)
    (chosen : Chosen grammar lexer (conditionOf condition) s.before s.rest grammar.rules.length text)
    (single : text.length = 1) : unmatchedText grammar lexer s = s.rest.take 1 := by
  rw [unmatchedText, if_neg]
  rw [stack, List.headD_cons]
  rintro ⟨other, own, otherText, active, found, nonempty⟩
  -- A rule of the grammar with a match of one character would have won the tie.
  obtain ⟨le, first⟩ := chosen.longest flex other otherText active found
  have positive := List.length_pos_iff.2 nonempty
  have := first (by omega)
  omega

theorem chosen_advances (compiled : (ofGrammar settings tokens grammar).outcome = .ok lexer)
    (flex : grammar.options.flex = true) (usable : Usable ready) (acts : Acts grammar lexer ready action)
    (between : Between grammar ready s) (running : s.done = false) (stack : s.conditions = condition :: others)
    (included : grammar.Includes (conditionOf condition))
    (chosen : Chosen grammar lexer (conditionOf condition) s.before s.rest i text) :
    ∃ v now, outcome (attempt (lexer.tables action) i text) s.start = (.ok v, now) ∧ Between grammar ready now ∧
      Advances grammar lexer s now := by
  have begins := prefix_of_matches chosen.found
  -- The rule that echoes takes part in the choice exactly when there is input left.
  cases left : s.rest with
  | nil =>
    rcases own_or_last flex chosen.active with own | rfl
    · exact own_advances between running stack (acts.own i own condition) begins (.inr left)
        (unmatchedText_of_rest left)
    · exact absurd left ((matches_echoRule compiled flex).1 chosen.found).1
  | cons c rest =>
    have single : lexer.Matches s.before s.rest grammar.rules.length [c] := by
      rw [matches_echoRule compiled flex, left]
      exact ⟨List.cons_ne_nil _ _, rfl⟩
    -- So no empty match wins.
    have le := (chosen.longest flex _ _ (activeIn_echoRule flex included) single).1
    rcases own_or_last flex chosen.active with own | rfl
    · have nonempty : text ≠ [] := List.length_pos_iff.1 le
      exact own_advances between running stack (acts.own i own condition) begins (.inl nonempty)
        (unmatchedText_of_own stack own chosen.active chosen.found nonempty)
    · have taken := ((matches_echoRule compiled flex).1 chosen.found).2
      rw [left] at taken
      obtain rfl : text = [c] := taken
      have unmatched := unmatchedText_of_last flex stack chosen rfl
      rw [left] at unmatched
      exact echo_advances compiled flex usable acts between running stack left unmatched

theorem start_advances (between : Between grammar ready s) (empty : s.rest = []) :
    Between grammar ready s.start ∧ Advances grammar lexer s s.start := by
  have text := State.start_text between.fresh
  have done : s.start.done = true := by
    rw [State.start_done, empty]
    simp
  constructor
  · exact {
      memory := by
        rw [s.start_world]
        exact between.memory
      inclusive := by
        rw [s.start_conditions]
        exact between.inclusive
      fresh := s.start_more.trans between.fresh
      ended := fun _ => ⟨s.start_rest.trans empty, text⟩ }
  · exact {
      split := by rw [text, s.start_rest, List.nil_append]
      output := by rw [unmatchedText_of_rest empty, List.append_nil, s.start_world]
      reports := by rw [s.start_world]
      progress := .inl done }

/-- A step yields a value without a report. What it has matched is the beginning of the input that was left, and it has
written exactly the character that no rule of the grammar matches. -/
theorem next_advances (compiled : (ofGrammar settings tokens grammar).outcome = .ok lexer)
    (flex : grammar.options.flex = true) (ordered : grammar.options.backtracking = false) (usable : Usable ready)
    (acts : Acts grammar lexer ready action) (between : Between grammar ready s) :
    ∃ v now, outcome (next (lexer.tables action)) s = (.ok v, now) ∧ Between grammar ready now ∧
      Advances grammar lexer s now := by
  cases running : s.done with
  | true =>
    obtain ⟨rest, text⟩ := between.ended running
    refine ⟨endToken, s, ?_, between, ?_, ?_, rfl, .inl running⟩
    · rw [outcome_next, if_pos running]
    · rw [text, List.nil_append]
    · rw [unmatchedText_of_rest rest, List.append_nil]
  | false =>
    obtain ⟨condition, others, stack⟩ := List.exists_cons_of_ne_nil between.inclusive.1
    have included : grammar.Includes (conditionOf condition) :=
      between.inclusive.2 condition (stack ▸ List.mem_cons_self)
    have declared := included.declares
    have inRange : ∀ i ∈ StartConditions.members (StartConditions.prepare grammar.conditions)
        (completed grammar).rules (conditionOf condition), i < (lexer.tables action).matchers.length := by
      intro i mem
      simp only [tables, List.length_map]
      rw [rules_length_of_ofGrammar compiled]
      exact StartConditions.lt_of_mem_members mem
    rw [outcome_next_tables compiled ordered running stack declared]
    rcases (lexer.tables action).select_cases s.before s.rest (StartConditions.pairwise_members _ _ _) inRange with
      ⟨i, text, picked, wins⟩ | ⟨none, unmatched⟩
    · rw [picked]
      exact chosen_advances compiled flex usable acts between running stack included
        (chosen_of_wins compiled declared wins)
    · have empty : s.rest = [] := by
        by_contra nonempty
        exact not_matches_of_unmatched declared unmatched _ _ (activeIn_echoRule flex included)
          ((matches_echoRule compiled flex).2 ⟨nonempty, rfl⟩)
      rw [none]
      dsimp only
      rw [outcome_unmatched, if_pos (by simp [empty])]
      exact ⟨endToken, s.start, rfl, start_advances between empty⟩

end Step

/-! ## All steps -/

def scan (lexer : CompiledLexer) (action : Nat → String → Exec Value) (s : State Memory) (input : Text) (k : Nat) :
    State Memory :=
  (fun now => (outcome (next (lexer.tables action)) now).2)^[k] (s.setInput lexer.options.ranges input)

section Scan

variable {ready : Memory → Prop} {action : Nat → String → Exec Value} {s : State Memory} {input : Text}

theorem scan_succ (k : Nat) :
    scan lexer action s input (k + 1) = (outcome (next (lexer.tables action)) (scan lexer action s input k)).2 :=
  Function.iterate_succ_apply' ..

theorem between_setInput (ranges : Bool) (memory : ready s.world.memory) (input : Text) :
    Between grammar ready (s.setInput ranges input) where
  memory := memory
  inclusive := by
    refine ⟨List.cons_ne_nil _ _, fun name mem => ?_⟩
    obtain rfl := List.mem_singleton.1 mem
    exact .inl rfl
  fresh := rfl
  ended done := nomatch done

structure Scanned (grammar : Grammar) (lexer : CompiledLexer) (ready : Memory → Prop)
    (action : Nat → String → Exec Value) (s : State Memory) (input : Text) (n : Nat) : Prop where
  between : Between grammar ready (scan lexer action s input n)
  split : (List.range n).flatMap (fun k => (scan lexer action s input (k + 1)).text) ++
    (scan lexer action s input n).rest = input
  output : (scan lexer action s input n).world.output = s.world.output ++
    (List.range n).flatMap fun k => unmatchedText grammar lexer (scan lexer action s input k)
  reports : (scan lexer action s input n).world.reports = s.world.reports
  progress : (scan lexer action s input n).done = true ∨ (scan lexer action s input n).rest.length + n ≤ input.length

-- Steps are counted up: the state that a step begins in is the last one, so the invariant is at hand there.
theorem scanned (compiled : (ofGrammar settings tokens grammar).outcome = .ok lexer)
    (flex : grammar.options.flex = true) (ordered : grammar.options.backtracking = false) (usable : Usable ready)
    (acts : Acts grammar lexer ready action) (memory : ready s.world.memory) (n : Nat) :
    Scanned grammar lexer ready action s input n := by
  induction n with
  | zero => exact ⟨between_setInput _ memory input, rfl, (List.append_nil _).symm, rfl, .inr (Nat.le_refl _)⟩
  | succ n ih =>
    obtain ⟨v, now, ended, between, advances⟩ :=
      next_advances compiled flex ordered usable acts ih.between
    have state : scan lexer action s input (n + 1) = now := by
      rw [scan_succ, ended]
    refine ⟨state ▸ between, ?_, ?_, ?_, ?_⟩
    · rw [List.range_succ, List.flatMap_append, List.flatMap_singleton, List.append_assoc, state, advances.split,
        ih.split]
    · rw [List.range_succ, List.flatMap_append, List.flatMap_singleton, ← List.append_assoc, ← ih.output, state,
        advances.output]
    · rw [state, advances.reports, ih.reports]
    · rw [state]
      rcases ih.progress with done | left
      · rw [outcome_next, if_pos done] at ended
        obtain rfl : scan lexer action s input n = now := congrArg Prod.snd ended
        exact .inl done
      · refine advances.progress.imp_right fun shorter => ?_
        omega

/-- A lexer with the flex policy and without backtracking scans every input to its end, if the actions of its rules do
nothing but yield values and move between inclusive conditions. No step fails or tells a handler of an error. More
steps than the input has characters come to the end; the texts that they have matched make up the input, and what they
have written are the characters where no rule of the current condition matches a text that is not empty. -/
theorem flex_scans_everything (compiled : (ofGrammar settings tokens grammar).outcome = .ok lexer)
    (flex : grammar.options.flex = true) (ordered : grammar.options.backtracking = false) (usable : Usable ready)
    (acts : Acts grammar lexer ready action) (memory : ready s.world.memory) (input : Text) :
    (∀ k, (∃ v, (outcome (next (lexer.tables action)) (scan lexer action s input k)).1 = .ok v) ∧
        (scan lexer action s input k).world.reports = s.world.reports) ∧
      ∀ n, input.length < n →
        outcome (next (lexer.tables action)) (scan lexer action s input n) =
          (.ok endToken, scan lexer action s input n) ∧
        (List.range n).flatMap (fun k => (scan lexer action s input (k + 1)).text) = input ∧
        (scan lexer action s input n).world.output = s.world.output ++
          (List.range n).flatMap fun k => unmatchedText grammar lexer (scan lexer action s input k) := by
  have after : ∀ n, Scanned grammar lexer ready action s input n :=
    scanned compiled flex ordered usable acts memory
  refine ⟨fun k => ⟨?_, (after k).reports⟩, fun n long => ?_⟩
  · obtain ⟨v, now, ended, -⟩ := next_advances compiled flex ordered usable acts (after k).between
    exact ⟨v, by rw [ended]⟩
  · have done := (after n).progress.resolve_right (by omega)
    have split := (after n).split
    rw [((after n).between.ended done).1, List.append_nil] at split
    refine ⟨?_, split, (after n).output⟩
    rw [outcome_next, if_pos done]

end Scan

/-! ## A bound function that echoes -/

def echoFunction (rule : Int) : Function :=
  actionFunction 0 (ruleFunction rule) ((Action.statements? (Text.codeLines echoText)).getD [])

def Echoing (rule : Int) (m : Memory) : Prop :=
  m.functions = [echoFunction rule] ∧ m.scannerAttributes = []

def echoingState (rule : Int) : State Memory := { world := { memory := { functions := [echoFunction rule] } } }

def echoAction (rule : Int) (condition : String) : Exec Value :=
  (BoundAction.code (.reference (.function 0 (ruleFunction rule)))).run (callTo 2) condition

theorem usable_echoing (rule : Int) : Usable (Echoing rule) where
  plain m ready := by
    rw [Memory.Plain, ready.2]
    exact ⟨rfl, rfl⟩
  framed _ _ ready := ready

theorem runsEntry_echoAction (rule : Int) : RunsEntry (Echoing rule) ⟨rule, .code echoText⟩ (echoAction rule) := by
  obtain ⟨_, _, _, _, found⟩ := exists_statements_echoText
  refine ⟨0, 0, echoText, rfl, fun condition s ready => ?_⟩
  have loaded : s.world.memory.functions[0]? = some (echoFunction rule) := by
    rw [ready.1]
    rfl
  rw [echoAction, outcome_run_code loaded rfl rfl, runStatements, found, echoFunction, found]
  rfl

/-! ## Words and tags -/

def wordsAndTags : Grammar where
  rules := [⟨none, .text "[a-z]*".toList, .code "return 'WORD'".toList⟩,
    ⟨none, .text "<".toList, .code "yy_.begin('tag'); return 'OPEN'".toList⟩,
    ⟨some ["tag"], .text ">".toList, .code "return yy_.pop_state()".toList⟩]
  conditions := [("tag", false)]
  options := { flex := true }

def wordsAndTagsAction : Nat → String → Exec Value
  | 0, _ => return .str "WORD"
  | 1, _ => do
    let _ ← operate (callTo 1) (.begin "tag")
    return .str "OPEN"
  | 2, _ => operate (callTo 1) .popState
  | _, condition => echoAction 3 condition

theorem acts_wordsAndTags (compiled : (ofGrammar settings tokens wordsAndTags).outcome = .ok lexer) :
    Acts wordsAndTags lexer (Echoing 3) wordsAndTagsAction where
  own i own condition := by
    have cases : i = 0 ∨ i = 1 ∨ i = 2 := by
      have own : i < 3 := own
      omega
    rcases cases with rfl | rfl | rfl
    · exact moves_yield _
    · exact (moves_begin (.inr (by decide)) _).bind fun _ => moves_yield _
    · exact moves_popState _
  last := ⟨_, action_echoRule compiled rfl, runsEntry_echoAction 3⟩

theorem flex_scans_everything_wordsAndTags :
    ∃ lexer, (ofGrammar {} .none wordsAndTags).outcome = .ok lexer ∧
      (scan lexer wordsAndTagsAction (echoingState 3) "a<b>!".toList 6).world.output = "!".toList ∧
      (∀ k, (∃ v, (outcome (next (lexer.tables wordsAndTagsAction))
          (scan lexer wordsAndTagsAction (echoingState 3) "a<b>!".toList k)).1 = .ok v) ∧
        (scan lexer wordsAndTagsAction (echoingState 3) "a<b>!".toList k).world.reports = []) ∧
      (List.range 6).flatMap (fun k =>
        (scan lexer wordsAndTagsAction (echoingState 3) "a<b>!".toList (k + 1)).text) = "a<b>!".toList := by
  have evaluated : (ofGrammar {} .none wordsAndTags).outcome.toOption.any (fun lexer =>
      (scan lexer wordsAndTagsAction (echoingState 3) "a<b>!".toList 6).world.output = "!".toList) = true := by
    decide +kernel
  obtain ⟨lexer, compiled, output⟩ := exists_ok_of_any evaluated
  obtain ⟨quiet, ended⟩ := flex_scans_everything compiled rfl rfl (usable_echoing 3) (acts_wordsAndTags compiled)
    (s := echoingState 3) ⟨rfl, rfl⟩ "a<b>!".toList
  exact ⟨lexer, compiled, of_decide_eq_true output, quiet, (ended 6 (by decide)).2.1⟩

/-! ## The empty name -/

def unnamedInclusive : Grammar where
  rules := [⟨none, .text "x".toList, .code "self.begin('')".toList⟩,
    ⟨some [""], .text "a".toList, .code "return 'A'".toList⟩]
  conditions := [("", false)]
  options := { flex := true }

def unnamedInclusiveAction : Nat → String → Exec Value
  | 0, _ => operate (callTo 1) (.begin "")
  | 1, _ => return .str "A"
  | _, condition => echoAction 2 condition

/-- In an inclusive condition with the empty name, a character is echoed although a rule of that condition matches
it: the rules of the initial condition are tried. -/
theorem unnamed_condition_echoes :
    ∃ lexer, (ofGrammar {} .none unnamedInclusive).outcome = .ok lexer ∧
      unnamedInclusive.options.flex = true ∧ unnamedInclusive.options.backtracking = false ∧
      Acts unnamedInclusive lexer (Echoing 2) unnamedInclusiveAction ∧ unnamedInclusive.Includes "" ∧
      ∃ before after, before = scan lexer unnamedInclusiveAction (echoingState 2) "xa".toList 1 ∧
        after = scan lexer unnamedInclusiveAction (echoingState 2) "xa".toList 2 ∧
        before.conditions.head? = some "" ∧ before.rest = "a".toList ∧ ActiveIn unnamedInclusive "" 1 ∧
        lexer.Matches before.before before.rest 1 "a".toList ∧
        before.world.output = [] ∧ after.world.output = "a".toList := by
  have evaluated : (ofGrammar {} .none unnamedInclusive).outcome.toOption.any (fun lexer =>
      let before := scan lexer unnamedInclusiveAction (echoingState 2) "xa".toList 1
      before.conditions.head? = some "" ∧ before.rest = "a".toList ∧
        (lexer.rules[1]?.bind fun rule => (rule.pattern.matchLength before.before before.rest).map before.rest.take) =
          some "a".toList ∧
        before.world.output = [] ∧
        (scan lexer unnamedInclusiveAction (echoingState 2) "xa".toList 2).world.output = "a".toList) = true := by
    decide +kernel
  obtain ⟨lexer, compiled, shown⟩ := exists_ok_of_any evaluated
  obtain ⟨current, left, found, silent, echoed⟩ := of_decide_eq_true shown
  obtain ⟨rule, atRule, found⟩ := Option.bind_eq_some_iff.1 found
  refine ⟨lexer, compiled, rfl, rfl, ?acts, .inr (by decide), _, _, rfl, rfl, current, left,
    ⟨_, rfl, .inr (by decide)⟩, ⟨rule, atRule, found⟩, silent, echoed⟩
  refine ⟨fun i own condition => ?_, _, action_echoRule compiled rfl, runsEntry_echoAction 2⟩
  have cases : i = 0 ∨ i = 1 := by
    have own : i < 2 := own
    omega
  rcases cases with rfl | rfl
  · exact moves_begin (.inl rfl) _
  · exact moves_yield _

end LexGen.CompiledLexer
