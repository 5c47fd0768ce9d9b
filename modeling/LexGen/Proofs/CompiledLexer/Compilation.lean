import LexGen.CompiledLexer
import LexGen.Proofs.Outcome
import LexGen.Proofs.StartConditions.Membership

/-!
# Compiled tables

What is known of a lexer that has been compiled. Its tables come from four stages that only share the order of
the rules.

* `ofGrammar_stages`: the stages that a compiled lexer has gone through.
* `wellFormed_of_ofGrammar`: rules, actions and start conditions fit together.
-/

namespace LexGen.CompiledLexer

/-! ## Assembled tables -/

theorem of_checkPositions {position : Nat} {rules : List CompiledRule} {actions : List ActionEntry}
    (h : checkPositions position rules actions = .ok ()) {i : Nat} {rule : CompiledRule} {action : ActionEntry}
    (atRule : rules[i]? = some rule) (atAction : actions[i]? = some action) :
    rule.index = ((position + i : Nat) : Int) ∧ action.rule = ((position + i : Nat) : Int) := by
  induction rules generalizing position actions i with
  | nil => cases atRule
  | cons first rules ih =>
    cases actions with
    | nil => cases atAction
    | cons entry actions =>
      obtain ⟨_, here, after⟩ := ok_of_bind h
      cases i with
      | zero =>
        obtain rfl := Option.some.inj atRule
        obtain rfl := Option.some.inj atAction
        unfold checkPosition at here
        split at here
        · rename_i agree
          exact ⟨agree.1.trans agree.2, agree.2⟩
        · cases here
      | succ i =>
        rw [show position + (i + 1) = position + 1 + i by omega]
        exact ih after atRule atAction

theorem of_assemble {rules : List CompiledRule} {conditions : List ConditionEntry} {actions : List ActionEntry}
    {options : Options} {actionInclude moduleInclude : Value} {lexer : CompiledLexer}
    (h : assemble rules conditions actions options actionInclude moduleInclude = .ok lexer) :
    rules.length = actions.length ∧ checkPositions 0 rules actions = .ok () ∧
      ∃ dispatch, Action.dispatch actions = .ok dispatch ∧
        lexer = ⟨rules, conditions, actions, dispatch, options, actionInclude, moduleInclude⟩ := by
  unfold assemble at h
  split at h
  · cases h
  · rename_i same
    obtain ⟨_, positions, h⟩ := ok_of_bind h
    obtain ⟨_, -, h⟩ := ok_of_bind h
    obtain ⟨dispatch, dispatched, h⟩ := ok_of_bind h
    exact ⟨not_not.1 same, positions, dispatch, dispatched, (Except.ok.inj h).symm⟩

/-! ## Stages -/

section Stages

variable {settings : Settings} {tokens : Value} {grammar : Grammar} {lexer : CompiledLexer}

theorem completed_macros (grammar : Grammar) : (completed grammar).macros = grammar.macros := by
  unfold completed
  split <;> rfl

theorem completed_conditions (grammar : Grammar) : (completed grammar).conditions = grammar.conditions := by
  unfold completed
  split <;> rfl

theorem completed_options (grammar : Grammar) : (completed grammar).options = grammar.options := by
  unfold completed
  split <;> rfl

theorem of_mem_completed {rule : Rule} (mem : rule ∈ (completed grammar).rules) : rule ∈ grammar.rules ∨ rule = echoRule := by
  unfold completed at mem
  split at mem
  · exact (List.mem_append.1 mem).imp_right List.mem_singleton.1
  · exact .inl mem

theorem length_completed_le (grammar : Grammar) : (completed grammar).rules.length ≤ grammar.rules.length + 1 := by
  unfold completed
  split
  · exact Nat.le_of_eq List.length_append
  · exact Nat.le_succ _

theorem code_completed (code : ∀ rule ∈ grammar.rules, ∃ body, rule.action = .code body) :
    ∀ rule ∈ (completed grammar).rules, ∃ body, rule.action = .code body := by
  intro rule mem
  obtain own | rfl := of_mem_completed mem
  · exact code rule own
  · exact ⟨_, rfl⟩

theorem length_of_compileRules {macros : Macros} {caseInsensitive : Bool} {rules : List Rule}
    {compiled : List CompiledRule} (h : MayReturn (compileRules settings macros caseInsensitive rules) compiled) :
    compiled.length = rules.length := by
  rw [← h.of_mapM.length_eq, List.length_zipIdx]

theorem ofGrammar_stages (compiled : (ofGrammar settings tokens grammar).outcome = .ok lexer) :
    ∃ macros rules conditions actions,
      MayReturn (compileRules settings macros grammar.options.caseInsensitive (completed grammar).rules) rules ∧
      StartConditions.resolve grammar.conditions (completed grammar).rules = .ok conditions ∧
      MayReturn (Action.build tokens (completed grammar).rules) actions ∧
      assemble rules (conditions.map StartCondition.entry) actions grammar.options (completed grammar).actionInclude
        (completed grammar).moduleInclude = .ok lexer := by
  have returned : MayReturn (ofGrammar settings tokens grammar) lexer := ⟨[], compiled⟩
  obtain ⟨_, -, returned⟩ := returned.of_bind
  obtain ⟨macros, -, returned⟩ := returned.of_bind
  obtain ⟨rules, rulesMade, returned⟩ := returned.of_bind
  obtain ⟨conditions, resolved, returned⟩ := returned.of_bind
  obtain ⟨actions, actionsMade, returned⟩ := returned.of_bind
  obtain ⟨_, -, returned⟩ := returned.of_bind
  rw [completed_options] at rulesMade returned
  rw [← completed_conditions grammar]
  exact ⟨macros, rules, conditions, actions, rulesMade, resolved.of_lift, actionsMade, returned.of_lift⟩

/-! ## Well-formed tables -/

/-- Tables that fit together: rules and actions stand at their positions, scanning can begin, and start
conditions refer to existing rules, in order. -/
structure WellFormed (lexer : CompiledLexer) : Prop where
  parallel : lexer.rules.length = lexer.actions.length
  placedRules : ∀ (i : Nat) rule, lexer.rules[i]? = some rule → rule.index = (i : Int)
  placedActions : ∀ (i : Nat) action, lexer.actions[i]? = some action → action.rule = (i : Int)
  initial : ∃ condition ∈ lexer.conditions,
    condition.name = .str initialCondition ∧ condition.inclusive = true
  ascending : ∀ condition ∈ lexer.conditions, ∃ positions : List Nat,
    condition.rules = positions.map (fun (i : Nat) => .int i) ∧ positions.Pairwise (· < ·) ∧
      ∀ i ∈ positions, i < lexer.rules.length

theorem conditions_of_ofGrammar (compiled : (ofGrammar settings tokens grammar).outcome = .ok lexer) :
    lexer.conditions = (StartConditions.prepare grammar.conditions).map fun (name, inclusive) =>
      ⟨.str name, inclusive, (StartConditions.members (StartConditions.prepare grammar.conditions)
        (completed grammar).rules name).map fun (i : Nat) => .int i⟩ := by
  obtain ⟨macros, rules, conditions, actions, -, resolved, -, assembled⟩ := ofGrammar_stages compiled
  obtain ⟨-, -, dispatch, -, rfl⟩ := of_assemble assembled
  rw [StartConditions.resolve_eq resolved, List.map_map]
  rfl

theorem rules_length_of_ofGrammar (compiled : (ofGrammar settings tokens grammar).outcome = .ok lexer) :
    lexer.rules.length = (completed grammar).rules.length := by
  obtain ⟨macros, rules, conditions, actions, made, -, -, assembled⟩ := ofGrammar_stages compiled
  obtain ⟨-, -, dispatch, -, rfl⟩ := of_assemble assembled
  exact length_of_compileRules made

theorem options_of_ofGrammar (compiled : (ofGrammar settings tokens grammar).outcome = .ok lexer) :
    lexer.options = grammar.options := by
  obtain ⟨macros, rules, conditions, actions, -, -, -, assembled⟩ := ofGrammar_stages compiled
  obtain ⟨-, -, dispatch, -, rfl⟩ := of_assemble assembled
  rfl

theorem includes_of_ofGrammar (compiled : (ofGrammar settings tokens grammar).outcome = .ok lexer) :
    lexer.actionInclude = grammar.actionInclude ∧ lexer.moduleInclude = grammar.moduleInclude := by
  obtain ⟨macros, rules, conditions, actions, -, -, -, assembled⟩ := ofGrammar_stages compiled
  obtain ⟨-, -, dispatch, -, rfl⟩ := of_assemble assembled
  unfold completed
  split <;> exact ⟨rfl, rfl⟩

theorem wellFormed_of_ofGrammar (compiled : (ofGrammar settings tokens grammar).outcome = .ok lexer) :
    lexer.WellFormed := by
  have conditions := conditions_of_ofGrammar compiled
  have count := rules_length_of_ofGrammar compiled
  obtain ⟨macros, rules, resolved, actions, -, -, -, assembled⟩ := ofGrammar_stages compiled
  obtain ⟨parallel, positions, dispatch, -, made⟩ := of_assemble assembled
  have rulesMade : lexer.rules = rules := by rw [made]
  have actionsMade : lexer.actions = actions := by rw [made]
  rw [← rulesMade, ← actionsMade] at parallel positions
  refine { parallel, placedRules := ?_, placedActions := ?_, initial := ?_, ascending := ?_ }
  · intro i rule atRule
    have inRange := (List.getElem?_eq_some_iff.1 atRule).1
    have atAction := List.getElem?_eq_getElem (parallel ▸ inRange)
    simpa using (of_checkPositions positions atRule atAction).1
  · intro i action atAction
    have inRange := (List.getElem?_eq_some_iff.1 atAction).1
    have atRule := List.getElem?_eq_getElem (parallel.symm ▸ inRange)
    simpa using (of_checkPositions positions atRule atAction).2
  · have initial : (initialCondition, true) ∈ StartConditions.prepare grammar.conditions :=
      (StartConditions.mem_prepare_inclusive grammar _).2 (.inl rfl)
    exact ⟨_, conditions ▸ List.mem_map_of_mem initial, rfl, rfl⟩
  · intro condition mem
    rw [conditions] at mem
    obtain ⟨entry, -, rfl⟩ := List.mem_map.1 mem
    refine ⟨_, rfl, StartConditions.pairwise_members _ _ _, fun i member => ?_⟩
    rw [count]
    exact StartConditions.lt_of_mem_members member

/-! ## Compiled rules -/

theorem text_of_compile {text : Text} {flags : PatternFlags} {pattern : Pattern}
    (h : Pattern.compile text flags = .ok pattern) : pattern.text = text := by
  unfold Pattern.compile at h
  obtain ⟨⟨root, whole⟩, -, h⟩ := ok_of_bind h
  dsimp only at h
  split at h
  · cases h
  · split at h
    · cases h
    · rw [← Except.ok.inj h]

theorem compile_of_ofText {text : String} {flags : PatternFlags} {pattern : Pattern}
    (h : Pattern.ofText text flags = .ok pattern) : Pattern.compile text.toList flags = .ok pattern := by
  unfold Pattern.ofText at h
  split at h
  · rename_i compiled
    rw [compiled, Except.ok.inj h]
  all_goals cases h

theorem compile_of_ofRule {text : Text} {rule : Int} {caseInsensitive : Bool} {pattern : Pattern}
    (h : Pattern.ofRule text rule caseInsensitive = .ok pattern) :
    Pattern.compile (Pattern.grouped text) (if caseInsensitive then PatternFlags.ignoreCase else 0) = .ok pattern := by
  unfold Pattern.ofRule at h
  dsimp only at h
  split at h
  · rename_i compiled
    rw [compiled, Except.ok.inj h]
  · cases h

/-- A compiled rule has its source as a text and its pattern from that of the rule, with the flags of a compiled
pattern or else those that the options ask for. -/
theorem of_compileRule {macros : Macros} {caseInsensitive : Bool} {index : Nat} {rule : Rule}
    {compiled : CompiledRule}
    (h : MayReturn (CompiledRule.ofRule settings macros caseInsensitive index rule) compiled) :
    (∃ s, compiled.source = .str s) ∧ ∃ flags,
      Pattern.compile compiled.pattern.text flags = .ok compiled.pattern ∧
        ((∃ text, rule.pattern = .compiled text flags) ∨
          flags = if caseInsensitive then PatternFlags.ignoreCase else 0) := by
  unfold CompiledRule.ofRule at h
  split at h
  · rename_i text flags same
    obtain ⟨pattern, made, h⟩ := h.of_bind
    rw [← h.of_pure]
    have compiled := compile_of_ofText made.of_lift
    exact ⟨⟨text, rfl⟩, flags, by rw [text_of_compile compiled]; exact compiled, .inl ⟨text, same⟩⟩
  · obtain ⟨_, -, h⟩ := h.of_bind
    obtain ⟨pattern, made, h⟩ := h.of_bind
    rw [← h.of_pure]
    have compiled := compile_of_ofRule made.of_lift
    exact ⟨⟨_, rfl⟩, _, by rw [text_of_compile compiled]; exact compiled, .inr rfl⟩
  · exact (not_mayReturn_throw h).elim

theorem rules_of_ofGrammar (compiled : (ofGrammar settings tokens grammar).outcome = .ok lexer) :
    ∀ rule ∈ lexer.rules, (∃ s, rule.source = .str s) ∧ ∃ flags,
      Pattern.compile rule.pattern.text flags = .ok rule.pattern ∧
        ((∃ source ∈ (completed grammar).rules, ∃ text, source.pattern = .compiled text flags) ∨
          flags = if grammar.options.caseInsensitive then PatternFlags.ignoreCase else 0) := by
  obtain ⟨macros, rules, conditions, actions, made, -, -, assembled⟩ := ofGrammar_stages compiled
  obtain ⟨-, -, dispatch, -, rfl⟩ := of_assemble assembled
  intro rule mem
  obtain ⟨⟨source, index⟩, sourceMem, returned⟩ := exists_of_mem_forall₂ made.of_mapM mem
  obtain ⟨text, flags, compiled, given⟩ := of_compileRule returned
  refine ⟨text, flags, compiled, given.imp_left fun given => ⟨source, ?_, given⟩⟩
  exact List.fst_mem_of_mem_zipIdx sourceMem

/-! ## Compiled actions -/

theorem code_of_codeEntry {rule : Nat} {action : Text} {entry : ActionEntry}
    (h : Action.codeEntry tokens rule action = .ok entry) : ∃ body, entry.content = .code body := by
  obtain ⟨body, -, h⟩ := ok_of_bind h
  split at h
  · cases h
  · rw [← Except.ok.inj h]
    exact ⟨body, rfl⟩

theorem entries_of_build {rules : List Rule} {actions : List ActionEntry}
    (built : MayReturn (Action.build tokens rules) actions) :
    List.Forall₂ (fun source entry => Action.entryOf tokens source.2 source.1.action = .ok entry)
      rules.zipIdx actions := by
  obtain ⟨entries, each, built⟩ := built.of_bind
  obtain ⟨_, -, built⟩ := built.of_bind
  obtain rfl := built.of_pure
  exact each.of_mapM.imp fun _ _ returned => returned.of_lift

theorem code_of_build {rules : List Rule} {actions : List ActionEntry}
    (built : MayReturn (Action.build tokens rules) actions)
    (code : ∀ rule ∈ rules, ∃ body, rule.action = .code body) :
    ∀ action ∈ actions, ∃ body, action.content = .code body := by
  intro action mem
  obtain ⟨⟨rule, index⟩, ruleMem, entry⟩ := exists_of_mem_forall₂ (entries_of_build built) mem
  obtain ⟨body, same⟩ := code rule (List.fst_mem_of_mem_zipIdx ruleMem)
  rw [same] at entry
  exact code_of_codeEntry entry

theorem code_of_ofGrammar (compiled : (ofGrammar settings tokens grammar).outcome = .ok lexer)
    (code : ∀ rule ∈ (completed grammar).rules, ∃ body, rule.action = .code body) :
    ∀ action ∈ lexer.actions, ∃ body, action.content = .code body := by
  obtain ⟨macros, rules, conditions, actions, -, -, made, assembled⟩ := ofGrammar_stages compiled
  obtain ⟨-, -, dispatch, -, rfl⟩ := of_assemble assembled
  exact code_of_build made code

/-! ## Sources -/

/-- A lexer that is compiled from a source is that of the grammar that the source is read as. -/
theorem ofGrammar_of_ofSource {parser : Option (Text → Except Error Value)} {source : Value}
    (compiled : (ofSource settings parser tokens source).outcome = .ok lexer) :
    ∃ grammar, Grammar.ofSource parser source = .ok grammar ∧
      (ofGrammar settings tokens grammar).outcome = .ok lexer := by
  unfold Journaled.outcome Journaled.result ofSource at compiled
  rw [run_bind] at compiled
  split at compiled
  · rename_i grammar between read
    obtain ⟨found, rfl⟩ := Prod.mk.inj read
    exact ⟨grammar, found, compiled⟩
  · cases compiled

end Stages

end LexGen.CompiledLexer
