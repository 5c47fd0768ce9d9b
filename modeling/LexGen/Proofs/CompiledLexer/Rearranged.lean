import LexGen.Proofs.CompiledLexer.Scanning
import LexGen.Proofs.Grammar.Rearranged
import LexGen.Proofs.Macros.Cycles

/-!
# Compiling in another order

Whatever the order of its macros, start conditions and options, a grammar is compiled to the same rules and
actions. Only the order of the start conditions and of the unknown options is that of the grammar.

* `assemble_again`: what has been assembled is assembled with other start conditions, if these pass the checks.
* `ofGrammar_rearranged`: the tables of a rearranged grammar.
-/

namespace LexGen.CompiledLexer

/-! ## Assembling again -/

theorem checkCondition_positions {count : Nat} {condition : ConditionEntry} {positions : List Nat}
    (rules : condition.rules = positions.map fun (i : Nat) => .int i) (inRange : ∀ i ∈ positions, i < count) :
    checkCondition count condition = .ok () := by
  have hashable : condition.rules.all Value.hashable = true := by
    rw [rules]
    simp [Value.hashable]
  have strays : (Value.distinct condition.rules).filter (fun item => (ConditionEntry.ruleAt? count item).isNone) =
      [] := by
    refine List.filter_eq_nil_iff.2 fun item mem => ?_
    have mem := Value.mem_of_mem_distinct mem
    rw [rules] at mem
    obtain ⟨i, position, rfl⟩ := List.mem_map.1 mem
    rw [ruleAt?_int (inRange i position)]
    simp
  rw [checkCondition, hashable, strays]
  rfl

theorem assemble_again {rules : List CompiledRule} {conditions others : List ConditionEntry}
    {actions : List ActionEntry} {options otherOptions : Options} {actionInclude moduleInclude : Value}
    {lexer : CompiledLexer}
    (assembled : assemble rules conditions actions options actionInclude moduleInclude = .ok lexer)
    (checked : ∀ condition ∈ others, checkCondition rules.length condition = .ok ()) :
    assemble rules others actions otherOptions actionInclude moduleInclude =
      .ok { lexer with conditions := others, options := otherOptions } := by
  obtain ⟨parallel, positions, dispatch, dispatched, rfl⟩ := of_assemble assembled
  rw [assemble, if_neg (not_not.2 parallel), positions, forM_eq_ok checked, dispatched]
  rfl

/-! ## Rules -/

section

variable {settings : Settings} {tokens : Value} {grammar other : Grammar} {lexer : CompiledLexer}

theorem check_yields {names names' : List Text} (known : ∀ name ∈ names, name ∈ names') (text : Text)
    (place : String) :
    Yields (Macros.check settings names text place) (Macros.check settings names' text place) := by
  intro _ passed
  refine Macros.returns_check place ((Macros.lenient_of_check passed).imp_right fun defined name mem => ?_)
  exact known name (defined name mem)

theorem ofRule_yields {table table' : Macros} (perm : table'.Perm table)
    (same : ∀ pattern, table'.substitute pattern = table.substitute pattern) (caseInsensitive : Bool) (index : Nat)
    (rule : Rule) :
    Yields (CompiledRule.ofRule settings table caseInsensitive index rule)
      (CompiledRule.ofRule settings table' caseInsensitive index rule) := by
  unfold CompiledRule.ofRule
  split
  · exact (Yields.lift _).bind fun _ _ => Yields.pure _
  · have known : ∀ name ∈ table.names, name ∈ table'.names := fun name => (Macros.mem_names_perm perm).2
    simp only [same]
    exact (check_yields known _ _).bind fun _ _ => (Yields.lift _).bind fun _ _ => Yields.pure _
  · exact fun _ h => absurd h not_mayReturn_throw

theorem compileRules_yields {table table' : Macros} (perm : table'.Perm table)
    (same : ∀ pattern, table'.substitute pattern = table.substitute pattern) (caseInsensitive : Bool)
    (rules : List Rule) :
    Yields (compileRules settings table caseInsensitive rules) (compileRules settings table' caseInsensitive rules) :=
  Yields.mapM fun _ _ => ofRule_yields perm same caseInsensitive _ _

theorem build_yields (tokens : Value) (rules : List Rule) :
    Yields (Action.build tokens rules) (Action.build tokens rules) :=
  (Yields.mapM fun _ _ => Yields.lift _).bind fun _ _ => Yields.bind (fun _ _ _ => rfl) fun _ _ => Yields.pure _

/-! ## Macros -/

def NamesMacros (grammar : Grammar) : Prop :=
  ∀ entry ∈ grammar.macros, ∃ name, entry.1 = .str name ∧ Macros.isName name.toList = true

theorem ofEntries_perm {entries others : List (Value × Value)} {macros : Macros} (perm : others.Perm entries)
    (read : Macros.ofEntries entries = .ok macros) :
    ∃ macros', Macros.ofEntries others = .ok macros' ∧ macros'.Perm macros := by
  obtain ⟨macros', read', perm'⟩ := List.perm_comp_forall₂ perm (forall₂_of_mapM read)
  exact ⟨macros', mapM_of_forall₂ read', perm'⟩

theorem wellNamed_ofEntries {macros : Macros} (read : Macros.ofEntries grammar.macros = .ok macros)
    (keyed : Json.Keyed grammar.macros) (named : NamesMacros grammar) : macros.WellNamed := by
  have each : List.Forall₂ (fun (entry : Value × Value) (entry' : Text × Text) =>
      entry.1 = .str (String.ofList entry'.1)) grammar.macros macros := by
    refine (forall₂_of_mapM read).imp fun entry entry' h => ?_
    split at h
    · rw [← Except.ok.inj h, String.ofList_toList]
    · cases h
  have keys : grammar.macros.map (·.1) = macros.names.map fun name => .str (String.ofList name) := by
    rw [Macros.names, List.map_map]
    exact List.forall₂_eq_eq_eq ▸ List.forall₂_map_left_iff.2 (List.forall₂_map_right_iff.2 each)
  constructor
  · exact List.Nodup.of_map (fun name => Value.str (String.ofList name)) (keys ▸ keyed.distinct)
  · intro name mem
    have key : Value.str (String.ofList name) ∈ grammar.macros.map (·.1) := keys ▸ List.mem_map_of_mem mem
    obtain ⟨entry, entryMem, same⟩ := List.mem_map.1 key
    obtain ⟨shown, key, isName⟩ := named entry entryMem
    rw [key, Value.str.injEq] at same
    rwa [same, String.toList_ofList] at isName

/-! ## Grammars -/

theorem completed_rearranged (h : grammar.Rearranged other) : (completed grammar).Rearranged (completed other) := by
  obtain ⟨extra, extraPerm, options⟩ := h.options
  have flex : other.options.flex = grammar.options.flex := by rw [options]
  unfold completed
  rw [flex]
  split
  · exact { h with rules := congrArg (· ++ [echoRule]) h.rules }
  · exact h

theorem assemble_rearranged (wellFormed : lexer.WellFormed) {rules : List CompiledRule}
    {conditions conditions' : List StartCondition} {actions : List ActionEntry} {options : Options}
    {actionInclude moduleInclude : Value} (perm : conditions'.Perm conditions)
    (assembled : assemble rules (conditions.map StartCondition.entry) actions options actionInclude moduleInclude =
      .ok lexer) (otherOptions : Options) :
    (conditions'.map StartCondition.entry).Perm lexer.conditions ∧ lexer.options = options ∧
      assemble rules (conditions'.map StartCondition.entry) actions otherOptions actionInclude moduleInclude =
        .ok { lexer with conditions := conditions'.map StartCondition.entry, options := otherOptions } := by
  obtain ⟨-, -, dispatch, -, made⟩ := of_assemble assembled
  have entries : (conditions'.map StartCondition.entry).Perm lexer.conditions := by
    rw [made]
    exact perm.map _
  refine ⟨entries, by rw [made], assemble_again assembled fun condition mem => ?_⟩
  obtain ⟨positions, shape, -, inRange⟩ := wellFormed.ascending condition (entries.mem_iff.1 mem)
  rw [made] at inRange
  exact checkCondition_positions shape inRange

/-- A rearranged grammar is compiled to the same tables, with the start conditions and the unknown options in another
order. -/
theorem ofGrammar_rearranged (compiled : (ofGrammar settings tokens grammar).outcome = .ok lexer)
    (h : grammar.Rearranged other) (named : NamesMacros grammar) :
    ∃ conditions extra, conditions.Perm lexer.conditions ∧ extra.Perm lexer.options.extra ∧
      (ofGrammar settings tokens other).outcome =
        .ok { lexer with conditions, options := { lexer.options with extra } } := by
  have given := completed_rearranged h
  have named : NamesMacros (completed grammar) := by
    rw [NamesMacros, completed_macros]
    exact named
  obtain ⟨extra, extraPerm, options⟩ := given.options
  have caseInsensitive : (completed other).options.caseInsensitive = (completed grammar).options.caseInsensitive := by
    rw [options]
  have returned : MayReturn (ofGrammar settings tokens grammar) lexer := ⟨[], compiled⟩
  obtain ⟨macros, macrosRead, returned⟩ := returned.of_bind
  obtain ⟨table, expanded, returned⟩ := returned.of_bind
  obtain ⟨rules, rulesMade, returned⟩ := returned.of_bind
  obtain ⟨conditions, resolved, returned⟩ := returned.of_bind
  obtain ⟨actions, actionsMade, returned⟩ := returned.of_bind
  obtain ⟨_, -, assembled⟩ := returned.of_bind
  -- Each stage of the other grammar yields what that of the first has yielded, in another order at most.
  have keyed := given.keyedMacros fun entry mem => (named entry mem).imp fun _ => And.left
  have well := wellNamed_ofEntries macrosRead.of_lift keyed named
  obtain ⟨macros', macrosRead', macrosPerm⟩ := ofEntries_perm given.macros macrosRead.of_lift
  obtain ⟨table', expanded', tablePerm, substitutes⟩ := Macros.expand_perm well expanded macrosPerm
  obtain ⟨conditions', resolved', conditionsPerm⟩ :=
    StartConditions.resolve_perm given.conditions given.distinct resolved.of_lift
  obtain ⟨entries, sameOptions, assembled'⟩ := assemble_rearranged (wellFormed_of_ofGrammar compiled) conditionsPerm
    assembled.of_lift (completed other).options
  have returned' : Returns (ofGrammar settings tokens other) { lexer with
      conditions := conditions'.map StartCondition.entry, options := (completed other).options } := by
    refine Returns.bind (a := macros') (fun _ => macrosRead') (expanded'.bind ?_)
    rw [given.rules, caseInsensitive, given.actionInclude, given.moduleInclude]
    refine (compileRules_yields tablePerm substitutes _ _ rules rulesMade).bind ?_
    refine Returns.bind (a := conditions') (fun _ => resolved') ?_
    refine (build_yields tokens _ actions actionsMade).bind ?_
    exact Returns.bind (a := ⟨⟩) (fun _ => rfl) fun _ => assembled'
  refine ⟨conditions'.map StartCondition.entry, extra, entries, sameOptions ▸ extraPerm, ?_⟩
  rw [sameOptions, ← options]
  exact returned' []

end

end LexGen.CompiledLexer
