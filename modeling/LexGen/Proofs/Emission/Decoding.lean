import LexGen.Program.Loading
import LexGen.Proofs.Archive.Canonical
import LexGen.Proofs.Emission.Literals
import LexGen.Proofs.Pattern.Recompiling

/-!
# Decoding emitted tables

The tables that are filled into a module are evaluated to what they were made from: the patterns of the rules, the start
conditions and the options.

* `evaluated_of_shown`: a text that is read as a value wherever a value may stand has this value by itself.
* `evaluated_rulesText`: the tuple of patterns, of which each one is compiled again.
* `tables_decode`: the tables of a compiled lexer.
* `unknown_flag_lost`: the flags of a pattern that are not known are not in the table.

The actions of a lexer are emitted as the cases of one function. There, and where text is put around them before they
are bound, an action can come to mean something else than by itself.

* `shared_name_differs`: a name that one action binds is hidden from the others.
* `accepted_action_fails_later`: an action that can be read need not make sense where it is put.
* `literal_of_two_lines_differs`: a literal of several lines is indented.
* `assigned_parameter_differs`: a callable changes the scanner only where its statements have been emitted.
-/

namespace LexGen.Emission

open Code Program

/-! ## Texts on their own -/

/-- The value of the expression that a text consists of, where `re` is the module of patterns. -/
def evaluated (text : Text) : Except Error Value :=
  match parse? text with
  | some [.expr e] =>
    (Scanner.outcome (evaluate makeCall { globals := 0, frame := 0 } e)
      { world := { memory := { frames := [[(patternModule, .reference (.builtin patternModule))]] } } }).1
  | _ => .error (.fault .malformedCode)

theorem tokens?_of_shown {P : List Token → Prop} {room : Nat} {text : Text} (shown : Shown P room text)
    (fits : room ≤ mostBrackets) : ∃ tokens ends, P tokens ∧ tokens.length ≤ text.length ∧
      tokens? text = some (tokens ++ closingTokens [.codeEnd] ends) := by
  have noNull : '\x00' ∉ text := fun mem => shown.clean _ mem (by simp)
  have noReturn : '\r' ∉ text := fun mem => shown.clean _ mem (by simp)
  obtain ⟨tokens, ends, rounds, holds, shorter, enough, read⟩ :=
    shown.cuts [] ['\n'] (by simpa using fits) (closed_cons (by simp [closers]) []) ⟨1, 0⟩
  simp only [List.length_append, List.length_singleton] at shorter enough
  obtain ⟨fuel, long⟩ : ∃ fuel, 2 * (text ++ ['\n']).length + 2 = fuel + 3 + rounds + 1 :=
    ⟨2 * (text ++ ['\n']).length + 2 - 4 - rounds, by simp; omega⟩
  have cut := read _ _ (readTokens_close fuel ends)
  refine ⟨tokens, ends, holds, by omega, ?_⟩
  rw [tokens?_eq noNull noReturn, withLastFeed, if_neg shown.inLine, long]
  obtain ⟨c, others, same, visible⟩ := shown.opens
  rw [same, List.cons_append] at cut ⊢
  have start := indentation_visible [] visible (c :: (others ++ ['\n'])).length 0 0 (others ++ ['\n']) ⟨1, 0⟩
  have unmarked : c ≠ '#' ∧ c ≠ '\n' := by
    constructor <;>
    · rintro rfl
      cases visible
  rw [readTokens, start, Option.bind_eq_bind, Option.bind_some]
  simp [unmarked, indentTokens, cut]

theorem evaluated_of_shown {room : Nat} {text : Text} {v : Value} (shown : ShownValue room text v)
    (fits : room ≤ mostBrackets) : evaluated text = .ok v := by
  obtain ⟨tokens, ends, ⟨x, value, taken⟩, shorter, cut⟩ := tokens?_of_shown shown fits
  have parsed : parse? text = some [.expr x] := by
    have takes := taken (text.length + 2) (by omega)
    obtain ⟨t, others, rfl, begins⟩ := takes.begins
    have statements := Code.Level.statementsOfDepth_run_value ((t :: others ++ closingTokens [.codeEnd] ends).length + 1)
      takes
      (show (⟨.lineEnd, "", ends, ends.line⟩ : Token).kind = .lineEnd from rfl) [⟨.codeEnd, "", ⟨ends.line + 1, 0⟩, ends.line + 1⟩]
    have whole : ((Code.Level.ofDepth (text.length + 2)).module
        ((t :: others ++ closingTokens [.codeEnd] ends).length + 2)).run (t :: others ++ closingTokens [.codeEnd] ends) =
          some ([.expr x], []) := Code.Level.module_run_one begins.inside (by rfl) statements
    rw [parse?, cut, Option.bind_eq_bind, Option.bind_some]
    dsimp only
    rw [whole]
    rfl
  rw [evaluated, parsed]
  exact congrArg Prod.fst value

theorem evaluated_display {room : Nat} {v : Value} (literal : Literal room v) (fits : room ≤ mostBrackets) :
    evaluated v.display.toList = .ok v :=
  evaluated_of_shown literal.shown_display fits

theorem evaluated_laidOut {room : Nat} {v : Value} (literal : Literal room v) (fits : room ≤ mostBrackets)
    (column reserved : Nat) : evaluated (v.laidOut column reserved) = .ok v :=
  evaluated_of_shown (literal.shown_laidOut column reserved) fits

/-! ## Patterns -/

theorem ofText_of_recompiles {pattern : Pattern} (again : Pattern.Recompiles pattern) :
    Pattern.ofText (String.ofList pattern.text) pattern.shownFlags = .ok pattern := by
  rw [Pattern.ofText, String.toList_ofList, again]

theorem compilePattern_plain {pattern : Pattern} (again : Pattern.Recompiles pattern) (plain : pattern.shownFlags = 0) :
    Scanner.outcome (compilePattern [.str (String.ofList pattern.text)] []) tableState = (.ok pattern.toValue, tableState) := by
  have compiled := ofText_of_recompiles again
  rw [plain] at compiled
  change Scanner.outcome (do return (← liftM (Pattern.ofText (String.ofList pattern.text) 0)).toValue) tableState = _
  rw [compiled]
  rfl

theorem compilePattern_flags {pattern : Pattern} (again : Pattern.Recompiles pattern) :
    Scanner.outcome (compilePattern [.str (String.ofList pattern.text), .int pattern.shownFlags] []) tableState =
      (.ok pattern.toValue, tableState) := by
  have compiled := ofText_of_recompiles again
  change Scanner.outcome (do
    return (← liftM (Pattern.ofText (String.ofList pattern.text) (PatternFlags.ofInt pattern.shownFlags))).toValue)
    tableState = _
  rw [Pattern.ofInt_shownFlags, compiled]
  rfl

theorem shown_render {rule : CompiledRule} (again : Pattern.Recompiles rule.pattern) :
    ShownValue 1 rule.render rule.pattern.toValue := by
  have literal : ShownValue 0 (Text.quoted rule.pattern.text) (.str (String.ofList rule.pattern.text)) :=
    shown_literal 0 (literalToken_quoted rule.pattern.text)
  have alone : RowText (ShownValue 0) (Text.quoted rule.pattern.text) [.str (String.ofList rule.pattern.text)] := by
    have row := RowText.cons literal .nil
    rwa [List.append_nil] at row
  have two {flags : Text} (shown : ShownValue 0 flags (.int rule.pattern.shownFlags)) :
      RowText (ShownValue 0) (Text.quoted rule.pattern.text ++ ',' :: ([' '] ++ flags))
        [.str (String.ofList rule.pattern.text), .int rule.pattern.shownFlags] := by
    have row := RowText.cons shown .nil
    rw [List.append_nil] at row
    exact .before literal isGap_space row
  have short : rule.pattern.shownFlags < Nat.pow 10 Text.longestInteger :=
    Nat.lt_of_lt_of_le (Nat.lt_of_le_of_lt Nat.and_le_right (by decide)) (Archive.thousand_le_pow (by decide))
  unfold CompiledRule.render
  dsimp only
  split
  · rename_i single
    have flags : ShownValue 0 ['r', 'e', '.', 'I'] (.int rule.pattern.shownFlags) := by
      rw [single]
      exact shown_ignoreCase
    have call := shown_compile (two flags) (compilePattern_flags again)
    simpa using call
  · split
    · rename_i plain
      have call := shown_compile alone (compilePattern_plain again plain)
      simpa using call
    · have call := shown_compile (two (shown_number 0 (numberToken_decimal short))) (compilePattern_flags again)
      simpa using call

/-! ## The tuple of patterns -/

theorem rowText_render {rule : CompiledRule} {rules : List CompiledRule}
    (again : ∀ other ∈ rule :: rules, Pattern.Recompiles other.pattern) :
    ∃ row, RowText (ShownValue 1) row ((rule :: rules).map (·.pattern.toValue)) ∧
      (rule :: rules).flatMap (fun other => Text.spaces 8 ++ other.render ++ ",\n".toList) =
        Text.spaces 8 ++ (row ++ [',', '\n']) := by
  induction rules generalizing rule with
  | nil =>
    refine ⟨rule.render ++ [], .cons (shown_render (again rule List.mem_cons_self)) .nil, ?_⟩
    simp
  | cons next rules ih =>
    obtain ⟨row, shown, same⟩ := ih fun other mem => again other (List.mem_cons_of_mem _ mem)
    have gap : IsGap ('\n' :: Text.spaces 8) := .inr ⟨8, rfl⟩
    refine ⟨_, .before (shown_render (again rule List.mem_cons_self)) gap shown, ?_⟩
    rw [List.flatMap_cons, same]
    simp

theorem evaluated_rulesText {rules : List CompiledRule} (again : ∀ rule ∈ rules, Pattern.Recompiles rule.pattern) :
    evaluated (rulesText rules) = .ok (.tuple (rules.map (·.pattern.toValue))) := by
  cases rules with
  | nil => exact evaluated_of_shown (shown_unit : ShownValue (0 + 1) _ _) (by decide)
  | cons rule rules =>
    obtain ⟨row, shown, same⟩ := rowText_render again
    have tuple := shown_tupleComma shown (by simp) (.inr (.inr ⟨8, rfl⟩)) (.inr (.inr ⟨4, rfl⟩))
    have written : rulesText (rule :: rules) =
        '(' :: (('\n' :: List.replicate 8 ' ') ++ (row ++ ',' :: ('\n' :: List.replicate 4 ' ')) ++ [')']) := by
      rw [rulesText, if_neg (by simp), same]
      simp [Text.spaces]
    rw [written]
    exact evaluated_of_shown tuple (by decide)

theorem patternsIn_patterns {rules : List CompiledRule} (again : ∀ rule ∈ rules, Pattern.Recompiles rule.pattern) :
    patternsIn (.tuple (rules.map (·.pattern.toValue))) = .ok (rules.map (·.pattern)) := by
  change (rules.map (·.pattern.toValue)).mapM _ = _
  rw [List.mapM_map]
  exact mapM_eq_pure fun rule mem => ofText_of_recompiles (again rule mem)

/-! ## The other tables -/

theorem allHashable_named {entries : List (Value × Value)} (named : ∀ entry ∈ entries, ∃ s, entry.1 = .str s) :
    ∀ v ∈ entries.map (·.1), v.hashable = true := by
  refine List.forall_mem_map.2 fun entry mem => ?_
  obtain ⟨s, same⟩ := named entry mem
  rw [same]
  rfl

theorem literal_named {depth : Nat} {entries : List (Value × Value)} (named : ∀ entry ∈ entries, ∃ s, entry.1 = .str s)
    (distinct : (entries.map (·.1)).Nodup) (values : ∀ entry ∈ entries, Literal depth entry.2) :
    Literal (depth + 1) (.dict entries) := by
  refine .dict (fun entry mem => ?_) values (Value.allHashable_iff.2 (allHashable_named named))
    (Value.dictOf_eq_self named distinct)
  obtain ⟨s, same⟩ := named entry mem
  exact same ▸ .str s

theorem literal_conditionTable {lexer : CompiledLexer} (named : ∀ condition ∈ lexer.conditions, ∃ s, condition.name = .str s)
    (names : (lexer.conditions.map (·.name)).Nodup) (wellFormed : lexer.WellFormed)
    (few : lexer.rules.length ≤ Nat.pow 10 Text.longestInteger) : Literal 3 lexer.conditionTable := by
  refine literal_named ?_ ?_ ?_
  · rintro _ mem
    obtain ⟨condition, conditionMem, rfl⟩ := List.mem_map.1 mem
    exact named condition conditionMem
  · rw [List.map_map]
    exact names
  · rintro _ mem
    obtain ⟨condition, conditionMem, rfl⟩ := List.mem_map.1 mem
    obtain ⟨positions, rules, -, inRange⟩ := wellFormed.ascending condition conditionMem
    refine literal_named (by simp) (by simp) ?_
    simp only [List.forall_mem_cons, rules]
    refine ⟨.list (List.forall_mem_map.2 fun i mem => .int ?_), .bool _, by simp⟩
    rw [Int.natAbs_natCast]
    exact Nat.lt_of_lt_of_le (inRange i mem) few

theorem literal_toEntries {options : Options} (regular : options.Regular) {depth : Nat}
    (extra : Literal depth (.dict options.extra)) : Literal depth (.dict options.toEntries) := by
  cases extra with
  | @dict depth _ keys values hashable distinct =>
    have known (entry) (mem : entry ∈ options.knownEntries) : ∃ name, entry.1 = .str name := by
      obtain ⟨name, -, same⟩ := Options.isKnown_iff.1 (Options.isKnown_of_mem_knownEntries mem)
      exact ⟨name, same⟩
    have names : (options.knownEntries.map (·.1)).Nodup :=
      (Options.knownEntries_sublist options).nodup (by simp [Options.knownNames])
    rw [Options.toEntries_eq]
    refine .dict (List.forall_mem_append.2 ⟨keys, fun entry mem => ?_⟩)
      (List.forall_mem_append.2 ⟨values, fun entry mem => ?_⟩) ?_
      (Value.dictOf_append known names (fun entry mem other inside same => ?_) distinct)
    · obtain ⟨name, same⟩ := known entry mem
      exact same ▸ .str name
    · rcases Options.scalar_of_mem_knownEntries mem with same | ⟨s, same⟩
      · exact same ▸ .bool true
      · exact same ▸ .str s
    · rw [List.map_append]
      exact Value.allHashable_iff.2 (List.forall_mem_append.2 ⟨Value.allHashable_iff.1 hashable, allHashable_named known⟩)
    · have unknown := regular.isKnown_eq_false inside
      rw [same, Options.isKnown_of_mem_knownEntries mem] at unknown
      cases unknown

/-! ## Emitted tables -/

/-- A grammar whose tables have literals: patterns that come compiled were given known flags, the start conditions are a
map by names, and the options that are not known are literals. The positions of the rules are integers that are converted,
and there is code before the actions, or an empty text. -/
structure Decodable (grammar : Grammar) : Prop where
  known : ∀ rule ∈ grammar.rules, ∀ text flags, rule.pattern = .compiled text flags → flags < Pattern.knownFlags
  names : (grammar.conditions.map (·.1)).Nodup
  few : grammar.rules.length < Nat.pow 10 Text.longestInteger
  extra : Literal mostBrackets (.dict grammar.options.extra)
  block : ∃ s, grammar.actionInclude = .str s

section Compiled

variable {settings : Settings} {tokens : Value} {grammar : Grammar} {lexer : CompiledLexer}

theorem literal_conditionTable_of_ofGrammar
    (compiled : (CompiledLexer.ofGrammar settings tokens grammar).outcome = .ok lexer) (decodable : Decodable grammar) :
    Literal 3 lexer.conditionTable := by
  refine literal_conditionTable (fun condition mem => ?_) (Archive.distinct_conditions compiled decodable.names)
    (CompiledLexer.wellFormed_of_ofGrammar compiled) ?_
  · rw [CompiledLexer.conditions_of_ofGrammar compiled] at mem
    obtain ⟨entry, -, rfl⟩ := List.mem_map.1 mem
    exact ⟨_, rfl⟩
  · rw [CompiledLexer.rules_length_of_ofGrammar compiled]
    exact Nat.le_trans (CompiledLexer.length_completed_le grammar) decodable.few

end Compiled

/-- The texts that are filled in for the patterns, the start conditions and the options of a compiled lexer are evaluated
to the same patterns in the same order, to the table of the start conditions and to the options. -/
theorem tables_decode {settings : Settings} {parser : Option (Text → Except Error Value)} {tokens source : Value}
    {lexer : CompiledLexer} (compiled : (CompiledLexer.ofSource settings parser tokens source).outcome = .ok lexer)
    (decodable : ∀ grammar, Grammar.ofSource parser source = .ok grammar → Decodable grammar) :
    ∃ filled rules conditions options, values lexer = .ok filled ∧ filled.lookup .rules = some rules ∧
      filled.lookup .conditions = some conditions ∧ filled.lookup .options = some options ∧
      (evaluated rules >>= patternsIn) = .ok (lexer.rules.map (·.pattern)) ∧
      evaluated conditions = .ok lexer.conditionTable ∧ evaluated options = .ok (.dict lexer.options.toEntries) := by
  obtain ⟨grammar, read, compiled⟩ := CompiledLexer.ofGrammar_of_ofSource compiled
  replace decodable := decodable grammar read
  have again := Pattern.recompiles_of_ofGrammar compiled decodable.known
  have table := literal_conditionTable_of_ofGrammar compiled decodable
  have options := literal_toEntries (Grammar.regular_of_ofSource read) decodable.extra
  rw [← CompiledLexer.options_of_ofGrammar compiled] at options
  obtain ⟨s, block⟩ := decodable.block
  rw [← (CompiledLexer.includes_of_ofGrammar compiled).1] at block
  refine ⟨_, _, _, _, by rw [values, block, Value.shown_eq options.holdsLong]; rfl, rfl, rfl, rfl, ?_, ?_, ?_⟩
  · rw [evaluated_rulesText again]
    exact patternsIn_patterns again
  · exact evaluated_laidOut table (by decide) 0 0
  · exact evaluated_display options (Nat.le_refl _)

/-- A pattern that is given flags and sets one itself, and texts with quotes, braces and marks in them. -/
def quotedTables : Value :=
  .dict [(.str "startConditions", .dict [(.str "it's", .bool true)]),
    (.str "rules", .list [.list [.list [.str "it's"], .pattern "(?s)[^'\"\\\\]+\n" PatternFlags.multiline, .str ""],
      .list [.str "\"", .str ""]]),
    (.str "options", .dict [(.str "marks", .tuple [.str "\x7b\x7bRULES\x7d\x7d", .bytes "it's", .int 3])])]

def quotedTablesGrammar : Grammar where
  rules := [⟨some ["it's"], .compiled "(?s)[^'\"\\\\]+\n" PatternFlags.multiline, .code []⟩, ⟨none, .text ['"'], .code []⟩]
  conditions := [("it's", true)]
  options := { extra := [(.str "marks", .tuple [.str "\x7b\x7bRULES\x7d\x7d", .bytes "it's", .int 3])] }

theorem decodable_quotedTablesGrammar : Decodable quotedTablesGrammar where
  known := by simp [quotedTablesGrammar, Pattern.knownFlags, PatternFlags.multiline]
  names := by simp [quotedTablesGrammar]
  few := Nat.lt_of_lt_of_le (by decide : 2 < 1000) (Archive.thousand_le_pow (by decide))
  extra := by
    change Literal 200 _
    refine literal_named (by simp [quotedTablesGrammar]) (by simp [quotedTablesGrammar]) ?_
    simp only [quotedTablesGrammar, List.forall_mem_singleton]
    refine .tuple ?_
    simp only [List.forall_mem_cons]
    refine ⟨.str _, .bytes (by simp), .int ?_, by simp⟩
    exact Nat.lt_of_lt_of_le (by decide : 3 < 1000) (Archive.thousand_le_pow (by decide))
  block := ⟨_, rfl⟩

theorem tables_decode_quotedTables :
    ∃ lexer, (CompiledLexer.ofSource {} none .none quotedTables).outcome = .ok lexer ∧
      (∀ grammar, Grammar.ofSource none quotedTables = .ok grammar → Decodable grammar) ∧
      ∃ filled rules conditions options, values lexer = .ok filled ∧ filled.lookup .rules = some rules ∧
        filled.lookup .conditions = some conditions ∧ filled.lookup .options = some options ∧
        (evaluated rules >>= patternsIn) = .ok (lexer.rules.map (·.pattern)) ∧
        evaluated conditions = .ok lexer.conditionTable ∧ evaluated options = .ok (.dict lexer.options.toEntries) := by
  have source : Grammar.ofSource none quotedTables = .ok quotedTablesGrammar := by
    with_unfolding_all rfl
  have evaluated : (CompiledLexer.ofSource {} none .none quotedTables).outcome.toOption.any (fun _ => true) = true := by
    decide +kernel
  obtain ⟨lexer, compiled, -⟩ := exists_ok_of_any evaluated
  have decodable (grammar) (read : Grammar.ofSource none quotedTables = .ok grammar) : Decodable grammar := by
    obtain rfl := Except.ok.inj (source.symm.trans read)
    exact decodable_quotedTablesGrammar
  exact ⟨lexer, compiled, decodable, tables_decode compiled decodable⟩

def unknownFlag : Value :=
  .dict [(.str "rules", .list [.list [.pattern "a" 1024, .str ""]])]

/-- The flags of the patterns of a grammar, in place and in the table that is emitted. -/
def tableFlags (grammar : Value) : Except Error (List PatternFlags × List PatternFlags) := do
  let lexer ← (CompiledLexer.ofSource {} none .none grammar).outcome
  let rebuilt ← patternsIn (← evaluated (rulesText lexer.rules))
  return (lexer.rules.map (·.pattern.flags), rebuilt.map (·.flags))

theorem unknown_flag_lost : (tableFlags unknownFlag).toOption = some ([1056], [32]) := by
  decide +kernel

end LexGen.Emission

namespace LexGen.Program

open Code Scanner

/-! ## Actions that come to mean something else -/

/-- The first token, or the name of the error, and the text that is matched then. -/
def firstTokenAndText (makeScanner : Exec Value) (source : Text) : String × Text :=
  let run : Exec Value := do
    let _ ← makeScanner
    let _ ← operate makeCall (.setInput source none)
    operate makeCall .lex
  match run.run.run { world := { memory := {} } } with
  | (.ok token, s) => (token.plain, s.text)
  | (.error e, s) => (errorName e, s.text)

def firstToken (makeScanner : Exec Value) (source : Text) : String := (firstTokenAndText makeScanner source).1

def compiled (grammar : Value) : Except Error CompiledLexer := (CompiledLexer.ofSource {} none .none grammar).outcome

def emitted (lexer : CompiledLexer) : Except Error (Exec Value) := do
  return loadModule .bare (← Emission.moduleText {} [] none .bare lexer)

/-- The first token, or the name of the error, of the scanner that is made in place and of the one that is
emitted. -/
def firstTokens (grammar : Value) (source : Text) : Except Error (String × String) := do
  let lexer ← compiled grammar
  return (firstToken (buildScanner lexer) source, firstToken (← emitted lexer) source)

/-- The first action binds a name that the second action reads from the code before the actions. -/
def sharedName : Value :=
  .dict [(.str "actionInclude", .str "kind = 'WORD'"),
    (.str "rules", .list [.list [.str "a", .str "kind = yytext"], .list [.str "b", .str "return kind"]])]

/-- A name that one action binds belongs to the function of all of them. -/
theorem shared_name_differs :
    (firstTokens sharedName ['b']).toOption = some ("WORD", "UnboundLocalError") := by
  decide +kernel

def rulesOf (rules : List (String × Value)) : Value :=
  .dict [(.str "rules", .list (rules.map fun (pattern, action) => .list [.str pattern, action]))]

/-- The grammar is compiled although its scanner cannot be made: the action leaves a loop, and there is none. -/
theorem accepted_action_fails_later :
    ((compiled (rulesOf [("a", .str "break")])).map fun lexer => firstToken (buildScanner lexer) ['a']).toOption =
      some "SyntaxError" := by
  decide +kernel

def returnedText? : List Stmt → Option Text
  | [.ret (some (.constant (.str text _)))] => some text
  | _ => none

/-- The literal stands for two lines. An action is indented before it is bound, so that it yields the second line
with spaces before it. -/
theorem literal_of_two_lines_differs :
    (parse? (Text.dedent "return '''x\ny'''".toList)).bind returnedText? = some "x\ny".toList ∧
      ((compiled (rulesOf [("a", .str "return '''x\ny'''")])).map fun lexer =>
        firstToken (buildScanner lexer) ['a']).toOption = some "x\n    y" := by
  decide +kernel

def assigning : Text := "def action(yytext):\n    yytext = 'x'\n    return 'W'".toList

def firstTokensAndTexts (grammar : Value) (source : Text) : Except Error (List (String × Text)) := do
  let lexer ← compiled grammar
  return [firstTokenAndText (buildScanner lexer) source, firstTokenAndText (← emitted lexer) source]

/-- In place the parameter is a variable of the call. In an emitted module its name stands for the matched text. -/
theorem assigned_parameter_differs :
    (do
      let action ← valueFrom "callables" assigning "action"
      firstTokensAndTexts (rulesOf [("a", action)]) ['a']).toOption = some [("W", ['a']), ("W", ['x'])] := by
  decide +kernel

end LexGen.Program
