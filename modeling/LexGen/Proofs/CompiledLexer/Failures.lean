import LexGen.Proofs.CompiledLexer.Rearranged
import LexGen.Proofs.Grammar.Reading
import LexGen.Proofs.Macros.Closure
import LexGen.Proofs.Pattern.Reading

/-!
# How compilation fails

A grammar whose parts have the documented types is compiled or refused with an error of the compiler, with three
exceptions: the bounds of a repetition can be too large to be told as an error of the pattern, a place in an action
is told in bytes, which do not have to make up characters, and an integer can have too many digits to be written.

* `Unguarded`: what compilation fails with apart from errors of its own.
* `compiles_or_refuses`: the errors of compilation.
-/

namespace LexGen

/-! ## Patterns -/

namespace Pattern

/-- The faults of the bounds of repetitions in a text. -/
inductive Oversized (text : Text) : Fault → Prop
  | overflow {digits : Text} (found : HasDigits text digits) (large : longestCount ≤ valueIn 10 digits) :
    Oversized text .overflow
  | badValue {digits : Text} (found : HasDigits text digits) (long : Text.longestInteger < digits.length) :
    Oversized text .badValue

theorem HasDigits.of_grouped {text digits : Text} (found : HasDigits (grouped text) digits) (nonempty : digits ≠ []) :
    HasDigits text digits := by
  obtain ⟨occurs, each⟩ := found
  have afterOther {c : Char} {rest : Text} (other : c.isDigit = false) (h : digits <:+: c :: rest) :
      digits <:+: rest := by
    refine (List.infix_cons_iff.1 h).resolve_left fun starts => ?_
    have mem : c ∈ digits := by
      have first : digits.head nonempty = c := starts.head nonempty
      exact first ▸ List.head_mem nonempty
    rw [each c mem] at other
    cases other
  rw [grouped_eq] at occurs
  have occurs := afterOther rfl (afterOther rfl (afterOther rfl occurs))
  refine ⟨(List.infix_concat_iff.1 occurs).resolve_left fun ends => ?_, each⟩
  have mem : ')' ∈ digits := by
    have last := ends.getLast nonempty
    rw [List.getLast_append_singleton] at last
    exact last ▸ List.getLast_mem nonempty
  cases each ')' mem

theorem failsWith_ofRule [CharacterNames] (text : Text) (rule : Int) (caseInsensitive : Bool) :
    FailsWith (Error.Expected (Oversized text)) (ofRule text rule caseInsensitive) := by
  have fails : FailsWith (fun failure => failure.Explained (grouped text))
      (compile (grouped text) (if caseInsensitive then PatternFlags.ignoreCase else 0)) := by
    cases caseInsensitive
    · exact failsWith_compile (show settleFlags 0 = .ok 32 from rfl) (by decide)
    · exact failsWith_compile (show settleFlags PatternFlags.ignoreCase = .ok 34 from rfl) (by decide)
  unfold ofRule
  dsimp only
  split
  · exact .ok _
  · rename_i failure failed
    refine .error ?_
    cases fails failure failed with
    | malformed message position => exact .own rfl
    | tooLarge found large =>
      refine .fault (.overflow (found.of_grouped ?_) large)
      rintro rfl
      cases large
    | badValue found long =>
      refine .fault (.badValue (found.of_grouped ?_) long)
      rintro rfl
      cases long

end Pattern

/-! ## Actions -/

namespace Action

def renamed (tokens : Value) (action : Text) : Except Error Text :=
  if tokens.truthy then substituteTokens (normalBody action) tokens else .ok (normalBody action)

theorem rewriteBody_eq (tokens : Value) (action : Text) :
    rewriteBody tokens action = renamed tokens action >>= qualify := by
  unfold rewriteBody renamed
  dsimp only
  split <;> rfl

/-- A name that is returned in a body is mapped to a value with an integer of too many digits in it. -/
def LongToken (entries : List (Value × Value)) (body : Text) : Prop :=
  ∃ literal name value, (literal, name) ∈ returnedNames (Code.looseTokens body).1 ∧
    Value.get? entries (String.ofList name) = some value ∧ value.holdsLong = true

theorem failsWith_tokenText (entries : List (Value × Value)) (name : Text) :
    FailsWith (fun e => e = .fault .badValue ∧
        ∃ value, Value.get? entries (String.ofList name) = some value ∧ value.holdsLong = true)
      (tokenText (.dict entries) name) := by
  refine FailsWith.bind (.ok (Value.get? entries (String.ofList name))) fun token found => ?_
  obtain rfl := Except.ok.inj found
  cases found : Value.get? entries (String.ofList name) with
  | none => exact .ok _
  | some value =>
    refine FailsWith.bind (fun e failed => ?_) fun _ _ => .ok _
    cases shown : value.shown with
    | ok text => rw [shown] at failed; cases failed
    | error f =>
      obtain ⟨rfl, long⟩ := failsWith_shown value f shown
      rw [shown] at failed
      exact ⟨(Except.error.inj failed).symm, value, rfl, long⟩

theorem failsWith_substituteTokens (entries : List (Value × Value)) (body : Text) :
    FailsWith (fun e => (e = .fault .unreadableCode ∨ e = .fault .malformedCode) ∨
        e = .fault .badValue ∧ LongToken entries body)
      (substituteTokens body (.dict entries)) := by
  unfold substituteTokens
  generalize same : Code.looseTokens body = cut
  obtain ⟨found, failure⟩ := cut
  dsimp only
  split
  · rename_i failure
    cases failure with
    | openEnd => exact .error (.inl (.inl rfl))
    | badIndent => exact .error (.inl (.inr rfl))
  · refine FailsWith.bind (.mapM ?_) fun _ _ => .ok _
    rintro ⟨literal, name⟩ mem
    refine ((failsWith_tokenText entries name).mono ?_).bind fun _ _ => .ok _
    rintro e ⟨rfl, value, found, long⟩
    exact .inr ⟨rfl, literal, name, value, by rwa [same], found, long⟩

def CutAt (lines : List Text) (place : Code.Place) : Prop :=
  charsIn? place.column (bodyIndent ++ lines.getD (place.line - 2) []) = none

/-- A scanner variable of a body stands at a place that is cut. -/
inductive IsCut (body : Text) : Prop
  | intro {statements : List Code.Stmt} {name : String} {place : Code.Place}
    (parsed : statements? (Text.codeLines body) = some statements) (refers : (name, place) ∈ scannerNames statements)
    (cut : CutAt (Text.codeLines body) place)

theorem exists_wide_of_charsIn? {bytes : Nat} {text : Text} (cut : charsIn? bytes text = none) :
    ∃ c ∈ text, 1 < c.utf8Size := by
  fun_induction charsIn? bytes text with
  | case1 => cases cut
  | case2 => cases cut
  | case3 bytes c text fits ih =>
    obtain ⟨wide, mem, several⟩ := ih (Option.map_eq_none_iff.1 cut)
    exact ⟨wide, List.mem_cons_of_mem _ mem, several⟩
  | case4 bytes c text cut => exact ⟨c, List.mem_cons_self, by omega⟩

theorem CutAt.exists_wide {lines : List Text} {place : Code.Place} (cut : CutAt lines place) :
    ∃ line ∈ lines, ∃ c ∈ line, 1 < c.utf8Size := by
  obtain ⟨c, mem, several⟩ := exists_wide_of_charsIn? cut
  rcases List.mem_append.1 mem with mem | mem
  · obtain rfl := List.eq_of_mem_replicate mem
    exact absurd several (by decide)
  · refine ⟨_, ?_, c, mem, several⟩
    rw [List.getD_eq_getElem?_getD] at mem ⊢
    cases found : lines[place.line - 2]? with
    | none =>
      rw [found] at mem
      cases mem
    | some line => exact List.mem_of_getElem? found

theorem IsCut.exists_wide {body : Text} : IsCut body → ∃ c ∈ body, 1 < c.utf8Size
  | ⟨_, _, cut⟩ => by
    obtain ⟨line, lineMem, c, mem, several⟩ := cut.exists_wide
    have whole : (Text.codeLines body).flatten = body := Text.linesBy_flatten Text.isCodeBreak [] body
    exact ⟨c, whole ▸ List.mem_flatten.2 ⟨line, lineMem, mem⟩, several⟩

theorem failsWith_qualification (lines : List Text) (name : String) (place : Code.Place) :
    FailsWith (fun e => e = .fault (.raised "UnicodeDecodeError") ∧ CutAt lines place)
      (qualification lines name place) := by
  unfold qualification
  dsimp only
  split
  · rename_i cut
    exact .error ⟨rfl, cut⟩
  · split
    · exact .ok _
    · exact .ok _

theorem failsWith_qualify (body : Text) :
    FailsWith (fun e => e = .fault .malformedCode ∨ e = .fault (.raised "UnicodeDecodeError") ∧ IsCut body)
      (qualify body) := by
  unfold qualify
  dsimp only
  split
  · exact .error (.inl rfl)
  · rename_i parsed
    refine FailsWith.bind (.mapM ?_) fun _ _ => .ok _
    rintro ⟨name, place⟩ refers
    exact (failsWith_qualification _ name place).mono fun _ ⟨same, cut⟩ => .inr ⟨same, .intro parsed refers cut⟩

/-- Why an action fails otherwise than by being told to be not well formed: a number is too long to be put in, or a
place in what results is cut. -/
inductive Unrefused (tokens : Value) (action : Text) : Fault → Prop
  | long {entries : List (Value × Value)} (map : tokens = .dict entries) (long : LongToken entries (normalBody action)) :
    Unrefused tokens action .badValue
  | cut {body : Text} (named : renamed tokens action = .ok body) (cut : IsCut body) :
    Unrefused tokens action (.raised "UnicodeDecodeError")

theorem failsWith_codeEntry {tokens : Value} (map : tokens = .none ∨ ∃ entries, tokens = .dict entries) (rule : Nat)
    (action : Text) : FailsWith (Error.Expected (Unrefused tokens action)) (codeEntry tokens rule action) := by
  have rewrite : FailsWith (fun e => (e = .fault .unreadableCode ∨ e = .fault .malformedCode) ∨
      ∃ f, e = .fault f ∧ Unrefused tokens action f) (rewriteBody tokens action) := by
    rw [rewriteBody_eq]
    refine FailsWith.bind ?_ fun body found => ?_
    · rcases map with rfl | ⟨entries, rfl⟩
      · exact .ok _
      · unfold renamed
        split
        · exact (failsWith_substituteTokens entries _).mono fun _ =>
            .imp_right fun cause => ⟨_, cause.1, .long rfl cause.2⟩
        · exact .ok _
    · refine (failsWith_qualify body).mono fun _ => ?_
      rintro (rfl | ⟨rfl, cut⟩)
      · exact .inl (.inr rfl)
      · exact .inr ⟨_, rfl, .cut found cut⟩
  unfold codeEntry
  refine FailsWith.bind ?_ fun body _ => ?_
  · unfold orInvalid
    split
    · exact .error (.own rfl)
    · exact .error (.own rfl)
    · rename_i notMalformed notUnreadable
      intro e failed
      rcases rewrite e failed with (rfl | rfl) | ⟨f, rfl, cause⟩
      · exact (notUnreadable failed).elim
      · exact (notMalformed failed).elim
      · exact .fault cause
  · split
    · exact .error (.own rfl)
    · exact .ok _

end Action

/-! ## Compilation -/

namespace CompiledLexer

theorem mayFailWith_note {allowed : Error → Prop} (level : Level) (channel message : String) :
    MayFailWith allowed (Journal.note level channel message) :=
  fun _ ⟨_, failed⟩ => nomatch failed

theorem failsWith_checkPositions (position : Nat) (rules : List CompiledRule) (actions : List ActionEntry) :
    FailsWith Error.IsOwn (checkPositions position rules actions) := by
  induction rules generalizing position actions with
  | nil => exact .ok ()
  | cons rule rules ih =>
    cases actions with
    | nil => exact .ok ()
    | cons action actions =>
      refine FailsWith.bind ?_ fun _ _ => ih _ _
      unfold checkPosition
      split
      · exact .ok ()
      · exact .error rfl

theorem failsWith_dispatch {actions : List ActionEntry}
    (code : ∀ action ∈ actions, ∃ body, action.content = .code body) :
    FailsWith Error.IsOwn (Action.dispatch actions) := by
  unfold Action.dispatch
  split
  · exact .ok _
  · refine FailsWith.bind (.mapM fun action mem => ?_) fun _ _ => .ok _
    obtain ⟨body, same⟩ := code action mem
    refine FailsWith.bind ?_ fun _ _ => .ok _
    unfold ActionEntry.source
    rw [same]
    exact .ok _

theorem failsWith_resolve (declared : List (String × Bool)) (rules : List Rule) :
    FailsWith Error.IsOwn (StartConditions.resolve declared rules) := by
  refine FailsWith.bind (.forM ?_) fun _ _ => .ok _
  rintro ⟨rule, index⟩ -
  unfold StartConditions.checkRule
  dsimp only
  split
  · exact .error rfl
  · exact .ok _

/-- What compilation of a grammar of texts fails with apart from errors of its own. -/
inductive Unguarded (settings : Settings) (tokens : Value) (grammar : Grammar) : Fault → Prop
  | pattern {rule : Rule} {text : Text} {macros table : Macros} {f : Fault} (mem : rule ∈ (completed grammar).rules)
    (written : rule.pattern = .text text) (read : Macros.ofEntries grammar.macros = .ok macros)
    (expanded : MayReturn (Macros.expand settings macros) table)
    (oversized : Pattern.Oversized (table.substitute text) f) : Unguarded settings tokens grammar f
  | action {rule : Rule} {action body : Text} {c : Char} (mem : rule ∈ (completed grammar).rules)
    (written : rule.action = .code action) (named : Action.renamed tokens action = .ok body)
    (cut : Action.IsCut body) (within : c ∈ body) (wide : 1 < c.utf8Size) :
    Unguarded settings tokens grammar (.raised "UnicodeDecodeError")
  | token {rule : Rule} {action : Text} {entries : List (Value × Value)} (mem : rule ∈ (completed grammar).rules)
    (written : rule.action = .code action) (map : tokens = .dict entries)
    (long : Action.LongToken entries (Action.normalBody action)) : Unguarded settings tokens grammar .badValue

theorem textual_completed {grammar : Grammar} (textual : grammar.Textual) : (completed grammar).Textual := by
  refine ⟨fun rule mem => ?_, completed_macros grammar ▸ textual.macros⟩
  obtain own | rfl := of_mem_completed mem
  · exact textual.rules rule own
  · exact ⟨⟨_, rfl⟩, _, rfl⟩

theorem mayFailWith_ofRule {settings : Settings} {table : Macros} {rule : Rule} {text : Text}
    (written : rule.pattern = .text text) (caseInsensitive : Bool) (index : Nat) :
    MayFailWith (Error.Expected (Pattern.Oversized (table.substitute text)))
      (CompiledRule.ofRule settings table caseInsensitive index rule) := by
  unfold CompiledRule.ofRule
  rw [written]
  refine MayFailWith.bind (fun e failed => ?_) fun _ _ => ?_
  · obtain ⟨-, name, place, rfl⟩ := Macros.fails_check failed
    exact .own rfl
  · exact MayFailWith.bind (.lift (Pattern.failsWith_ofRule _ _ _)) fun _ _ => .pure _

theorem failsWith_assemble {declared : List (String × Bool)} {sources : List Rule} {rules : List CompiledRule}
    {actions : List ActionEntry} {conditions : List StartCondition} (count : rules.length = sources.length)
    (resolved : StartConditions.resolve declared sources = .ok conditions)
    (code : ∀ action ∈ actions, ∃ body, action.content = .code body) (options : Options)
    (actionInclude moduleInclude : Value) :
    FailsWith Error.IsOwn
      (assemble rules (conditions.map StartCondition.entry) actions options actionInclude moduleInclude) := by
  unfold assemble
  split
  · exact .error rfl
  · refine (failsWith_checkPositions 0 rules actions).bind fun _ _ => ?_
    refine FailsWith.bind (.forM fun entry mem => ?_) fun _ _ => ?_
    · obtain ⟨condition, conditionMem, rfl⟩ := List.mem_map.1 mem
      rw [StartConditions.resolve_eq resolved] at conditionMem
      obtain ⟨entry, -, rfl⟩ := List.mem_map.1 conditionMem
      rw [checkCondition_positions rfl fun i member => count ▸ StartConditions.lt_of_mem_members member]
      exact .ok ()
    · exact (failsWith_dispatch code).bind fun _ _ => .ok _

theorem mayFailWith_ofGrammar {settings : Settings} {tokens : Value} {grammar : Grammar} (textual : grammar.Textual)
    (map : tokens = .none ∨ ∃ entries, tokens = .dict entries) :
    MayFailWith (Error.Expected (Unguarded settings tokens grammar)) (ofGrammar settings tokens grammar) := by
  have textual := textual_completed textual
  unfold ofGrammar
  dsimp only
  refine MayFailWith.bind (.lift (FailsWith.mapM ?_)) fun macros read => ?_
  · rintro ⟨_, _⟩ mem
    obtain ⟨⟨name, rfl⟩, fragment, rfl⟩ := textual.macros _ mem
    exact .ok _
  refine MayFailWith.bind (fun e failed => ?_) fun table expanded => ?_
  · obtain ⟨cycle, rfl⟩ | ⟨-, name, place, rfl⟩ := Macros.fails_expand failed
    · exact .own rfl
    · exact .own rfl
  refine MayFailWith.bind (.mapM ?_) fun rules rulesMade => ?_
  · rintro ⟨rule, index⟩ mem
    have mem := List.fst_mem_of_mem_zipIdx mem
    obtain ⟨text, written⟩ := (textual.rules rule mem).pattern
    refine (mayFailWith_ofRule written _ index).mono fun _ => .mono fun f oversized => ?_
    exact .pattern mem written (completed_macros grammar ▸ read.of_lift) expanded oversized
  refine MayFailWith.bind (.lift (failsWith_resolve _ _).own) fun conditions resolved => ?_
  refine MayFailWith.bind ?_ fun actions built => ?_
  · refine MayFailWith.bind (.mapM ?_) fun entries _ => ?_
    · rintro ⟨rule, index⟩ mem
      have mem := List.fst_mem_of_mem_zipIdx mem
      obtain ⟨action, written⟩ := (textual.rules rule mem).action
      refine .lift ?_
      unfold Action.entryOf
      rw [written]
      refine (Action.failsWith_codeEntry map index action).mono fun _ => .mono ?_
      rintro f (⟨map, long⟩ | ⟨named, cut⟩)
      · exact .token mem written map long
      · obtain ⟨c, within, wide⟩ := cut.exists_wide
        exact .action mem written named cut within wide
    · exact MayFailWith.bind (mayFailWith_note _ _ _) fun _ _ => .pure _
  refine MayFailWith.bind (mayFailWith_note _ _ _) fun _ _ => ?_
  have code := code_of_build built fun rule mem => (textual.rules rule mem).action
  exact .lift (failsWith_assemble (length_of_compileRules rulesMade) resolved.of_lift code _ _ _).own

/-- A grammar with the documented types is compiled or refused with an error of the compiler, or the cause of the fault
is known. A map of tokens may hold anything. -/
theorem compiles_or_refuses (settings : Settings) {tokens : Value} {entries : List (Value × Value)}
    (documented : Grammar.Documented entries) (map : tokens = .none ∨ ∃ names, tokens = .dict names) :
    (∃ lexer, (ofSource settings none tokens (.dict entries)).outcome = .ok lexer) ∨
      ∃ e, (ofSource settings none tokens (.dict entries)).outcome = .error e ∧
        e.Expected fun f => (f = .badValue ∧ Grammar.HasLongOption entries) ∨
          ∃ grammar, Grammar.ofEntries entries = .ok grammar ∧ Unguarded settings tokens grammar f := by
  cases result : (ofSource settings none tokens (.dict entries)).outcome with
  | ok lexer => exact .inl ⟨lexer, rfl⟩
  | error e =>
    refine .inr ⟨e, rfl, ?_⟩
    have fails : MayFailWith (Error.Expected fun f => (f = .badValue ∧ Grammar.HasLongOption entries) ∨
        ∃ grammar, Grammar.ofEntries entries = .ok grammar ∧ Unguarded settings tokens grammar f)
        (ofSource settings none tokens (.dict entries)) := by
      refine MayFailWith.bind ?_ fun grammar read => ?_
      · exact .lift ((Grammar.failsWith_ofEntries documented).mono fun _ => .mono fun _ => .inl)
      have textual := Grammar.textual_of_ofEntries documented read.of_lift
      refine (mayFailWith_ofGrammar textual map).mono fun _ => .mono fun f cause => ?_
      exact .inr ⟨grammar, read.of_lift, cause⟩
    exact fails e ⟨[], result⟩

def oneRule (pattern action : String) : List (Value × Value) :=
  [(.str "rules", .list [.list [.str pattern, .str action]])]

theorem documented_oneRule (pattern action : String) : Grammar.Documented (oneRule pattern action) where
  rules := by
    refine .inr ⟨[.list [.str pattern, .str action]], by simp [oneRule, Grammar.pick, Value.get?_cons], ?_⟩
    simp [Rule.IsTextual, Rule.IsPlain]
  macros := .inl (by simp [oneRule, Grammar.pick, Value.get?_cons])
  conditions := .inl (by simp [oneRule, Grammar.pick, Value.get?_cons])
  options := .inl (by simp [oneRule, Grammar.pick, Value.get?_cons])
  actionInclude := .inl (by simp [oneRule, Grammar.pick, Value.get?_cons])
  moduleInclude := .inl (by simp [oneRule, Grammar.pick, Value.get?_cons])

theorem fault_oneRule_bound :
    faultOf (ofSource {} none .none (.dict (oneRule "a\x7b4294967295\x7d" "return 1"))).outcome =
      some "OverflowError" := by
  decide +kernel

theorem compiles_or_refuses_oneRule :
    Grammar.Documented (oneRule "a\x7b4294967295\x7d" "return 1") ∧
      ∃ grammar f, Grammar.ofEntries (oneRule "a\x7b4294967295\x7d" "return 1") = .ok grammar ∧
        f.name = "OverflowError" ∧ Unguarded {} .none grammar f := by
  refine ⟨documented_oneRule _ _, ?_⟩
  obtain ⟨f, failed, named⟩ := exists_fault_of_faultOf fault_oneRule_bound
  obtain ⟨lexer, compiled⟩ | ⟨e, failed', expected⟩ := compiles_or_refuses {} (documented_oneRule _ _) (.inl rfl)
  · rw [compiled] at failed
    cases failed
  · obtain rfl := Except.error.inj (failed'.symm.trans failed)
    cases expected with
    | own own => cases own
    | fault cause =>
      obtain ⟨rfl, -⟩ | ⟨grammar, read, unguarded⟩ := cause
      · exact absurd named (by decide)
      · exact ⟨grammar, f, read, named, unguarded⟩

/-- A bound that is too large is no malformed pattern. A literal of several lines is placed without regard to the field
that it stands in, so that a name in it can be placed inside of a character. -/
theorem bound_and_place_unguarded :
    faultOf (ofSource {} none .none (.dict (oneRule "a\x7b4294967295\x7d" "return 1"))).outcome =
        some "OverflowError" ∧
      faultOf (ofSource {} none .none (.dict (oneRule "a"
        "aé=f\"\"\"\x7bf'''\x7byytext\x7d\n'''\x7d\"\"\""))).outcome = some "UnicodeDecodeError" :=
  ⟨fault_oneRule_bound, by decide +kernel⟩

end CompiledLexer

end LexGen
