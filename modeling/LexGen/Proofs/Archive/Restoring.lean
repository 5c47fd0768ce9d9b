import LexGen.Proofs.Archive.RoundTrip
import LexGen.Proofs.CompiledLexer.Failures
import LexGen.Proofs.Json.Reading
import LexGen.Proofs.Value.Numbers

/-!
# Restoring from any text

What comes of a text that has not been stored but made up.

* `Misshapen`: the stored values that are refused with a fault of their own, and not with the error of a malformed
  value.
* `read_restores_or_refuses`: whatever the text is, the tables that are restored fit together, or it is refused with
  an error of the compiler, or there is such a cause for the fault.
-/

namespace LexGen

/-! ## Restored lexers -/

namespace Archive

/-- Tables that fit together: rules and actions stand at their positions, the items of every start condition equal
the positions of rules, and every action can be run. -/
structure Restored (lexer : CompiledLexer) : Prop where
  parallel : lexer.rules.length = lexer.actions.length
  placedRules : ∀ (i : Nat) rule, lexer.rules[i]? = some rule → rule.index = (i : Int)
  placedActions : ∀ (i : Nat) action, lexer.actions[i]? = some action → action.rule = (i : Int)
  referring : ∀ condition ∈ lexer.conditions, ∀ item ∈ condition.rules,
    ∃ i < lexer.rules.length, Value.same (.int (i : Nat)) item = true
  runnable : ∀ action ∈ lexer.actions, ∃ body, action.source = .ok body

/-- The start conditions have the names that are stored. Scanning can begin if `INITIAL` is one of them. -/
def HasStoredConditions (stored : Value) (lexer : CompiledLexer) : Prop :=
  ∃ entries, part "conditions" stored = .ok (.dict entries) ∧ lexer.conditions.map (·.name) = entries.map (·.1)

/-! ## Causes of faults -/

def HasItem (name : String) (stored item : Value) : Prop :=
  ∃ container items, part name stored = .ok container ∧ container.items = .ok items ∧ item ∈ items

def HasReference (stored item : Value) : Prop :=
  ∃ entries, part "conditions" stored = .ok (.dict entries) ∧ ∃ entry ∈ entries, HasItem "rules" entry.2 item

/-- The stored values that are refused with a fault. -/
inductive Misshapen (stored : Value) : Fault → Prop
  | value (other : ∀ entries, stored ≠ .dict entries) : Misshapen stored .noAttribute
  | conditions {table : Value} (given : part "conditions" stored = .ok table)
    (other : ∀ entries, table ≠ .dict entries) : Misshapen stored .noAttribute
  | options {block : Value} (given : part "options" stored = .ok block) (other : ∀ entries, block ≠ .dict entries)
    (truthy : block.truthy = true) : Misshapen stored .noAttribute
  | action {body : Value} (given : HasItem "actions" stored body) (other : ∀ s, body ≠ .str s)
    (truthy : body.truthy = true) : Misshapen stored .noAttribute
  | pattern {rule flags : Value} {text : String} {i : Int} {failure : Pattern.Failure} {f : Fault}
    (given : HasItem "rules" stored rule) (pattern : part "pattern" rule = .ok (.str text))
    (part : part "flags" rule = .ok flags) (number : flags.integer? = some i)
    (refused : Pattern.compile text.toList (PatternFlags.ofInt i) = .error failure)
    (reason : failure = .tooLarge ∧ f = .overflow ∨ failure = .badValue ∧ f = .badValue) : Misshapen stored f
  | unhashable {item : Value} (given : HasReference stored item) (unhashable : item.hashable = false) :
    Misshapen stored .badType
  | unordered {first second : Value} (given : HasReference stored first) (given' : HasReference stored second)
    (unordered : first.less second = .error .badType) : Misshapen stored .badType

def Caught (f : Fault) : Prop := f = .badType ∨ ∃ key, f = .noKey key

theorem part_of_absent {entries : List (Value × Value)} {name : String} (absent : Value.get? entries name = none) :
    part name (.dict entries) = .error (.fault (.noKey (.str name))) := by
  have absent : Value.lookup (.str name) entries = none := absent
  simp only [part, Value.index, Value.hashable, absent]
  rfl

theorem failsWith_part (name : String) (stored : Value) : FailsWith (Error.Expected Caught) (part name stored) := by
  cases stored with
  | dict entries =>
    cases found : Value.get? entries name with
    | none => exact part_of_absent found ▸ .error (.fault (.inr ⟨_, rfl⟩))
    | some v => exact part_dict found ▸ .ok v
  | _ => exact .error (.fault (.inl rfl))

theorem exists_entries_of_part {name : String} {stored v : Value} (found : part name stored = .ok v) :
    ∃ entries, stored = .dict entries ∧ Value.get? entries name = some v := by
  cases stored with
  | dict entries =>
    refine ⟨entries, rfl, ?_⟩
    cases known : Value.get? entries name with
    | none =>
      rw [part_of_absent known] at found
      cases found
    | some w =>
      rw [part_dict known] at found
      rw [Except.ok.inj found]
  | _ => cases found

theorem isJson_part {name : String} {stored v : Value} (json : Json.IsJson stored) (found : part name stored = .ok v) :
    Json.IsJson v := by
  obtain ⟨entries, rfl, known⟩ := exists_entries_of_part found
  cases json with
  | dict _ each => exact each _ (Value.mem_of_get? known)

theorem failsWith_items (v : Value) :
    FailsWith (Error.Expected Caught) (liftM v.items : Except Error (List Value)) := by
  refine .lift ?_
  unfold Value.items
  split
  all_goals first | exact .ok _ | exact .error (.inl rfl)

theorem isJson_items {v : Value} {items : List Value} (json : Json.IsJson v)
    (found : (liftM v.items : Except Error (List Value)) = .ok items) : ∀ item ∈ items, Json.IsJson item := by
  cases json with
  | list each => exact Except.ok.inj found ▸ each
  | str s =>
    obtain rfl := Except.ok.inj found
    intro item mem
    obtain ⟨c, -, rfl⟩ := List.mem_map.1 mem
    exact .str _
  | dict keyed each =>
    obtain rfl := Except.ok.inj found
    intro item mem
    obtain ⟨entry, entryMem, rfl⟩ := List.mem_map.1 mem
    obtain ⟨s, named⟩ := keyed.named entry entryMem
    exact named ▸ .str s
  | _ => cases found

theorem HasItem.isJson {name : String} {stored item : Value} (json : Json.IsJson stored)
    (given : HasItem name stored item) : Json.IsJson item := by
  obtain ⟨container, items, found, all, mem⟩ := given
  exact isJson_items (isJson_part json found) (by rw [all]; rfl) item mem

theorem HasReference.isJson {stored item : Value} (json : Json.IsJson stored) (given : HasReference stored item) :
    Json.IsJson item := by
  obtain ⟨entries, found, entry, mem, given⟩ := given
  cases isJson_part json found with
  | dict _ each => exact given.isJson (each entry mem)

/-! ## Rules -/

theorem failsWith_flagsOf (flags : Value) : FailsWith (Error.Expected Caught) (flagsOf flags) := by
  unfold flagsOf
  split
  · exact .ok _
  · exact .error (.fault (.inl rfl))

theorem exists_integer_of_flagsOf {v : Value} {flags : PatternFlags} (h : flagsOf v = .ok flags) :
    ∃ i, v.integer? = some i ∧ flags = PatternFlags.ofInt i := by
  unfold flagsOf at h
  split at h
  · rename_i i number
    exact ⟨i, number, (Except.ok.inj h).symm⟩
  · cases h

theorem failsWith_restoreRule {stored rule : Value} (json : Json.IsJson stored) (given : HasItem "rules" stored rule)
    (index : Nat) :
    FailsWith (Error.Expected fun f => Caught f ∨ Misshapen stored f) (restoreRule index rule) := by
  have caught : ∀ name, FailsWith (Error.Expected fun f => Caught f ∨ Misshapen stored f) (part name rule) :=
    fun name => (failsWith_part name rule).mono fun _ => .mono fun _ => .inl
  refine (caught "source").bind fun source _ => (caught "pattern").bind fun pattern found => ?_
  refine (caught "flags").bind fun flags foundFlags => ?_
  refine FailsWith.bind ?_ fun _ _ => .ok _
  unfold restorePattern
  split
  · rename_i text
    refine FailsWith.bind ?_ fun bits number => ?_
    · exact (failsWith_flagsOf flags).mono fun _ => .mono fun _ => .inl
    · obtain ⟨i, integer, rfl⟩ := exists_integer_of_flagsOf number
      split
      · exact .ok _
      · exact .error (.own rfl)
      · rename_i refused
        exact .error (.fault (.inr (.pattern given found foundFlags integer refused (.inl ⟨rfl, rfl⟩))))
      · rename_i refused
        exact .error (.fault (.inr (.pattern given found foundFlags integer refused (.inr ⟨rfl, rfl⟩))))
  · cases isJson_part (given.isJson json) found
  · exact .error (.fault (.inl (.inl rfl)))

/-! ## Tables -/

theorem ok_of_lift {α : Type} {x : Except Fault α} {a : α} (h : (liftM x : Except Error α) = .ok a) : x = .ok a := by
  cases x with
  | error f => cases h
  | ok b => exact congrArg _ (Except.ok.inj h)

theorem failsWith_restoreTables {stored : Value} (json : Json.IsJson stored) :
    FailsWith (Error.Expected fun f => Caught f ∨ Misshapen stored f) (restoreTables stored) := by
  have caught {α : Type} {x : Except Error α} (h : FailsWith (Error.Expected Caught) x) :
      FailsWith (Error.Expected fun f => Caught f ∨ Misshapen stored f) x := h.mono fun _ => .mono fun _ => .inl
  refine (caught (failsWith_part "rules" stored)).bind fun ruleTable foundRules => ?_
  refine (caught (failsWith_items ruleTable)).bind fun rules ruleItems => ?_
  refine FailsWith.bind ?_ fun compiled _ => ?_
  · refine .mapM ?_
    rintro ⟨rule, index⟩ mem
    refine failsWith_restoreRule json ?_ index
    exact ⟨ruleTable, rules, foundRules, ok_of_lift ruleItems, List.fst_mem_of_mem_zipIdx mem⟩
  · refine (caught (failsWith_part "actions" stored)).bind fun actionTable _ => ?_
    refine (caught (failsWith_items actionTable)).bind fun actions _ => ?_
    refine (caught (failsWith_part "conditions" stored)).bind fun conditionTable foundConditions => ?_
    refine FailsWith.bind ?_ fun entries _ => ?_
    · unfold entriesOf
      split
      · exact .ok _
      · rename_i other
        exact .error (.fault (.inr (.conditions foundConditions other)))
    · refine FailsWith.bind (.mapM fun entry _ => caught ?_) fun _ _ => .ok _
      refine (failsWith_part "inclusive" entry.2).bind fun inclusive _ => ?_
      refine (failsWith_part "rules" entry.2).bind fun references _ => ?_
      exact (failsWith_items references).bind fun _ _ => .ok _

theorem failsWith_orMalformed {α : Type} {stored : Value} {x : Except Error α}
    (h : FailsWith (Error.Expected fun f => Caught f ∨ Misshapen stored f) x) :
    FailsWith (Error.Expected (Misshapen stored)) (orMalformed x) := by
  unfold orMalformed
  split
  · exact .error (.own rfl)
  · exact .error (.own rfl)
  · rename_i noKey badType
    intro e failed
    cases h e failed with
    | own own => exact .own own
    | fault cause =>
      rcases cause with (rfl | ⟨key, rfl⟩) | misshapen
      · exact (badType failed).elim
      · exact (noKey key failed).elim
      · exact .fault misshapen

theorem of_orMalformed {α : Type} {x : Except Error α} {a : α} (h : orMalformed x = .ok a) : x = .ok a := by
  unfold orMalformed at h
  split at h
  · cases h
  · cases h
  · exact h

theorem of_restoreTables {stored : Value} {rules : List CompiledRule} {actions : List ActionEntry}
    {conditions : List ConditionEntry} (h : restoreTables stored = .ok (rules, actions, conditions)) :
    (∀ action ∈ actions, ∃ body index, HasItem "actions" stored body ∧ action = restoreAction index body) ∧
      (∀ condition ∈ conditions, ∀ item ∈ condition.rules, HasReference stored item) ∧
      ∃ entries, part "conditions" stored = .ok (.dict entries) ∧ conditions.map (·.name) = entries.map (·.1) := by
  obtain ⟨_, -, h⟩ := ok_of_bind h
  obtain ⟨_, -, h⟩ := ok_of_bind h
  obtain ⟨_, -, h⟩ := ok_of_bind h
  obtain ⟨actionTable, foundActions, h⟩ := ok_of_bind h
  obtain ⟨bodies, actionItems, h⟩ := ok_of_bind h
  obtain ⟨conditionTable, foundConditions, h⟩ := ok_of_bind h
  obtain ⟨entries, objects, h⟩ := ok_of_bind h
  obtain ⟨restored, each, h⟩ := ok_of_bind h
  simp only [pure, Except.pure, Except.ok.injEq, Prod.mk.injEq] at h
  obtain ⟨-, rfl, rfl⟩ := h
  obtain rfl : conditionTable = .dict entries := by
    unfold entriesOf at objects
    split at objects
    · rw [Except.ok.inj objects]
    · cases objects
  refine ⟨?_, ?_, entries, foundConditions, ?_⟩
  · intro action mem
    obtain ⟨⟨body, index⟩, bodyMem, rfl⟩ := List.mem_map.1 mem
    have given := List.fst_mem_of_mem_zipIdx bodyMem
    exact ⟨body, index, ⟨actionTable, bodies, foundActions, ok_of_lift actionItems, given⟩, rfl⟩
  · intro condition mem item itemMem
    obtain ⟨entry, entryMem, made⟩ := exists_of_mem_forall₂ (forall₂_of_mapM each) mem
    obtain ⟨inclusive, -, made⟩ := ok_of_bind made
    obtain ⟨references, found, made⟩ := ok_of_bind made
    obtain ⟨items, referenceItems, made⟩ := ok_of_bind made
    obtain rfl := Except.ok.inj made
    exact ⟨entries, foundConditions, entry, entryMem, references, items, found, ok_of_lift referenceItems, itemMem⟩
  · refine (List.forall₂_eq_eq_eq ▸ List.forall₂_map_left_iff.2 (List.forall₂_map_right_iff.2 ?_) : _ = _)
    refine (forall₂_of_mapM each).flip.imp fun condition entry made => ?_
    obtain ⟨inclusive, -, made⟩ := ok_of_bind made
    obtain ⟨references, -, made⟩ := ok_of_bind made
    obtain ⟨items, -, made⟩ := ok_of_bind made
    obtain rfl := Except.ok.inj made
    rfl

/-! ## Options -/

theorem failsWith_options {entries : List (Value × Value)} (json : Json.IsJson (.dict entries)) :
    FailsWith (Error.Expected (Misshapen (.dict entries)))
      (Options.ofValue ((Value.get? entries "options").getD .none)) := by
  cases found : Value.get? entries "options" with
  | none => exact .ok _
  | some block =>
    have jsonBlock := isJson_part json (part_dict found)
    rw [Option.getD_some]
    unfold Options.ofValue
    split
    · cases jsonBlock
    · refine (Options.failsWith_ofEntries _).mono fun _ => .mono ?_
      rintro f ⟨-, name, -, value, mem, long⟩
      cases jsonBlock with
      | dict _ each =>
        rw [(each _ mem).holdsLong] at long
        cases long
    · cases jsonBlock
    · rename_i other _
      split
      · rename_i truthy
        exact .error (.fault (.options (part_dict found) other truthy))
      · exact .ok _

/-! ## Putting tables together -/

theorem failsWith_insertInOrder {all : List Value} {v : Value} {sorted : List Value} (mem : v ∈ all)
    (among : ∀ w ∈ sorted, w ∈ all) :
    FailsWith (fun f => ∃ first ∈ all, ∃ second ∈ all, first.less second = .error f) (Value.insertInOrder v sorted) ∧
      ∀ next, Value.insertInOrder v sorted = .ok next → ∀ w ∈ next, w ∈ all := by
  induction sorted with
  | nil =>
    refine ⟨.ok _, fun next h => ?_⟩
    rw [← Except.ok.inj h, List.forall_mem_singleton]
    exact mem
  | cons w sorted ih =>
    obtain ⟨first, others⟩ := List.forall_mem_cons.1 among
    obtain ⟨fails, keeps⟩ := ih others
    constructor
    · refine FailsWith.bind (fun f unordered => ⟨v, mem, w, first, unordered⟩) fun below _ => ?_
      split
      · exact .ok _
      · exact fails.bind fun _ _ => .ok _
    · intro next h
      obtain ⟨below, -, h⟩ := ok_of_bind h
      split at h
      · obtain rfl := Except.ok.inj h
        exact List.forall_mem_cons.2 ⟨mem, among⟩
      · obtain ⟨rest, inserted, h⟩ := ok_of_bind h
        obtain rfl := Except.ok.inj h
        exact List.forall_mem_cons.2 ⟨first, keeps rest inserted⟩

theorem failsWith_inOrder (values : List Value) :
    FailsWith (fun f => ∃ first ∈ values, ∃ second ∈ values, first.less second = .error f) (Value.inOrder values) :=
  .foldlM (P := fun sorted => ∀ w ∈ sorted, w ∈ values)
    (fun _ mem _ among => failsWith_insertInOrder mem among) (by simp)

theorem mem_of_inOrder {values sorted : List Value} (h : Value.inOrder values = .ok sorted) :
    ∀ w ∈ sorted, w ∈ values :=
  invariant_of_foldlM (P := fun sorted => ∀ w ∈ sorted, w ∈ values)
    (fun _ _ mem next among stepped => (failsWith_insertInOrder mem among).2 next stepped) (by simp) h

theorem failsWith_listLess {α : Type} {equal : α → α → Bool} {less : α → α → Except Fault Bool}
    {allowed : Fault → Prop} (each : ∀ x y, FailsWith allowed (less x y)) (xs ys : List α) :
    FailsWith allowed (Value.listLess equal less xs ys) := by
  induction xs generalizing ys with
  | nil => exact .ok _
  | cons x xs ih =>
    cases ys with
    | nil => exact .ok _
    | cons y ys =>
      rw [Value.listLess]
      split
      · exact ih ys
      · exact each x y

/-- Values of JSON that can be kept in a set have no parts, so that nothing but their types can be wrong. -/
theorem failsWith_less {first : Value} (json : Json.IsJson first) (hashable : first.hashable = true)
    (second : Value) : FailsWith (· = .badType) (first.less second) := by
  change FailsWith _ (Value.lessAt (499 + 1) first second)
  unfold Value.lessAt
  split
  · exact failsWith_listLess (fun _ _ => .ok _) _ _
  · exact failsWith_listLess (fun _ _ => .ok _) _ _
  · cases hashable
  · cases json
  · exact .ok _
  · split
    · exact .ok _
    · split
      · exact .ok _
      · exact .error rfl

theorem failsWith_checkCondition {stored : Value} {condition : ConditionEntry} (json : Json.IsJson stored)
    (named : ∃ s, condition.name = .str s) (given : ∀ item ∈ condition.rules, HasReference stored item) (count : Nat) :
    FailsWith (Error.Expected (Misshapen stored)) (CompiledLexer.checkCondition count condition) := by
  unfold CompiledLexer.checkCondition
  cases hashable : condition.rules.all Value.hashable with
  | false =>
    obtain ⟨item, mem, unhashable⟩ := List.all_eq_false.1 hashable
    exact .error (.fault (.unhashable (given item mem) (by simpa using unhashable)))
  | true =>
    rw [if_neg (by simp)]
    split
    · exact .ok _
    · obtain ⟨s, name⟩ := named
      have known {item : Value} (mem : item ∈ (Value.distinct condition.rules).filter fun item =>
          (ConditionEntry.ruleAt? count item).isNone) : item ∈ condition.rules :=
        Value.mem_of_mem_distinct (List.mem_filter.1 mem).1
      rw [name]
      refine FailsWith.bind (.ok s) fun _ _ => FailsWith.bind (FailsWith.lift ((failsWith_inOrder _).mono ?_)) ?_
      · rintro f ⟨first, mem, second, mem', unordered⟩
        have hashable := List.all_eq_true.1 hashable first (known mem)
        obtain rfl := failsWith_less (HasReference.isJson json (given first (known mem))) hashable second f unordered
        exact .unordered (given first (known mem)) (given second (known mem')) unordered
      · intro strays sorted
        have short : (Value.list strays).holdsLong = false := Json.itemsHoldLong_eq_false fun item mem =>
          (HasReference.isJson json (given item (known (mem_of_inOrder (ok_of_lift sorted) item mem)))).holdsLong
        rw [Value.shown_eq short]
        exact .error (.own rfl)

theorem referring_of_checkCondition {count : Nat} {condition : ConditionEntry}
    (checked : CompiledLexer.checkCondition count condition = .ok ()) :
    ∀ item ∈ condition.rules, ∃ i < count, Value.same (.int (i : Nat)) item = true := by
  unfold CompiledLexer.checkCondition at checked
  have hashable : (!condition.rules.all Value.hashable) = false := by
    cases hashable : condition.rules.all Value.hashable with
    | true => rfl
    | false =>
      rw [hashable] at checked
      cases checked
  rw [hashable, if_neg Bool.false_ne_true] at checked
  split at checked
  · rename_i none
    intro item mem
    obtain ⟨kept, keptMem, equal⟩ := Value.mem_distinct_of_mem mem
    have found := List.filter_eq_nil_iff.1 none kept keptMem
    simp only [Option.isNone_iff_eq_none] at found
    obtain ⟨i, found⟩ := Option.ne_none_iff_exists'.1 found
    have counts := List.find?_some found
    refine ⟨i, List.mem_range.1 (List.mem_of_find?_eq_some found), ?_⟩
    rcases equal with rfl | equal
    · exact counts
    · exact Value.same_int_of_same equal counts
  · obtain ⟨_, -, checked⟩ := ok_of_bind checked
    obtain ⟨_, -, checked⟩ := ok_of_bind checked
    obtain ⟨_, -, checked⟩ := ok_of_bind checked
    cases checked

theorem failsWith_dispatch {stored : Value} {actions : List ActionEntry} (json : Json.IsJson stored)
    (given : ∀ action ∈ actions, ∃ body index, HasItem "actions" stored body ∧ action = restoreAction index body) :
    FailsWith (Error.Expected (Misshapen stored)) (Action.dispatch actions) := by
  unfold Action.dispatch
  split
  · exact .ok _
  · refine FailsWith.bind (.mapM fun action mem => ?_) fun _ _ => .ok _
    obtain ⟨body, index, given, rfl⟩ := given action mem
    refine FailsWith.bind ?_ fun _ _ => .ok _
    unfold restoreAction
    split
    · exact .ok _
    · rename_i other
      unfold ActionEntry.source
      dsimp only
      split
      · exact .ok _
      · rename_i truthy
        split
        · cases given.isJson json
        · exact .error (.fault (.action given other (by simpa using truthy)))

/-! ## Restoring -/

theorem failsWith_assemble {stored : Value} (json : Json.IsJson stored) {rules : List CompiledRule}
    {actions : List ActionEntry} {conditions : List ConditionEntry}
    (restored : restoreTables stored = .ok (rules, actions, conditions)) (options : Options)
    (actionInclude moduleInclude : Value) :
    FailsWith (Error.Expected (Misshapen stored))
      (CompiledLexer.assemble rules conditions actions options actionInclude moduleInclude) := by
  obtain ⟨bodies, references, entries, table, names⟩ := of_restoreTables restored
  have named (condition) (mem : condition ∈ conditions) : ∃ s, condition.name = .str s := by
    have nameMem : condition.name ∈ entries.map (·.1) := names ▸ List.mem_map_of_mem mem
    obtain ⟨entry, entryMem, same⟩ := List.mem_map.1 nameMem
    cases isJson_part json table with
    | dict keyed _ =>
      obtain ⟨s, text⟩ := keyed.named entry entryMem
      exact ⟨s, same.symm.trans text⟩
  unfold CompiledLexer.assemble
  split
  · exact .error (.own rfl)
  · refine (CompiledLexer.failsWith_checkPositions 0 rules actions).own.bind fun _ _ => ?_
    refine FailsWith.bind (.forM fun condition mem => ?_) fun _ _ => ?_
    · exact failsWith_checkCondition json (named condition mem) (references condition mem) rules.length
    · exact (failsWith_dispatch json bodies).bind fun _ _ => .ok _

theorem failsWith_restore {stored : Value} (json : Json.IsJson stored) :
    FailsWith (Error.Expected (Misshapen stored)) (restore stored) := by
  unfold restore
  refine FailsWith.bind ?_ fun entries object => ?_
  · unfold entriesOf
    split
    · exact .ok _
    · rename_i other
      exact .error (.fault (.value other))
  · obtain rfl : stored = .dict entries := by
      unfold entriesOf at object
      split at object
      · rw [Except.ok.inj object]
      · cases object
    dsimp only
    split
    · have short : ((Value.get? entries "_format").getD .none).holdsLong = false := by
        cases found : Value.get? entries "_format" with
        | none => rfl
        | some version => exact (isJson_part json (part_dict found)).holdsLong
      rw [Value.shown_eq short]
      exact .error (.own rfl)
    · refine FailsWith.bind (failsWith_orMalformed (failsWith_restoreTables json)) fun tables restored => ?_
      obtain ⟨rules, actions, conditions⟩ := tables
      refine (failsWith_options json).bind fun options _ => ?_
      exact failsWith_assemble json (of_orMalformed restored) _ _ _

/-- Where a text fails to be restored with a fault. -/
inductive Unforeseen (text : Text) : Fault → Prop
  | longNumber (given : Json.read text = .error .longNumber) : Unforeseen text .badValue
  | misshapen {stored : Value} {f : Fault} (given : Json.read text = .ok stored) (shape : Misshapen stored f) :
    Unforeseen text f

theorem runnable_of_dispatch {actions : List ActionEntry} {text : Text} (h : Action.dispatch actions = .ok text) :
    ∀ action ∈ actions, ∃ body, action.source = .ok body := by
  intro action mem
  unfold Action.dispatch at h
  rw [if_neg (by simpa using List.ne_nil_of_mem mem)] at h
  obtain ⟨cases, each, -⟩ := ok_of_bind h
  obtain ⟨i, inside, rfl⟩ := List.mem_iff_getElem.1 mem
  obtain ⟨_, -, case⟩ := exists_getElem?_of_forall₂ (forall₂_of_mapM each) (List.getElem?_eq_getElem inside)
  obtain ⟨body, found, -⟩ := ok_of_bind case
  exact ⟨body, found⟩

theorem restored_of_assemble {rules : List CompiledRule} {actions : List ActionEntry}
    {conditions : List ConditionEntry} {options : Options} {actionInclude moduleInclude : Value}
    {lexer : CompiledLexer}
    (h : CompiledLexer.assemble rules conditions actions options actionInclude moduleInclude = .ok lexer) :
    Restored lexer := by
  obtain ⟨parallel, positions, dispatch, dispatched, rfl⟩ := CompiledLexer.of_assemble h
  have positioned {i : Nat} {rule : CompiledRule} {action : ActionEntry} (atRule : rules[i]? = some rule)
      (atAction : actions[i]? = some action) : rule.index = i ∧ action.rule = i := by
    simpa using CompiledLexer.of_checkPositions positions atRule atAction
  refine ⟨parallel, fun i rule atRule => ?_, fun i action atAction => ?_, ?_, runnable_of_dispatch dispatched⟩
  · have inside := (List.getElem?_eq_some_iff.1 atRule).1
    exact (positioned atRule (List.getElem?_eq_getElem (parallel ▸ inside))).1
  · have inside := (List.getElem?_eq_some_iff.1 atAction).1
    exact (positioned (List.getElem?_eq_getElem (parallel.symm ▸ inside)) atAction).2
  · intro condition mem
    unfold CompiledLexer.assemble at h
    rw [if_neg (not_not.2 parallel)] at h
    obtain ⟨_, -, h⟩ := ok_of_bind h
    obtain ⟨_, checked, -⟩ := ok_of_bind h
    exact referring_of_checkCondition (ok_of_forM checked condition mem)

theorem restored_of_restore {stored : Value} {lexer : CompiledLexer} (h : restore stored = .ok lexer) :
    Restored lexer ∧ HasStoredConditions stored lexer := by
  obtain ⟨entries, -, h⟩ := ok_of_bind h
  dsimp only at h
  split at h
  · obtain ⟨_, -, h⟩ := ok_of_bind h
    cases h
  · obtain ⟨⟨rules, actions, conditions⟩, tables, h⟩ := ok_of_bind h
    obtain ⟨options, -, h⟩ := ok_of_bind h
    refine ⟨restored_of_assemble h, ?_⟩
    obtain ⟨-, -, dispatch, -, rfl⟩ := CompiledLexer.of_assemble h
    exact (of_restoreTables (of_orMalformed tables)).2.2

/-- Whatever a text is, the lexer that is restored from it has tables that fit together and the stored start conditions,
or there is an error of the compiler, or a fault of which the cause is known. -/
theorem read_restores_or_refuses (text : Text) :
    match read text with
    | .ok lexer => Restored lexer ∧ ∃ stored, Json.read text = .ok stored ∧ HasStoredConditions stored lexer
    | .error e => e.Expected (Unforeseen text) := by
  unfold read
  cases given : Json.read text with
  | ok stored =>
    dsimp only
    cases result : restore stored with
    | ok lexer =>
      obtain ⟨restored, conditions⟩ := restored_of_restore result
      exact ⟨restored, stored, rfl, conditions⟩
    | error e =>
      exact (failsWith_restore (Json.isJson_of_read given) e result).mono fun _ => .misshapen given
  | error fault =>
    cases fault with
    | malformed failure => exact .own rfl
    | longNumber => exact .fault (.longNumber given)

/-- Start conditions in a list are no malformed value, and a lexer without any start condition is restored. -/
theorem conditions_unchecked :
    faultOf (read "\x7b\"_format\": 1, \"rules\": [], \"actions\": [], \"conditions\": []\x7d".toList) =
        some "AttributeError" ∧
      (read "\x7b\"_format\": 1, \"rules\": [], \"actions\": [], \"conditions\": \x7b\x7d\x7d".toList).toOption.map
        (fun lexer => lexer.conditions.length) = some 0 := by
  decide +kernel

end Archive

end LexGen
