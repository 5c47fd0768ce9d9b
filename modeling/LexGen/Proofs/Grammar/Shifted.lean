import LexGen.Action.Body
import LexGen.Proofs.Grammar.Rearranged
import LexGen.Proofs.Outcome
import LexGen.Proofs.Text.Shifting

/-!
# Grammars with blocks of code moved to the right

A structured form holds blocks of code: the actions of its rules, the code before the actions and the code after the
unit. The lines of each can be moved to the right. All but the last kind are kept as they were given; the last one is
trimmed when the form is read.

* `Value.Shifted`, `PartShifted`: structured forms with blocks that have been moved.
* `Grammar.Shifted`: what is read of them.
* `shifted_ofEntries`: the one is read as the other, or both are refused for the same reason.
-/

namespace LexGen

/-! ## Values -/

/-- A block with its lines moved to the right. A value that is no text stays as it is. -/
inductive Value.Shifted (n : Nat) : Value → Value → Prop
  | block {block other : String} : Text.Shifted n block.toList other.toList → Shifted n (.str block) (.str other)
  | same {v : Value} : (∀ s, v ≠ .str s) → Shifted n v v

/-- An entry of a rule, whose action comes last, with the action moved. -/
inductive Value.EntryShifted : Value → Value → Prop
  | sequence {n : Nat} {entry other : Value} {front : List Value} {action action' : Value} :
    entry.sequence? = some (front ++ [action]) → other.sequence? = some (front ++ [action']) →
    Value.Shifted n action action' → EntryShifted entry other
  | rule {n : Nat} {states : Option (List Value)} {pattern action action' : Value} :
    Value.Shifted n action action' → EntryShifted (.rule states pattern action) (.rule states pattern action')
  | same {entry : Value} : EntryShifted entry entry

/-- The entries of rules, with actions that have been moved. -/
inductive Value.EntriesShifted : Value → Value → Prop
  | list {items others : List Value} :
    List.Forall₂ Value.EntryShifted items others → EntriesShifted (.list items) (.list others)
  | tuple {items others : List Value} :
    List.Forall₂ Value.EntryShifted items others → EntriesShifted (.tuple items) (.tuple others)
  | same {v : Value} : EntriesShifted v v

/-! ## Rules -/

/-- A rule with its action moved. -/
structure Rule.Shifted (rule other : Rule) : Prop where
  states : other.states = rule.states
  pattern : other.pattern = rule.pattern
  action : other.action = rule.action ∨
    ∃ n body body', Text.Shifted n body body' ∧ rule.action = .code body ∧ other.action = .code body'

namespace Rule

theorem Shifted.refl (rule : Rule) : rule.Shifted rule := ⟨rfl, rfl, .inl rfl⟩

theorem Shifted.agree_refl (x : Except Error Rule) : Agree Shifted x x := by
  cases x with
  | error e => exact .error e
  | ok rule => exact .ok (.refl rule)

theorem shifted_actionOf {n : Nat} {action action' : Value} (h : Value.Shifted n action action')
    (states : Option (List String)) (pattern : RulePattern) :
    Shifted ⟨states, pattern, actionOf action⟩ ⟨states, pattern, actionOf action'⟩ := by
  cases h with
  | block moved => exact ⟨rfl, rfl, .inr ⟨n, _, _, moved, rfl, rfl⟩⟩
  | same => exact .refl _

theorem ofEntry_of_sequence (index : Nat) {entry : Value} {items : List Value} (given : entry.sequence? = some items) :
    ofEntry index entry = ofEntry index (.list items) := by
  cases entry with
  | list | tuple =>
    cases given
    rfl
  | _ => cases given

/-- A text at the end of an entry is still there when the start conditions have been read. -/
theorem readStates_concat (index : Nat) (front : List Value) (block other : String) :
    Agree (fun read read' => read'.1 = read.1 ∧
        ∃ behind, read.2 = behind ++ [.str block] ∧ read'.2 = behind ++ [.str other])
      (readStates index (front ++ [.str block])) (readStates index (front ++ [.str other])) := by
  cases front with
  | nil => exact .ok ⟨rfl, [], rfl, rfl⟩
  | cons first front =>
    simp only [List.cons_append, readStates]
    split
    · exact .ok ⟨rfl, first :: front, rfl, rfl⟩
    · split
      · exact .error _
      · exact .ok ⟨rfl, front, rfl, rfl⟩

theorem shifted_ofList {n : Nat} {block other : String} (h : Text.Shifted n block.toList other.toList) (index : Nat)
    (front : List Value) :
    Agree Shifted (ofEntry index (.list (front ++ [.str block]))) (ofEntry index (.list (front ++ [.str other]))) := by
  simp only [ofEntry, Value.sequence?]
  refine (readStates_concat index front block other).bind fun read read' related => ?_
  obtain ⟨states, items⟩ := read
  obtain ⟨states', items'⟩ := read'
  obtain ⟨rfl, behind, rfl, rfl⟩ := related
  -- Only two items are a pattern and an action.
  match behind with
  | [] => cases states' <;> exact .error _
  | [pattern] =>
    dsimp only [List.cons_append, List.nil_append]
    cases patternOf pattern with
    | other v => exact .error _
    | text t => exact .ok (shifted_actionOf (.block h) _ _)
    | compiled t flags => exact .ok (shifted_actionOf (.block h) _ _)
  | first :: second :: behind =>
    cases behind <;> cases states' <;>
      simp only [List.cons_append, List.nil_append, List.length_cons, List.length_append] <;> exact .error _

theorem shifted_ofEntry (index : Nat) {entry other : Value} (h : Value.EntryShifted entry other) :
    Agree Shifted (ofEntry index entry) (ofEntry index other) := by
  cases h with
  | @sequence n entry other front action action' given given' moved =>
    rw [ofEntry_of_sequence index given, ofEntry_of_sequence index given']
    cases moved with
    | block moved => exact shifted_ofList moved index front
    | same => exact Shifted.agree_refl _
  | rule moved => exact .ok (shifted_actionOf moved _ _)
  | same => exact Shifted.agree_refl _

end Rule

/-! ## Parts -/

def actionIncludeNames : List String := ["actionInclude", "action_include"]

def moduleIncludeNames : List String := ["moduleInclude", "module_include"]

/-- A part of a structured form with its blocks moved. The blocks of code after the unit are moved by `n` spaces, any
other ones by any number of them. -/
inductive PartShifted (n : Nat) : Value × Value → Value × Value → Prop
  | rules {v other : Value} : Value.EntriesShifted v other → PartShifted n (.str "rules", v) (.str "rules", other)
  | actionInclude {name : String} {m : Nat} {v other : Value} :
    name ∈ actionIncludeNames → Value.Shifted m v other → PartShifted n (.str name, v) (.str name, other)
  | moduleInclude {name : String} {v other : Value} :
    name ∈ moduleIncludeNames → Value.Shifted n v other → PartShifted n (.str name, v) (.str name, other)
  | same {part : Value × Value} : (∀ name ∈ moduleIncludeNames, part.1 ≠ .str name) → PartShifted n part part

theorem Value.Shifted.missing {n : Nat} {v other : Value} (h : Value.Shifted n v other) :
    other = .none ↔ v = .none := by
  cases h with
  | block => simp
  | same => rfl

theorem Value.EntriesShifted.missing {v other : Value} (h : Value.EntriesShifted v other) :
    other = .none ↔ v = .none := by
  cases h with
  | list | tuple => simp
  | same => rfl

theorem Text.Shifted.unmoved (block : Text) : Text.Shifted 0 block block :=
  .lines (List.forall₂_same.2 fun line _ => .moved line)

theorem Value.Shifted.unmoved (v : Value) : Value.Shifted 0 v v := by
  cases v
  case str s => exact .block (.unmoved _)
  all_goals exact .same nofun

namespace Grammar

section Parts

variable {n : Nat} {entries others : List (Value × Value)} (parts : List.Forall₂ (PartShifted n) entries others)

include parts

theorem pick_shifted {R : Value → Value → Prop} {names : List String} (nothing : R .none .none)
    (missing : ∀ v other, R v other → (other = .none ↔ v = .none))
    (each : ∀ name ∈ names, ∀ v other, PartShifted n (.str name, v) (.str name, other) → R v other) :
    R (pick entries names) (pick others names) := by
  have keys (part other : Value × Value) (h : PartShifted n part other) : other.1 = part.1 := by
    cases h <;> rfl
  refine pick_related nothing missing fun name mem => get?_related parts keys fun part other h key => ?_
  obtain ⟨_, v⟩ := part
  obtain ⟨_, other⟩ := other
  obtain rfl := key
  obtain rfl := keys _ _ h
  exact each name mem v other h

theorem pick_rules : Value.EntriesShifted (pick entries ["rules"]) (pick others ["rules"]) := by
  refine pick_shifted parts .same (fun _ _ h => h.missing) fun name mem v other h => ?_
  obtain rfl := List.mem_singleton.1 mem
  cases h with
  | rules entries => exact entries
  | actionInclude named => simp [actionIncludeNames] at named
  | moduleInclude named => simp [moduleIncludeNames] at named
  | same => exact .same

theorem pick_actionInclude :
    ∃ m, Value.Shifted m (pick entries actionIncludeNames) (pick others actionIncludeNames) := by
  refine pick_shifted (R := fun v other => ∃ m, Value.Shifted m v other) parts ⟨0, .unmoved _⟩
    (fun _ _ h => h.choose_spec.missing) fun name mem v other h => ?_
  cases h with
  | rules => simp [actionIncludeNames] at mem
  | actionInclude _ moved => exact ⟨_, moved⟩
  | moduleInclude _ moved => exact ⟨_, moved⟩
  | same => exact ⟨0, .unmoved _⟩

theorem pick_moduleInclude : Value.Shifted n (pick entries moduleIncludeNames) (pick others moduleIncludeNames) := by
  refine pick_shifted parts (.same nofun) (fun _ _ h => h.missing) fun name mem v other h => ?_
  cases h with
  | rules => simp [moduleIncludeNames] at mem
  | actionInclude named =>
    simp only [actionIncludeNames, moduleIncludeNames, List.mem_cons, List.not_mem_nil, or_false] at mem named
    rcases mem with rfl | rfl <;> simp at named
  | moduleInclude _ moved => exact moved
  | same other => exact absurd rfl (other name mem)

theorem pick_plain {names : List String}
    (plain : ∀ name ∈ names, name ∉ "rules" :: (actionIncludeNames ++ moduleIncludeNames)) :
    pick others names = pick entries names := by
  refine (pick_shifted (R := Eq) parts rfl (fun _ _ h => h ▸ .rfl) fun name mem v other h => ?_).symm
  have other := plain name mem
  cases h with
  | rules => simp at other
  | actionInclude named => simp [named] at other
  | moduleInclude named => simp [named] at other
  | same => rfl

end Parts

/-! ## Readings -/

/-- A block that has been trimmed, before and after its lines have been moved. -/
inductive Trimmed (n : Nat) : Value → Value → Prop
  | block {block other : Text} :
    Text.Shifted n block other →
    Trimmed n (.str (String.ofList (Text.trim block))) (.str (String.ofList (Text.trim other)))
  | same {v : Value} : (∀ s, v ≠ .str s) → Trimmed n v v

theorem orElse_text (s : String) : orElse (.str s) (.str "") = .str s := by
  unfold orElse
  split
  · rfl
  · rename_i empty
    rw [show s = "" by simpa [Value.truthy] using empty]

theorem shifted_orElse {n : Nat} {v other : Value} (h : Value.Shifted n v other) :
    ∃ m, Value.Shifted m (orElse v (.str "")) (orElse other (.str "")) := by
  cases h with
  | block moved =>
    rw [orElse_text, orElse_text]
    exact ⟨n, .block moved⟩
  | same => exact ⟨0, .unmoved _⟩

theorem trimmed_shifted {n : Nat} {v other : Value} (h : Value.Shifted n v other) :
    Agree (Trimmed n) (trimmed (orElse v (.str ""))) (trimmed (orElse other (.str ""))) := by
  cases h with
  | block moved =>
    rw [orElse_text, orElse_text]
    exact .ok (.block moved)
  | same noText =>
    unfold orElse
    split
    · unfold trimmed
      split
      · exact absurd rfl (noText _)
      · exact .ok (.same nofun)
      · exact .error _
    · have empty : Text.Shifted n [] [] := .lines (.cons (.blank rfl) .nil)
      exact .ok (.block empty)

theorem items_shifted {v other : Value} (h : Value.EntriesShifted v other) :
    Agree (List.Forall₂ Value.EntryShifted) (liftM (orElse v (.tuple [])).items : Except Error (List Value))
      (liftM (orElse other (.tuple [])).items : Except Error (List Value)) := by
  cases h with
  | list entries =>
    cases entries with
    | nil => exact .ok .nil
    | cons first rest => exact .ok (.cons first rest)
  | tuple entries =>
    cases entries with
    | nil => exact .ok .nil
    | cons first rest => exact .ok (.cons first rest)
  | same =>
    cases (orElse v (.tuple [])).items with
    | error e => exact .error (Error.fault e)
    | ok items => exact .ok (List.forall₂_same.2 fun _ _ => .same)

/-! ## Grammars -/

/-- A grammar with its blocks moved. -/
structure Shifted (n : Nat) (grammar other : Grammar) : Prop where
  rules : List.Forall₂ Rule.Shifted grammar.rules other.rules
  macros : other.macros = grammar.macros
  conditions : other.conditions = grammar.conditions
  options : other.options = grammar.options
  actionInclude : ∃ m, Value.Shifted m grammar.actionInclude other.actionInclude
  moduleInclude : Trimmed n grammar.moduleInclude other.moduleInclude

theorem shifted_ofEntries {n : Nat} {entries others : List (Value × Value)}
    (parts : List.Forall₂ (PartShifted n) entries others) :
    Agree (Shifted n) (ofEntries entries) (ofEntries others) := by
  have conditions : pick others ["startConditions", "start_conditions"] =
      pick entries ["startConditions", "start_conditions"] := pick_plain parts (by decide)
  have options : pick others ["options"] = pick entries ["options"] := pick_plain parts (by decide)
  have macros : pick others ["macros"] = pick entries ["macros"] := pick_plain parts (by decide)
  have modules := trimmed_shifted (pick_moduleInclude parts)
  obtain ⟨m, actions⟩ := pick_actionInclude parts
  unfold ofEntries
  rw [conditions, options, macros]
  refine (items_shifted (pick_rules parts)).bind fun items items' h => ?_
  have entriesRead : Agree (List.Forall₂ Rule.Shifted) (items.zipIdx.mapM fun entry => Rule.ofEntry entry.2 entry.1)
      (items'.zipIdx.mapM fun entry => Rule.ofEntry entry.2 entry.1) :=
    .mapM (forall₂_zipIdx h (fun _ _ index moved => Rule.shifted_ofEntry index moved) 0)
  refine entriesRead.bind fun rules rules' h => ?_
  dsimp only
  split
  · refine .bind_same _ fun conditions => .bind_same _ fun options => .bind_same _ fun macros => ?_
    refine modules.bind fun moduleInclude moduleInclude' trimmed => .ok ?_
    exact ⟨h, rfl, rfl, rfl, shifted_orElse actions, trimmed⟩
  · exact .error _

/-! ## Sources -/

/-- What stands for a grammar, with the blocks moved: a structured form, a grammar that has been read from one, or a
text that is decoded as one. -/
inductive SourceShifted (parser : Option (Text → Except Error Value)) (n : Nat) : Value → Value → Prop
  | form {entries others : List (Value × Value)} :
    List.Forall₂ (PartShifted n) entries others → SourceShifted parser n (.dict entries) (.dict others)
  | grammar {entries others : List (Value × Value)} :
    List.Forall₂ (PartShifted n) entries others →
    SourceShifted parser n (.grammar (.dict entries)) (.grammar (.dict others))
  | text {text other : String} {entries others : List (Value × Value)} :
    (parser.getD decode) text.toList = .ok (.dict entries) →
    (parser.getD decode) other.toList = .ok (.dict others) →
    List.Forall₂ (PartShifted n) entries others → SourceShifted parser n (.str text) (.str other)

theorem shifted_ofSource {parser : Option (Text → Except Error Value)} {n : Nat} {source other : Value}
    (h : SourceShifted parser n source other) : Agree (Shifted n) (ofSource parser source) (ofSource parser other) := by
  cases h with
  | form parts => exact shifted_ofEntries parts
  | grammar parts => exact shifted_ofEntries parts
  | text decoded decoded' parts =>
    simp only [ofSource]
    rw [decoded, decoded']
    exact shifted_ofEntries parts

end Grammar

end LexGen
