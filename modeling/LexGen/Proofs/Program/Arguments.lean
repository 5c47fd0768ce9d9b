import LexGen.Action.Callback
import LexGen.Program.Module
import LexGen.Proofs.Failure
import Mathlib.Data.List.Nodup

/-!
# Calling callables with what they declare

The compiler asks a callable which parts of the state of the scanner it declares, and refuses one that needs more. The
scanner calls it with these parts, each by its name.

* `argumentsFor_answers`: a callable is refused for a parameter that is no part of the state and has no default, and
  otherwise gets the parts that it declares, or all parts if it takes arguments of any name.
* `bindArguments_named_iff`: which arguments by name a signature takes.
* `declared_parts_bind_iff`: a refused callable takes no choice of parts, and an accepted one takes what it gets unless
  a part is declared for arguments in order only.
* `positional_part_refused`: a callable that is accepted for this reason and cannot be called.
-/

/-! ## Signatures -/

namespace LexGen.ParameterKind

def rank : ParameterKind → Nat
  | positionalOnly => 0
  | positionalOrKeyword => 1
  | positionals => 2
  | keywordOnly => 3
  | keywords => 4

def takesOne : ParameterKind → Bool
  | positionals | keywords => false
  | _ => true

def takesByName : ParameterKind → Bool
  | positionalOrKeyword | keywordOnly => true
  | _ => false

/-- Whether a parameter of one kind may stand before one of another. Only one parameter takes what remains of the
arguments in order, and only one what remains of those by name. -/
def MayPrecede (first second : ParameterKind) : Prop :=
  first.rank < second.rank ∨ first = second ∧ first.takesOne = true

instance (first second : ParameterKind) : Decidable (first.MayPrecede second) :=
  inferInstanceAs (Decidable (_ ∨ _))

theorem takesByName_of_ne {kind : ParameterKind} (one : kind.takesOne = true) (other : kind ≠ positionalOnly) :
    kind.takesByName = true := by
  cases kind with
  | positionalOnly => exact absurd rfl other
  | positionals | keywords => cases one
  | positionalOrKeyword | keywordOnly => rfl

theorem not_mayPrecede_keywords (kind : ParameterKind) : ¬ keywords.MayPrecede kind := by
  cases kind <;> decide

end LexGen.ParameterKind

namespace LexGen.Program

open Action

/-- The parameters of a callable, with their values when there is no argument. -/
structure IsSignature (params : List (Parameter × Option Value)) : Prop where
  distinct : (params.map (·.1.name)).Nodup
  ordered : params.Pairwise fun p q => p.1.kind.MayPrecede q.1.kind
  fallbacks : ∀ p ∈ params, p.1.hasDefault = p.2.isSome

def TakesAnyName (params : List Parameter) : Prop := ∃ p ∈ params, p.kind = .keywords

def IsForeign (p : Parameter) : Prop :=
  p.kind.takesOne = true ∧ p.name ∉ callbackArguments ∧ p.hasDefault = false

def declaredParts (params : List Parameter) : List String :=
  (params.filter fun p => p.kind.takesOne && callbackArguments.contains p.name).map (·.name)

theorem mem_declaredParts {params : List Parameter} {name : String} :
    name ∈ declaredParts params ↔
      name ∈ callbackArguments ∧ ∃ p ∈ params, p.kind.takesOne = true ∧ p.name = name := by
  simp only [declaredParts, List.mem_map, List.mem_filter, Bool.and_eq_true, List.contains_iff_mem]
  constructor
  · rintro ⟨p, ⟨mem, one, part⟩, rfl⟩
    exact ⟨part, p, mem, one, rfl⟩
  · rintro ⟨part, p, mem, one, rfl⟩
    exact ⟨p, ⟨mem, one, part⟩, rfl⟩

/-! ## What the compiler finds out -/

/-- What the compiler answers about a callable with the given parameters, when `found` has been found before. -/
inductive Answers (rule : Int) (found : List String) (params : List Parameter) : Except Error (List String) → Prop
  | refused (foreign : ∃ p ∈ params, IsForeign p) (message : String) :
    Answers rule found params (.error (.malformedRule rule message))
  | everything (known : ∀ p ∈ params, ¬ IsForeign p) (any : TakesAnyName params) :
    Answers rule found params (.ok callbackArguments)
  | declared (known : ∀ p ∈ params, ¬ IsForeign p) (some : ¬ TakesAnyName params) :
    Answers rule found params (.ok (found ++ declaredParts params))

/-- A parameter that neither is foreign nor takes arguments of any name leaves the answer to those after it. -/
theorem Answers.cons {rule : Int} {found found' : List String} {p : Parameter} {params : List Parameter}
    {answer : Except Error (List String)} (h : Answers rule found' params answer) (own : ¬ IsForeign p)
    (other : p.kind ≠ .keywords) (parts : found' ++ declaredParts params = found ++ declaredParts (p :: params)) :
    Answers rule found (p :: params) answer := by
  cases h with
  | refused foreign message =>
    obtain ⟨q, mem, foreign⟩ := foreign
    exact .refused ⟨q, List.mem_cons_of_mem _ mem, foreign⟩ message
  | everything known any =>
    obtain ⟨q, mem, keywords⟩ := any
    exact .everything (List.forall_mem_cons.2 ⟨own, known⟩) ⟨q, List.mem_cons_of_mem _ mem, keywords⟩
  | declared known some =>
    rw [parts]
    exact .declared (List.forall_mem_cons.2 ⟨own, known⟩) (by simpa [TakesAnyName, other] using some)

/-- A callable is refused for a foreign parameter. One that is not refused gets all parts if it takes arguments of any
name, and the parts that it declares otherwise. -/
theorem argumentsFor_answers (rule : Int) (found : List String) {params : List Parameter}
    (ordered : params.Pairwise fun p q => p.kind.MayPrecede q.kind) :
    Answers rule found params (argumentsFor rule found params) := by
  induction params generalizing found with
  | nil =>
    have answer : Answers rule found [] (.ok (found ++ declaredParts [])) :=
      .declared (by simp) (by simp [TakesAnyName])
    rwa [declaredParts, List.filter_nil, List.map_nil, List.append_nil] at answer
  | cons p params ih =>
    obtain ⟨before, ordered⟩ := List.pairwise_cons.1 ordered
    by_cases keywords : p.kind = .keywords
    · have last : params = [] := by
        refine List.eq_nil_iff_forall_not_mem.2 fun q mem => ?_
        exact ParameterKind.not_mayPrecede_keywords _ (keywords ▸ before q mem)
      have taken : p.kind.takesOne = false := by rw [keywords]; rfl
      rw [argumentsFor, keywords, last]
      exact .everything (by simp [IsForeign, taken]) ⟨p, List.mem_cons_self, keywords⟩
    by_cases positionals : p.kind = .positionals
    · have taken : p.kind.takesOne = false := by rw [positionals]; rfl
      rw [argumentsFor, positionals]
      exact (ih found ordered).cons (by simp [IsForeign, taken]) keywords (by simp [declaredParts, taken])
    have one : p.kind.takesOne = true := by
      cases kind : p.kind <;> simp_all [ParameterKind.takesOne]
    have step : argumentsFor rule found (p :: params) =
        if callbackArguments.contains p.name then argumentsFor rule (found ++ [p.name]) params
        else if p.hasDefault then argumentsFor rule found params
        else .error (.malformedRule rule ("action parameter " ++ quote p.name ++ " is not an action variable")) := by
      rw [argumentsFor]
      split
      · contradiction
      · contradiction
      · rfl
    rw [step]
    by_cases part : p.name ∈ callbackArguments
    · rw [if_pos (List.contains_iff_mem.2 part)]
      exact (ih _ ordered).cons (fun foreign => foreign.2.1 part) keywords (by simp [declaredParts, one, part])
    · rw [if_neg (by simpa using part)]
      cases optional : p.hasDefault with
      | true =>
        exact (ih found ordered).cons (by simp [IsForeign, optional]) keywords (by simp [declaredParts, part])
      | false => exact .refused ⟨p, List.mem_cons_self, one, part, optional⟩ _

/-! ## What a call takes -/

theorem isSome_lookup {named : Named} {name : String} :
    (named.lookup name).isSome = true ↔ ∃ entry ∈ named, entry.1 = name := by
  induction named with
  | nil => simp
  | cons entry named ih =>
    obtain ⟨key, v⟩ := entry
    rw [List.lookup_cons]
    by_cases same : name = key
    · simp [same]
    · rw [beq_false_of_ne same, ih]
      simp [Ne.symm same]

theorem mapM_ok_iff {α β ε : Type} {f : α → Except ε β} {items : List α} :
    (∃ results, items.mapM f = .ok results) ↔ ∀ item ∈ items, ∃ b, f item = .ok b := by
  induction items with
  | nil => simp [pure, Except.pure]
  | cons item items ih =>
    rw [List.mapM_cons, List.forall_mem_cons, ← ih]
    cases first : f item with
    | error e => simp [bind, Except.bind]
    | ok b =>
      cases rest : items.mapM f with
      | error e => simp [bind, Except.bind]
      | ok results => simp [bind, Except.bind, pure, Except.pure]

def takesName (params : List (Parameter × Option Value)) (name : String) : Bool :=
  params.any fun (p, _) => p.name == name && (p.kind = .positionalOrKeyword || p.kind = .keywordOnly)

theorem takesName_iff {params : List (Parameter × Option Value)} {name : String} :
    takesName params name = true ↔ ∃ p ∈ params, p.1.name = name ∧ p.1.kind.takesByName = true := by
  have byName (kind : ParameterKind) :
      (decide (kind = .positionalOrKeyword) || decide (kind = .keywordOnly)) = kind.takesByName := by
    cases kind <;> rfl
  simp only [takesName, byName, List.any_eq_true, Bool.and_eq_true, beq_iff_eq]

/-- The value of a parameter in a call by names: that of its argument, or else its default. -/
def namedValue (params : List (Parameter × Option Value)) (named : Named) (p : Parameter × Option Value) :
    Option Value :=
  ((named.filter fun entry => takesName params entry.1).lookup p.1.name).or p.2

def namedBinding (params : List (Parameter × Option Value)) (named : Named) (p : Parameter × Option Value) :
    Except Fault (String × Value) :=
  match p.1.kind with
  | .positionals => .ok (p.1.name, .tuple [])
  | .keywords =>
    .ok (p.1.name, .dict ((named.filter fun entry => !takesName params entry.1).map fun entry =>
      (.str entry.1, entry.2)))
  | _ =>
    match namedValue params named p with
    | some v => .ok (p.1.name, v)
    | none => .error .badType

theorem bindArguments_named (params : List (Parameter × Option Value)) (named : Named) :
    bindArguments params [] named =
      if !(named.filter fun entry => !takesName params entry.1).isEmpty && !params.any (·.1.kind = .keywords) then
        .error .badType
      else params.mapM (namedBinding params named) := by
  have none (entries : Named) : entries.any (fun _ => false) = false := by simp
  unfold bindArguments namedBinding namedValue takesName
  simp only [List.zip_nil_right, List.drop_nil, List.isEmpty_nil, Bool.not_true, Bool.false_and, Bool.false_or,
    List.lookup_nil, Option.isSome_none, none, List.nil_append]
  split <;> rfl

theorem namedBinding_ok_iff {params : List (Parameter × Option Value)} {named : Named}
    {p : Parameter × Option Value} :
    (∃ binding, namedBinding params named p = .ok binding) ↔
      (p.1.kind.takesOne = true → (namedValue params named p).isSome = true) := by
  unfold namedBinding
  cases p.1.kind <;> cases namedValue params named p <;> simp [ParameterKind.takesOne]

theorem IsSignature.takesName {params : List (Parameter × Option Value)} (sig : IsSignature params)
    {p : Parameter × Option Value} (mem : p ∈ params) :
    Program.takesName params p.1.name = p.1.kind.takesByName := by
  rw [Bool.eq_iff_iff, takesName_iff]
  constructor
  · rintro ⟨q, other, same, takes⟩
    rwa [List.inj_on_of_nodup_map sig.distinct other mem same] at takes
  · exact fun takes => ⟨p, mem, rfl, takes⟩

/-- A call by names binds if every name is taken and every parameter without a default gets an argument by its name. -/
theorem bindArguments_named_iff {params : List (Parameter × Option Value)} (sig : IsSignature params) (named : Named) :
    (∃ bindings, bindArguments params [] named = .ok bindings) ↔
      (TakesAnyName (params.map (·.1)) ∨ ∀ entry ∈ named, takesName params entry.1 = true) ∧
      ∀ p ∈ params, p.1.kind.takesOne = true → p.1.hasDefault = false →
        p.1.kind.takesByName = true ∧ ∃ entry ∈ named, entry.1 = p.1.name := by
  have value {p : Parameter × Option Value} (mem : p ∈ params) : (namedValue params named p).isSome = true ↔
      (p.1.hasDefault = false → p.1.kind.takesByName = true ∧ ∃ entry ∈ named, entry.1 = p.1.name) := by
    rw [namedValue, Option.isSome_or, Bool.or_eq_true, ← sig.fallbacks p mem, isSome_lookup, or_comm,
      ← Bool.not_eq_false, ← imp_iff_not_or, ← sig.takesName mem]
    simp only [List.mem_filter]
    refine imp_congr_right fun _ => ⟨?_, ?_⟩
    · rintro ⟨entry, ⟨given, takes⟩, same⟩
      exact ⟨same ▸ takes, entry, given, same⟩
    · rintro ⟨takes, entry, given, same⟩
      exact ⟨entry, ⟨given, same ▸ takes⟩, same⟩
  have taken : (!(named.filter fun entry => !takesName params entry.1).isEmpty &&
      !params.any (·.1.kind = .keywords)) = false ↔
        TakesAnyName (params.map (·.1)) ∨ ∀ entry ∈ named, takesName params entry.1 = true := by
    rw [Bool.and_eq_false_iff, Bool.not_eq_false', Bool.not_eq_false', List.isEmpty_iff, List.filter_eq_nil_iff,
      or_comm]
    simp [TakesAnyName]
  rw [bindArguments_named, ← taken]
  cases refused : (!(named.filter fun entry => !takesName params entry.1).isEmpty &&
      !params.any (·.1.kind = .keywords)) with
  | true => simp
  | false =>
    rw [if_neg Bool.false_ne_true, mapM_ok_iff]
    simp only [namedBinding_ok_iff, true_and]
    exact forall₂_congr fun p mem => imp_congr_right fun _ => value mem

/-! ## Accepted callables -/

/-- A parameter for arguments in order only that has the name of a part of the state. The part cannot be given to it by
name; nothing is missing only if it has a default and the name goes to what takes arguments of any name. -/
def PositionalPartsSpared (params : List Parameter) : Prop :=
  ∀ p ∈ params, p.kind = .positionalOnly → p.name ∈ callbackArguments → p.hasDefault = true ∧ TakesAnyName params

/-- A callable is accepted or refused. An accepted one can be called with the parts that it gets, each by its name, if
and only if no part is declared by a parameter for arguments in order only, a spared one apart. A refused one cannot be
called with any choice of parts. -/
theorem declared_parts_bind_iff {params : List (Parameter × Option Value)} (sig : IsSignature params) {c : Callable}
    (declares : c.parameters? = some (params.map (·.1))) (rule : Int) :
    (∃ names, callbackParameters rule c = .ok names ∧ ∀ value : String → Value,
      (∃ bindings, bindArguments params [] (names.map fun name => (name, value name)) = .ok bindings) ↔
        PositionalPartsSpared (params.map (·.1))) ∨
    (∃ message, callbackParameters rule c = .error (.malformedRule rule message) ∧
      ∀ named : Named, (∀ entry ∈ named, entry.1 ∈ callbackArguments) →
        ¬ ∃ bindings, bindArguments params [] named = .ok bindings) := by
  have ordered : (params.map (·.1)).Pairwise fun p q => p.kind.MayPrecede q.kind :=
    List.pairwise_map.2 sig.ordered
  have asked : callbackParameters rule c = argumentsFor rule [] (params.map (·.1)) := by
    rw [callbackParameters, declares]
  have answers := argumentsFor_answers rule [] ordered
  rw [← asked] at answers
  -- What an accepted callable needs is among the parts that it gets.
  have needed (known : ∀ p ∈ params.map (·.1), ¬ IsForeign p) {p : Parameter × Option Value} (mem : p ∈ params)
      (one : p.1.kind.takesOne = true) (required : p.1.hasDefault = false) : p.1.name ∈ callbackArguments :=
    Classical.not_not.1 fun unknown => known p.1 (List.mem_map_of_mem mem) ⟨one, unknown, required⟩
  have byName (spared : PositionalPartsSpared (params.map (·.1))) {p : Parameter × Option Value} (mem : p ∈ params)
      (one : p.1.kind.takesOne = true) (required : p.1.hasDefault = false) (part : p.1.name ∈ callbackArguments) :
      p.1.kind.takesByName = true := by
    refine ParameterKind.takesByName_of_ne one fun positional => ?_
    have optional := (spared p.1 (List.mem_map_of_mem mem) positional part).1
    exact Bool.false_ne_true (required.symm.trans optional)
  generalize callbackParameters rule c = answer at answers
  cases answers with
  | refused foreign message =>
    refine .inr ⟨message, rfl, fun named parts => ?_⟩
    obtain ⟨q, declared, one, unknown, required⟩ := foreign
    obtain ⟨p, mem, rfl⟩ := List.mem_map.1 declared
    rw [bindArguments_named_iff sig]
    rintro ⟨-, gets⟩
    obtain ⟨-, entry, given, same⟩ := gets p mem one required
    exact unknown (same ▸ parts entry given)
  | everything known any =>
    refine .inl ⟨_, rfl, fun value => ?_⟩
    rw [bindArguments_named_iff sig]
    constructor
    · rintro ⟨-, gets⟩ q declared positional -
      obtain ⟨p, mem, rfl⟩ := List.mem_map.1 declared
      refine ⟨Bool.of_not_eq_false fun required => ?_, any⟩
      have takes := (gets p mem (by rw [positional]; rfl) required).1
      rw [positional] at takes
      cases takes
    · intro spared
      refine ⟨.inl any, fun p mem one required => ?_⟩
      have part := needed known mem one required
      exact ⟨byName spared mem one required part, _, List.mem_map_of_mem part, rfl⟩
  | declared known some =>
    refine .inl ⟨_, rfl, fun value => ?_⟩
    rw [bindArguments_named_iff sig, List.nil_append]
    constructor
    · rintro ⟨taken, -⟩ q declared positional part
      obtain ⟨p, mem, rfl⟩ := List.mem_map.1 declared
      have given : p.1.name ∈ declaredParts (params.map (·.1)) :=
        mem_declaredParts.2 ⟨part, p.1, List.mem_map_of_mem mem, by rw [positional]; rfl, rfl⟩
      have takes := taken.resolve_left some _ (List.mem_map_of_mem given)
      rw [sig.takesName mem, positional] at takes
      cases takes
    · intro spared
      refine ⟨.inr ?_, fun p mem one required => ?_⟩
      · rw [List.forall_mem_map]
        intro name given
        obtain ⟨part, q, declared, one, rfl⟩ := mem_declaredParts.1 given
        obtain ⟨p, mem, rfl⟩ := List.mem_map.1 declared
        rw [sig.takesName mem]
        exact ParameterKind.takesByName_of_ne one fun positional => some (spared p.1 declared positional part).2
      · have part := needed known mem one required
        have given := mem_declaredParts.2 ⟨part, p.1, List.mem_map_of_mem mem, one, rfl⟩
        exact ⟨byName spared mem one required part, _, List.mem_map_of_mem given, rfl⟩

def scaling : List (Parameter × Option Value) :=
  [(⟨"yytext", .positionalOnly, true⟩, some (.str "")), (⟨"scale", .positionalOrKeyword, true⟩, some (.int 2)),
    (⟨"rest", .positionals, false⟩, none), (⟨"yylineno", .keywordOnly, false⟩, none),
    (⟨"others", .keywords, false⟩, none)]

def scalingAction : Callable :=
  ⟨"<function action>", "function", some "action", some (scaling.map (·.1)), .unavailable, .builtin "action"⟩

theorem declared_parts_bind_scaling :
    IsSignature scaling ∧ scalingAction.parameters? = some (scaling.map (·.1)) ∧
      ∃ names, callbackParameters 0 scalingAction = .ok names ∧
        ∃ bindings, bindArguments scaling [] (names.map fun name => (name, .str name)) = .ok bindings := by
  have sig : IsSignature scaling := ⟨by decide, by decide, by simp [scaling]⟩
  have accepted : callbackParameters 0 scalingAction = .ok callbackArguments := rfl
  have spared : PositionalPartsSpared (scaling.map (·.1)) := by
    simp [PositionalPartsSpared, TakesAnyName, scaling, callbackArguments]
  refine ⟨sig, rfl, ?_⟩
  rcases declared_parts_bind_iff sig (c := scalingAction) rfl 0 with ⟨names, given, binds⟩ | ⟨message, refused, -⟩
  · exact ⟨names, given, (binds Value.str).2 spared⟩
  · rw [accepted] at refused
    cases refused

/-! ## A part that is declared for arguments in order -/

def inOrderOnly : Text := "def action(yytext, /):\n    return 'W'".toList

/-- The parts that a callable gets, and the kind of the fault that the call of it with these parts ends with. -/
def partsAndFault (definition : Text) : Except Error (List String × Option String) := do
  match ← valueFrom "callables" definition "action" with
  | .callable c => do
    let names ← callbackParameters 0 c
    let run : Exec Value := do (BoundAction.callback (← loadCallable c) names).run makeCall initialCondition
    return (names, faultOf (runAlone run))
  | _ => throw (.fault .badType)

theorem positional_part_refused :
    (partsAndFault inOrderOnly).toOption = some (["yytext"], some "TypeError") := by
  decide +kernel

end LexGen.Program
