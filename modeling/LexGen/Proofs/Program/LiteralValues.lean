import Mathlib.Data.List.Forall2
import LexGen.Program.Calls
import LexGen.Proofs.Program.ActionBody

/-!
# Values of tables

What the expressions of a table of a module stand for: literals, collections, and patterns that are compiled. They leave
the state as it is.

* `Evaluates`: an expression has a value in a module that has the module of patterns.
* `evaluates_list`, `evaluates_tuple`, `evaluates_set`, `evaluates_dict`: collections.
* `evaluates_compile`: patterns.
-/

namespace LexGen.Program

open Code Scanner

def tableScope : Scope := { globals := 0, frame := 0 }

def tableState : State Memory :=
  { world := { memory := { frames := [[(patternModule, .reference (.builtin patternModule))]] } } }

def Evaluates (x : Expr) (v : Value) : Prop :=
  outcome (evaluate makeCall tableScope x) tableState = (.ok v, tableState)

theorem evaluates_constant (c : Constant) : Evaluates (.constant c) c.value := rfl

theorem evaluates_minus {c : Constant} {v : Value} (minus : Value.unary .minus c.value = .ok v) :
    Evaluates (.unary .minus (.constant c)) v := by
  have value : outcome (evaluate makeCall tableScope (.constant c)) tableState = (.ok c.value, tableState) :=
    evaluates_constant c
  rw [Evaluates, evaluate, outcome_bind_ok value, minus]
  rfl

theorem Evaluates.single {x : Expr} {v : Value} (h : Evaluates x v) (y : Expr) : x ≠ .starred y := by
  rintro rfl
  cases congrArg Prod.fst h

/-! ## Collections -/

theorem outcome_evaluateAll {xs : List Expr} {vs : List Value} (h : List.Forall₂ Evaluates xs vs) :
    outcome (evaluateAll makeCall tableScope xs) tableState = (.ok vs, tableState) := by
  induction h with
  | nil => rfl
  | @cons x v xs vs one _ ih =>
    rw [evaluateAll, outcome_bind_ok one, outcome_bind_ok ih]
    · rfl
    · exact fun y => one.single y

theorem evaluates_list {xs : List Expr} {vs : List Value} (h : List.Forall₂ Evaluates xs vs) : Evaluates (.list xs) (.list vs) := by
  rw [Evaluates, evaluate, outcome_bind_ok (outcome_evaluateAll h)]
  rfl

theorem evaluates_tuple {xs : List Expr} {vs : List Value} (h : List.Forall₂ Evaluates xs vs) :
    Evaluates (.tuple xs) (.tuple vs) := by
  rw [Evaluates, evaluate, outcome_bind_ok (outcome_evaluateAll h)]
  rfl

theorem evaluates_set {xs : List Expr} {vs : List Value} (h : List.Forall₂ Evaluates xs vs)
    (hashable : Value.allHashable vs = true) (distinct : Value.distinct vs = vs) : Evaluates (.set xs) (.set vs) := by
  rw [Evaluates, evaluate, outcome_bind_ok (outcome_evaluateAll h), Value.setOf, if_pos hashable, distinct]
  rfl

theorem evaluates_emptySet (place : Place) : Evaluates (.call (.name "set" .load place) [] []) (.set []) := by
  rfl

/-- The entries of a mapping, key by key and value by value. -/
inductive EvaluatesEntry : Entry → Value × Value → Prop
  | pair {x y : Expr} {key v : Value} (first : Evaluates x key) (second : Evaluates y v) : EvaluatesEntry (.pair x y) (key, v)

theorem outcome_evaluateEntries {xs : List Entry} {entries : List (Value × Value)}
    (h : List.Forall₂ EvaluatesEntry xs entries) :
    outcome (evaluateEntries makeCall tableScope xs) tableState = (.ok entries, tableState) := by
  induction h with
  | nil => rfl
  | cons one _ ih =>
    obtain ⟨first, second⟩ := one
    rw [evaluateEntries, outcome_bind_ok first, outcome_bind_ok second, outcome_bind_ok ih]
    rfl

theorem evaluates_dict {xs : List Entry} {entries : List (Value × Value)} (h : List.Forall₂ EvaluatesEntry xs entries)
    (hashable : Value.allHashable (entries.map (·.1)) = true) (distinct : Value.dictOf entries = entries) :
    Evaluates (.dict xs) (.dict entries) := by
  rw [Evaluates, evaluate, outcome_bind_ok (outcome_evaluateEntries h), collect, if_pos hashable, distinct]
  rfl

/-! ## Patterns -/

theorem evaluates_ignoreCase (place : Place) :
    Evaluates (.attribute (.name "re" .load place) "I") (.int PatternFlags.ignoreCase) := by
  rfl

theorem evaluates_compile (place : Place) {xs : List Expr} {vs : List Value} (h : List.Forall₂ Evaluates xs vs) {v : Value}
    (compiled : outcome (compilePattern vs []) tableState = (.ok v, tableState)) :
    Evaluates (.call (.attribute (.name "re" .load place) "compile") xs []) v := by
  have module : outcome (evaluate makeCall tableScope (.name "re" .load place)) tableState =
      (.ok (.reference (.builtin patternModule)), tableState) := rfl
  have function : outcome (readAttribute (.reference (.builtin patternModule)) "compile") tableState =
      (.ok (.reference (.builtin patternCompiler)), tableState) := rfl
  have noKeywords : outcome (evaluateKeywords makeCall tableScope [] []) tableState = (.ok [], tableState) := rfl
  have builtin : pureFunction? patternCompiler vs [] = none := rfl
  have call : outcome (makeCall (.reference (.builtin patternCompiler)) vs []) tableState = (.ok v, tableState) := by
    change outcome (applyBuiltin (callTo 899) patternCompiler vs []) tableState = _
    unfold applyBuiltin
    rw [builtin]
    exact compiled
  rw [Evaluates, evaluate, outcome_bind_ok module, outcome_bind_ok function, outcome_bind_ok (outcome_evaluateAll h),
    outcome_bind_ok noKeywords]
  exact call

end LexGen.Program
