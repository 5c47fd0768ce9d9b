import LexGen.Proofs.CompiledLexer.Scanning
import LexGen.Proofs.Program.ActionBody

/-!
# Actions that move between start conditions

Many lexers have actions that yield a token or go to another start condition and do nothing else.

* `Moves`: such an action.
* `moves_yield`, `moves_begin`, `moves_popState`, `Moves.bind`: what such actions consist of.
* `Acts`: actions of a scanner of which those of the grammar are such actions.
-/

namespace LexGen.CompiledLexer

open Scanner Program

variable {grammar : Grammar}

/-! ## Moves -/

/-- The stacks that a stack of start conditions becomes by moves between inclusive conditions. -/
inductive Moved (grammar : Grammar) (stack : List String) : List String → Prop
  | refl : Moved grammar stack stack
  | begin {name : String} {now : List String} :
    Moved grammar stack now → grammar.Includes (conditionOf name) → Moved grammar stack (name :: now)
  | pop {left name : String} {others : List String} :
    Moved grammar stack (left :: name :: others) → Moved grammar stack (name :: others)

def Inclusive (grammar : Grammar) (stack : List String) : Prop :=
  stack ≠ [] ∧ ∀ name ∈ stack, grammar.Includes (conditionOf name)

/-- An action that yields a value and does nothing but move between inclusive conditions. What it keeps in memory is
left open, as long as the memory stays one of those that actions are run with. -/
def Moves (grammar : Grammar) (ready : Memory → Prop) (action : Exec Value) : Prop :=
  ∀ s : State Memory, ready s.world.memory → Inclusive grammar s.conditions → ∃ v conditions memory,
    outcome action s = (.ok v, { s with conditions, world := { s.world with memory } }) ∧
      Moved grammar s.conditions conditions ∧ ready memory

theorem Moved.inclusive {stack now : List String} (moved : Moved grammar stack now)
    (inclusive : Inclusive grammar stack) : Inclusive grammar now := by
  induction moved with
  | refl => exact inclusive
  | begin _ included ih => exact ⟨List.cons_ne_nil _ _, List.forall_mem_cons.2 ⟨included, ih.2⟩⟩
  | pop _ ih => exact ⟨List.cons_ne_nil _ _, (List.forall_mem_cons.1 ih.2).2⟩

theorem Moved.trans {stack between now : List String} (first : Moved grammar stack between)
    (second : Moved grammar between now) : Moved grammar stack now := by
  induction second with
  | refl => exact first
  | begin _ included ih => exact .begin ih included
  | pop _ ih => exact .pop ih

section Moves

variable {ready : Memory → Prop}

theorem Moves.bind {first : Exec Value} {next : Value → Exec Value} (moves : Moves grammar ready first)
    (others : ∀ v, Moves grammar ready (next v)) : Moves grammar ready (first >>= next) := by
  intro s memory inclusive
  obtain ⟨v, conditions, m, ended, moved, memory⟩ := moves s memory inclusive
  obtain ⟨w, conditions', m', ended', moved', memory⟩ :=
    others v { s with conditions, world := { s.world with memory := m } } memory (moved.inclusive inclusive)
  refine ⟨w, conditions', m', ?_, moved.trans moved', memory⟩
  rw [outcome_bind_ok ended, ended']

theorem moves_yield (v : Value) : Moves grammar ready (return v) :=
  fun s memory _ => ⟨v, s.conditions, s.world.memory, rfl, .refl, memory⟩

theorem moves_begin {name : String} (included : grammar.Includes (conditionOf name)) (call : Call) :
    Moves grammar ready (operate call (.begin name)) :=
  fun s memory _ => ⟨.none, name :: s.conditions, s.world.memory, rfl, .begin .refl included, memory⟩

theorem outcome_popState (call : Call) {s : State Memory} {name : String} {others : List String}
    (stack : s.conditions = name :: others) :
    outcome (operate call .popState) s =
      (.ok (.str name), { s with conditions := if others.isEmpty then s.conditions else others }) := by
  cases s
  obtain rfl := stack
  cases others <;> rfl

theorem moves_popState (call : Call) : Moves grammar ready (operate call .popState) := by
  intro s memory inclusive
  obtain ⟨name, others, stack⟩ := List.exists_cons_of_ne_nil inclusive.1
  refine ⟨.str name, if others.isEmpty then s.conditions else others, s.world.memory,
    outcome_popState call stack, ?_, memory⟩
  rw [stack]
  cases others with
  | nil => exact .refl
  | cons next others => exact .pop .refl

end Moves

/-! ## The actions of a scanner -/

/-- Memories that actions are run with: calls leave frames behind, and nothing stands in the place of what the scanner
has. -/
structure Usable (ready : Memory → Prop) : Prop where
  plain : ∀ m, ready m → m.Plain
  framed : ∀ m bindings, ready m → ready { m with frames := m.frames ++ [bindings] }

def RunsEntry (ready : Memory → Prop) (entry : ActionEntry) (action : String → Exec Value) : Prop :=
  ∃ depth globals source, entry.source = .ok source ∧ ∀ condition (s : State Memory), ready s.world.memory →
    outcome (action condition) s =
      outcome (runStatements (callTo (depth + 1)) globals (ruleFunction entry.rule) source condition) s

/-- Actions of a scanner: those of the rules of the grammar move between conditions, and that of the rule behind them
runs what the rule has been compiled to. -/
structure Acts (grammar : Grammar) (lexer : CompiledLexer) (ready : Memory → Prop)
    (action : Nat → String → Exec Value) : Prop where
  own : ∀ i < grammar.rules.length, ∀ condition, Moves grammar ready (action i condition)
  last : ∃ entry, lexer.actions[grammar.rules.length]? = some entry ∧
    RunsEntry ready entry (action grammar.rules.length)

end LexGen.CompiledLexer
