import LexGen.Scanner.State

/-!
# The stack of start conditions
-/

namespace LexGen.Scanner.State

variable {σ : Type}

def begin (condition : String) (s : State σ) : State σ :=
  { s with conditions := condition :: s.conditions }

/-- Go back to the condition before, unless there is only one. Yields the condition that was left. -/
def popState (s : State σ) : Option (String × State σ) :=
  match s.conditions with
  | [] => none
  | [condition] => some (condition, s)
  | condition :: others => some (condition, { s with conditions := others })

/-- The condition that many levels below the current one. The sign of the number is ignored. -/
def topState (n : Int) (s : State σ) : String :=
  s.conditions.getD n.natAbs initialCondition

end LexGen.Scanner.State
