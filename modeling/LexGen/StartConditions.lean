import LexGen.Grammar

/-!
# Start conditions

A start condition is a state of the scanner in which only some rules are active. A rule without a list of
conditions is active in every inclusive one; a rule whose list begins with the wildcard is active in all; any
other rule is active exactly in the listed ones. The condition `INITIAL` always exists and is inclusive.
-/

namespace LexGen

/-- A start condition and the rules that are active in it, by their positions. -/
structure StartCondition where
  name : String
  inclusive : Bool
  rules : List Nat
  deriving DecidableEq, Repr

def initialCondition : String := "INITIAL"

namespace StartConditions

def mark (name : String) (inclusive : Bool) : List (String × Bool) → List (String × Bool)
  | [] => [(name, inclusive)]
  | (other, old) :: table =>
    if name = other then (other, inclusive) :: table else (other, old) :: mark name inclusive table

/-- The conditions and whether they are inclusive, from the declared conditions and whether they are
exclusive. `INITIAL` is always among them and always inclusive. -/
def prepare (declared : List (String × Bool)) : List (String × Bool) :=
  mark initialCondition true (declared.map fun (name, exclusive) => (name, !exclusive))

def targets (table : List (String × Bool)) (rule : Rule) : List String :=
  match rule.states with
  | none => (table.filter (·.2)).map (·.1)
  | some states => if rule.isWildcard then table.map (·.1) else states

def undeclared? (table : List (String × Bool)) (rule : Rule) : Option String :=
  (targets table rule).find? fun name => !(table.map (·.1)).contains name

def members (table : List (String × Bool)) (rules : List Rule) (name : String) : List Nat :=
  (rules.zipIdx.filter fun (rule, _) => (targets table rule).contains name).map (·.2)

def checkRule (table : List (String × Bool)) (rule : Rule) (index : Nat) : Except Error Unit :=
  match undeclared? table rule with
  | some name => .error (.undeclaredState name index)
  | none => .ok ()

def resolve (declared : List (String × Bool)) (rules : List Rule) : Except Error (List StartCondition) := do
  let table := prepare declared
  rules.zipIdx.forM fun (rule, index) => checkRule table rule index
  return table.map fun (name, inclusive) => ⟨name, inclusive, members table rules name⟩

end StartConditions

end LexGen
