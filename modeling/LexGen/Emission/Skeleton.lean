import LexGen.Settings
import LexGen.Text.Basic

/-!
# Skeletons

A skeleton is the frame of an emitted module. It holds placeholders, which are replaced in a single pass, so
that a placeholder inside a replacement stays as it is. A skeleton has to hold every placeholder, and every
placeholder has to have a replacement.
-/

namespace LexGen

/-- What is filled into a skeleton. -/
inductive Placeholder where
  | rules
  | conditions
  | options
  | actionInclude
  | stateActions
  deriving DecidableEq, Repr

namespace Placeholder

def all : List Placeholder := [rules, conditions, options, actionInclude, stateActions]

def name : Placeholder → String
  | rules => "RULES"
  | conditions => "CONDITIONS"
  | options => "OPTIONS"
  | actionInclude => "ACTION_INCLUDE"
  | stateActions => "STATE_ACTIONS"

def ofName? (name : String) : Option Placeholder :=
  all.find? fun p => p.name == name

def marker (p : Placeholder) : Text :=
  ['{', '{'] ++ p.name.toList ++ ['}', '}']

def atStart? (text : Text) : Option Placeholder :=
  all.find? fun p => Text.startsWith p.marker text

end Placeholder

namespace Skeleton

/-! ## Filling -/

/-- Replace the placeholders of a text. `skip` counts the characters of the current placeholder that are
still to be dropped. -/
def fill (value : Placeholder → Text) : (skip : Nat) → Text → Text
  | _, [] => []
  | skip + 1, _ :: text => fill value skip text
  | 0, c :: text =>
    match Placeholder.atStart? (c :: text) with
    | some p => value p ++ fill value (p.marker.length - 1) text
    | none => c :: fill value 0 text

def render (skeleton : Text) (values : List (Placeholder × Text)) : Except Error Text :=
  let missing := Placeholder.all.filter fun p => !Text.occursIn p.marker skeleton
  let unset := Placeholder.all.filter fun p => (values.lookup p).isNone
  if !missing.isEmpty then .error (.missingPlaceholders (missing.map Placeholder.name))
  else if !unset.isEmpty then
    .error (.skeleton ("No value for placeholder(s) " ++ ", ".intercalate (unset.map Placeholder.name)))
  else .ok (fill (fun p => (values.lookup p).getD []) 0 skeleton)

/-! ## The skeletons -/

def classLines : List Text := [
  Placeholder.actionInclude.marker,
  [],
  [],
  "class GeneratedLexer(Scanner):".toList,
  "    \"\"\"Scanner generated by relex.\"\"\"".toList,
  [],
  "    options = ".toList ++ Placeholder.options.marker,
  "    rules = ".toList ++ Placeholder.rules.marker,
  "    conditions = ".toList ++ Placeholder.conditions.marker,
  [],
  "    def perform_action(self, yy, yy_, rule_index, yy_start):".toList,
  Placeholder.stateActions.marker]

def className : Text := "GeneratedLexer".toList

def pathSteps (path : Text) : List Text :=
  (path.splitOn '/').filter fun step => !(step.isEmpty || step = ['.'])

/-- The directory that a path leads to, step by step, from a directory that is given by its own path in
reverse. Skeletons lie in one directory each, all below `templates`. -/
def follow? : (place steps : List Text) → Option (List Text)
  | place, [] => some place
  | place, step :: steps =>
    if step = ['.', '.'] then
      match place with
      | _ :: outer => follow? outer steps
      | [] => none
    else if place = ["templates".toList] ∧ step = "python".toList then follow? (step :: place) steps
    else if place = [] ∧ step = "templates".toList then follow? [step] steps
    else none

/-- The skeleton of a name. Names are paths, in which empty steps do not count. -/
def named (name : Value) : Except Error Text :=
  match name with
  | .str path =>
    if follow? ["templates".toList] (pathSteps path.toList) = some ["python".toList, "templates".toList] &&
        path.toList.head? ≠ some '/' then
      .ok (Text.join ['\n'] classLines)
    else .error (.noSkeleton path)
  | _ => .error (.fault .badType)

def load (settings : Settings) (name : Option String) : Except Error Text :=
  named (match name with
    | some name => if name.isEmpty then settings.skeleton else .str name
    | none => settings.skeleton)

end Skeleton

end LexGen
