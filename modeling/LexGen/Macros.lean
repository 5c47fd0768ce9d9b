import LexGen.Journal
import LexGen.Settings
import LexGen.Unicode.Word

/-!
# Macros

A macro is a named fragment of a pattern. A placeholder, the name of a macro between braces, stands for the
fragment in parentheses, so that an operator after it applies to the whole fragment. A table of macros is
expanded by passes over all fragments until a pass changes nothing; tables with a cycle of references are
refused.
-/

namespace LexGen

abbrev Macros := List (Text × Text)

namespace Macros

/-! ## References -/

def isNameStart (c : Char) : Bool := c.isAlpha || c == '_'

def isNamePart (c : Char) : Bool := Unicode.isWord c || c == '-'

def placeholder? : Text → Option Text
  | '{' :: c :: text =>
    if isNameStart c && (text.dropWhile isNamePart).head? = some '}' then
      some (c :: text.takeWhile isNamePart)
    else none
  | _ => none

def references : Text → List Text
  | [] => []
  | c :: text =>
    match placeholder? (c :: text) with
    | some name => name :: references text
    | none => references text

/-! ## Substitution -/

def placeholder (name : Text) : Text := '{' :: name ++ ['}']

def group (fragment : Text) : Text := '(' :: fragment ++ [')']

def substitute (macros : Macros) (text : Text) : Text :=
  macros.foldl (fun text entry => Text.replace (placeholder entry.1) (group entry.2) text) text

def without (macros : Macros) (name : Text) : Macros :=
  macros.filter (·.1 != name)

def names (macros : Macros) : List Text := macros.map (·.1)

/-! ## Cycles -/

def successors (macros : Macros) (name : Text) : List Text :=
  match macros.lookup name with
  | some fragment => (references fragment).filter macros.names.contains
  | none => []

/-- Follow references from a macro. `path` holds the macros on the way, the last one first, and `done` the
macros that lead to no cycle. Yields a cycle, or else the macros that are known to lead to none. The fuel
bounds the length of the path; one more than the number of macros is enough. -/
def visit (macros : Macros) : (fuel : Nat) → (path done : List Text) → (name : Text) →
    Except (List Text) (List Text)
  | 0, _, done, _ => .ok done
  | fuel + 1, path, done, name =>
    if path.contains name then .error (name :: (path.takeWhile (· != name)).reverse ++ [name])
    else if done.contains name then .ok done
    else do
      let done ← (macros.successors name).foldlM (fun done next => visit macros fuel (name :: path) done next) done
      return name :: done

def cycle? (macros : Macros) : Option (List Text) :=
  match macros.names.foldlM (visit macros (macros.length + 1) []) [] with
  | .ok _ => none
  | .error cycle => some cycle

/-! ## Expansion -/

def pass (macros : Macros) : Macros :=
  macros.map fun (name, fragment) => (name, (macros.without name).substitute fragment)

/-- Make passes until one changes nothing. Yields the table and the number of passes, or nothing after the
given number of passes. -/
def settle? : (limit count : Nat) → Macros → Option (Macros × Nat)
  | 0, _, _ => none
  | limit + 1, count, macros =>
    let next := macros.pass
    if next = macros then some (next, count + 1) else settle? limit (count + 1) next

def channel : String := "relex.macros"

/-- Check that the placeholders of a text name macros. `place` tells where the text stands. -/
def check (settings : Settings) (names : List Text) (text : Text) (place : String) : Journaled Unit :=
  (references text).forM fun name =>
    if names.contains name then pure ()
    else if settings.isStrict then throw (.undefinedMacro (String.ofList name) place)
    else Journal.note .warning channel
      ("Undefined macro \x7b" ++ String.ofList name ++ "\x7d in " ++ place ++ " left verbatim")

def expand (settings : Settings) (macros : Macros) : Journaled Macros :=
  if macros.isEmpty then pure []
  else
    match macros.cycle? with
    | some cycle => throw (.macroCycle (cycle.map String.ofList))
    | none => do
      macros.forM fun (name, fragment) =>
        check settings macros.names fragment ("macro '" ++ String.ofList name ++ "'")
      match settle? (macros.length + 1) 0 macros with
      | some (expanded, passes) =>
        Journal.note .debug channel
          ("Expanded " ++ toString macros.length ++ " macro(s) in " ++ toString passes ++ " pass(es)")
        return expanded
      | none => throw (.macroCycle (macros.names.map String.ofList))

/-- Read a table of macros. Names and fragments have to be texts. -/
def ofEntries (entries : List (Value × Value)) : Except Error Macros :=
  entries.mapM fun
    | (.str name, .str fragment) => .ok (name.toList, fragment.toList)
    | _ => .error (.fault .badType)

def ofMapping : Value → Except Error Macros
  | .dict entries => ofEntries entries
  | _ => .error (.fault .noAttribute)

def ofValue (v : Value) : Except Error Macros :=
  if v.truthy then ofMapping v else .ok []

def leavingOut (skipped : Value) : Value → Value
  | .dict entries => .dict (entries.filter fun entry => !entry.1.same skipped)
  | v => v

def namesOf? : Value → Option (List Text)
  | .dict entries => some (entries.filterMap fun (name, _) => name.str?.map String.toList)
  | .list items | .tuple items | .set items => some (items.filterMap fun name => name.str?.map String.toList)
  | _ => none

/-- Check that the placeholders of a text name macros of a table, which may be anything that holds names. -/
def checkAgainst (settings : Settings) (table : Value) (text : Text) (place : String) : Journaled Unit :=
  match namesOf? table with
  | some names => check settings names text place
  | none => if (references text).isEmpty then pure () else throw (.fault .badType)

end Macros

end LexGen
