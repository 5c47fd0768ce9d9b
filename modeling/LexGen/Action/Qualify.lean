import LexGen.Action.Body
import LexGen.Code.Scope
import LexGen.Error
import LexGen.Text.Edit

/-!
# Scanner variables

Some names in an action stand for the state of the scanner. They are qualified, so that they are read from
and written to the scanner; nothing else in the action is changed. A name that is bound in an inner scope is
a different variable.
-/

namespace LexGen.Action

open Code

def scannerVariables : List String := ["yytext", "yyleng", "yylineno", "yylloc"]

def qualifier : Text := "yy_.".toList

def statements? (lines : List Text) : Option (List Stmt) :=
  match parse? (wrapped lines) with
  | some (.function _ _ _ body _ _ _ :: _) => some body
  | _ => none

def scannerNames (body : List Stmt) : List (String × Place) :=
  let occurrences := blockOccurrences body
  Occurrence.listVisible scannerVariables.contains (Occurrence.bound false occurrences) occurrences

/-- The number of characters that make up the given number of bytes at the beginning of a text. Nothing if
the last one is cut. -/
def charsIn? : (bytes : Nat) → Text → Option Nat
  | 0, _ => some 0
  | _ + 1, [] => some 0
  | bytes + 1, c :: text =>
    if c.utf8Size ≤ bytes + 1 then (charsIn? (bytes + 1 - c.utf8Size) text).map (· + 1) else none

/-- The edit that qualifies a name. Nothing if another text stands at its place. -/
def qualification (lines : List Text) (name : String) (place : Place) : Except Error (Option Text.Edit) :=
  let row := place.line - 2
  let line := lines.getD row []
  match charsIn? place.column (bodyIndent ++ line) with
  | none => .error (.fault (.raised "UnicodeDecodeError"))
  | some chars =>
    let column : Int := chars - bodyIndent.length
    if Text.Edit.part line column (column + name.length) = name.toList then
      .ok (some ⟨row, column, column, qualifier⟩)
    else .ok none

def qualifyAt (lines : List Text) (names : List (String × Place)) : Except Error Text := do
  let edits ← names.mapM fun (name, place) => qualification lines name place
  return Text.Edit.applyAll lines (edits.filterMap id)

def qualify (body : Text) : Except Error Text :=
  let lines := Text.codeLines body
  match statements? lines with
  | none => .error (.fault .malformedCode)
  | some statements => qualifyAt lines (scannerNames statements)

end LexGen.Action
