import LexGen.Code.Loose
import LexGen.Error
import LexGen.Text.Edit
import LexGen.Value.Equality

/-!
# Token names

An action may return a token by its name. With a map of tokens, a returned name is replaced by what the map
has for it. Only a literal between single or double quotation marks that makes up the whole returned value is
taken for a name.
-/

namespace LexGen.Action

open Code

/-- The name that a literal stands for: no letters before it, no escapes and no quotation marks inside. -/
def tokenName? (literal : Text) : Option Text :=
  match literal with
  | mark :: rest =>
    let name := rest.dropLast
    if (mark = '\'' || mark = '"') && rest.getLast? = some mark && !name.isEmpty &&
        name.all (fun c => c != '\'' && c != '"' && c != '\\' && c != '\r' && c != '\n') then
      some name
    else none
  | [] => none

def endsStatement (token : LooseToken) : Bool :=
  match token.kind with
  | .lineEnd | .comment | .codeEnd => true
  | _ => token.text = [';']

def returnedNames : List LooseToken → List (LooseToken × Text)
  | keyword :: literal :: after :: tokens =>
    let rest := returnedNames (literal :: after :: tokens)
    if keyword.kind = .name && keyword.text = "return".toList && literal.kind = .literal &&
        endsStatement after then
      match tokenName? literal.text with
      | some name => (literal, name) :: rest
      | none => rest
    else rest
  | _ => []

def tokenOf? (tokens : Value) (name : String) : Except Error (Option Value) :=
  match tokens with
  | .dict entries => .ok (Value.get? entries name)
  | .list items | .tuple items | .set items =>
    if items.any (Value.same (.str name)) then .error (.fault .badType) else .ok none
  | .str s => if Text.occursIn name.toList s.toList then .error (.fault .badType) else .ok none
  | _ => .error (.fault .badType)

def tokenText (tokens : Value) (name : Text) : Except Error Text := do
  match ← tokenOf? tokens (String.ofList name) with
  | some token => return (← token.shown).toList
  | none => return Text.quoted name

def looseError : LooseFailure → Error
  | .openEnd => .fault .unreadableCode
  | .badIndent => .fault .malformedCode

def substituteTokens (body : Text) (tokens : Value) : Except Error Text := do
  let (found, failure) := looseTokens body
  if let some failure := failure then throw (looseError failure)
  let edits ← (returnedNames found).mapM fun (literal, name) => do
    return ({ line := literal.line - 1, start := literal.column, stop := literal.lastColumn,
              text := ← tokenText tokens name } : Text.Edit)
  return Text.Edit.applyAll (Text.feedLines body) edits

end LexGen.Action
