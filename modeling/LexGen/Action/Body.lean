import LexGen.Text.Lines

/-!
# Bodies of actions

The body of an action consists of statements. It is brought into a normal form, and it is parsed as the body
of a function.
-/

namespace LexGen.Action

def holdsStatement (line : Text) : Bool :=
  match Text.trim line with
  | [] => false
  | c :: _ => c != '#'

/-- An action without its common indentation and the empty lines around it; an action without statements
does nothing. -/
def normalBody (action : Text) : Text :=
  let body := Text.trimBy Text.isFeed (Text.dedent action)
  if (Text.textLines body).any holdsStatement then body else "pass".toList

def bodyIndent : Text := Text.spaces 4

def header : Text := "def _action(self, yy, yy_, yy_start):\n".toList

/-- A body in a function. Blank lines stay as they are. -/
def wrapped (lines : List Text) : Text :=
  header ++ (lines.map fun line => if Text.isBlank line then line else bodyIndent ++ line).flatten

end LexGen.Action
