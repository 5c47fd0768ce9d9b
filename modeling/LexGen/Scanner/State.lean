import LexGen.Error
import LexGen.Scanner.Location
import LexGen.StartConditions
import LexGen.Text.Lines

/-!
# The state of a scanner

A scanner goes through its input from the front. It keeps the part that it has gone through and the part that
is left, the current match, the position in lines and columns, and a stack of start conditions. Apart from
that there is a world that actions can change: an object shared with them, the text they write, the errors
they are told of, and a memory of their own.
-/

namespace LexGen.Scanner

/-- An object that actions share with their surroundings. -/
structure Shared where
  attributes : List (String × Value) := []
  /-- What the handler of lexical errors answers, if the object has one. -/
  handler : Option Value := none

/-- A lexical error that the handler has been told of. -/
structure Report where
  message : String
  details : Value

/-- What actions can change besides the state of the scanner. `σ` is the type of their memory. -/
structure World (σ : Type) where
  shared : Shared := {}
  output : Text := []
  reports : List Report := []
  memory : σ

/-- The state of a scanner. Its buffer is `before.reverse ++ rest` and its position is the length of `before`, so the
position is inside the buffer in every state. No step needs another one: an input and a text that is put back make a
new buffer with the position at its front, a match goes on to the end of a text found at the position, a single
character is taken only where one is left, and a rejected match gives the buffer back together with the position in
it. -/
structure State (σ : Type) where
  /-- The part of the input before the position, the nearest character first. -/
  before : Text := []
  /-- The part of the input that is left. -/
  rest : Text := []
  /-- The text of the current match. Actions may change it. -/
  text : Text := []
  /-- The length of the text of the current match. -/
  length : Int := 0
  /-- The number of the line that the position is in, counted from zero. -/
  line : Int := 0
  /-- The span of the current match. -/
  loc : Location := {}
  /-- The current match. -/
  piece : Text := []
  /-- Everything that has been matched. -/
  matched : Text := []
  /-- The number of characters that have been matched. -/
  offset : Int := 0
  /-- Whether the end of the input has been reached. -/
  done : Bool := false
  /-- Whether the next match is to be appended to the current one. -/
  more : Bool := false
  /-- Whether the current match has been rejected. -/
  rejected : Bool := false
  /-- The stack of start conditions, the current one first. -/
  conditions : List String := [initialCondition]
  world : World σ

/-- Work on the state of a scanner that may fail. What has been done before a failure stays done. -/
abbrev Run (σ α : Type) := ExceptT Error (StateM (State σ)) α

namespace State

variable {σ : Type}

/-- A saved state, with the world as it is now. Whether a match has been rejected is not part of what is
saved. -/
def restore (saved now : State σ) : State σ :=
  { saved with rejected := now.rejected, world := now.world }

/-- Start on a text. Only the world is kept. -/
def setInput (ranges : Bool) (text : Text) (s : State σ) : State σ :=
  { rest := text, loc := { range := if ranges then some (0, 0) else none }, world := s.world }

end State

end LexGen.Scanner
