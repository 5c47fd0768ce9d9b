import LexGen.Text.Lines

/-!
# Edits

Edits replace parts of lines. They are applied from the last one to the first, so that no edit moves the
place of another.
-/

namespace LexGen.Text

/-- A replacement of the characters of a line, counted from zero, from `start` up to before `stop`. A negative
position counts from the end of the line. -/
structure Edit where
  line : Nat
  start : Int
  stop : Int
  text : Text
  deriving DecidableEq, Repr

namespace Edit

/-- The part of a line from `start` up to before `stop`. -/
def part (line : Text) (start stop : Int) : Text :=
  (upTo line stop).drop (position line.length start)

def inLine (edit : Edit) (line : Text) : Text :=
  upTo line edit.start ++ edit.text ++ onward line edit.stop

def apply (lines : List Text) (edit : Edit) : List Text :=
  lines.modify edit.line edit.inLine

def notBefore (a b : Edit) : Bool :=
  if a.line != b.line then b.line < a.line
  else if a.start != b.start then b.start < a.start
  else b.stop ≤ a.stop

def applyAll (lines : List Text) (edits : List Edit) : Text :=
  ((edits.mergeSort notBefore).foldl apply lines).flatten

end Edit

end LexGen.Text
