import LexGen.Scanner.State

/-!
# Input

Consuming input and pushing it back. Both keep track of the current match and of the position.
-/

namespace LexGen.Scanner

namespace State

variable {σ : Type}

def consume (c : Char) (rest : Text) (s : State σ) : State σ :=
  { s with
    before := c :: s.before
    rest := rest
    text := s.text ++ [c]
    length := s.length + 1
    line := if c = '\n' then s.line + 1 else s.line
    loc := s.loc.extend c
    piece := s.piece ++ [c]
    matched := s.matched ++ [c]
    offset := s.offset + 1 }

/-- The column after pushing text back. `first` is the first column of the match, `old` are the lines of the
match and `back` those of the text. -/
def columnAfter (first : Int) (old back : List Text) : Int :=
  let anchor := (old.length : Int) - back.length
  (if anchor = 0 then first else 0) + (if anchor < 0 then 0 else (old.getD anchor.toNat []).length) -
    (back.headD []).length

/-- Push text back in front of the input that is left. The current match gets shorter by its length. -/
def unput (text : Text) (s : State σ) : State σ :=
  let size : Int := text.length
  let back := Text.betweenBreaks text
  let line := s.line - (back.length - 1 : Int)
  let kept := Text.upTo s.text (s.text.length - size)
  { s with
    before := []
    rest := text ++ s.rest
    text := kept
    length := kept.length
    line := line
    loc :=
      { s.loc with
        lastLine := line + 1
        lastColumn := columnAfter s.loc.firstColumn (Text.betweenBreaks s.piece) back
        range := s.loc.range.map fun (first, _) => (first, first + s.length - size) }
    piece := Text.upTo s.piece (s.piece.length - size)
    matched := Text.upTo s.matched (s.matched.length - size)
    offset := s.offset - size }

/-- Keep the first `n` characters of the current match and push the others back. -/
def less (n : Int) (s : State σ) : State σ :=
  s.unput (Text.onward s.piece n)

/-- Take over a match: a text that the input begins with. It is appended to the current match. -/
def commit (ranges : Bool) (text : Text) (s : State σ) : State σ :=
  let line := s.line + Text.breakCount text
  let whole := s.text ++ text
  let column : Int :=
    if Text.breakCount text = 0 then s.loc.lastColumn + text.length else (Text.lastLine text).length
  { s with
    before := text.reverse ++ s.before
    rest := s.rest.drop text.length
    text := whole
    length := whole.length
    line := line
    loc :=
      { firstLine := s.loc.lastLine
        firstColumn := s.loc.lastColumn
        lastLine := line + 1
        lastColumn := column
        range := if ranges then some (s.offset, s.offset + whole.length) else none }
    piece := s.piece ++ text
    matched := s.matched ++ text
    offset := s.offset + text.length
    more := false
    rejected := false }

/-- Start on the next match. At the end of the input the scanner is done. The current match is kept only if
the next one is to be appended to it. -/
def start (s : State σ) : State σ :=
  let s := if s.rest.isEmpty then { s with done := true } else s
  if s.more then s else { s with text := [], piece := [] }

def reopen (s : State σ) : State σ :=
  if s.rest.isEmpty then s else { s with done := false }

end State

/-- Consume one character. Yields the character, or the empty text at the end of the input. -/
def input {σ : Type} : Run σ Text := do
  let s ← get
  match s.rest with
  | [] => return []
  | c :: rest => do
    set (s.consume c rest)
    return [c]

def echo {σ : Type} (text : Text) : Run σ Unit :=
  modify fun s => { s with world := { s.world with output := s.world.output ++ text } }

end LexGen.Scanner
