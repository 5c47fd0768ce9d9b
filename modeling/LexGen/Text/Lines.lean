import LexGen.Text.Basic

/-!
# Lines

Cutting a text into lines, and indentation. Three notions of a line break are in use: the line feed alone
(`feedLines`), the breaks of source code (`codeLines`) and every Unicode line boundary (`textLines`). Lines
keep their breaks, so that joining them gives back the text (`linesBy_flatten`).
-/

namespace LexGen.Text

/-! ## Cutting into lines -/

/-- Cut a text after every break. `current` is the line begun so far, reversed. A carriage return and the
line feed after it are one break. -/
def linesBy (isBreak : Char → Bool) : (current text : Text) → List Text
  | current, [] => if current.isEmpty then [] else [current.reverse]
  | current, '\r' :: '\n' :: text => ('\n' :: '\r' :: current).reverse :: linesBy isBreak [] text
  | current, c :: text =>
    if isBreak c then (c :: current).reverse :: linesBy isBreak [] text
    else linesBy isBreak (c :: current) text

theorem linesBy_flatten (isBreak : Char → Bool) (current text : Text) :
    (linesBy isBreak current text).flatten = current.reverse ++ text := by
  fun_induction linesBy isBreak current text with
  | case1 current empty => simp_all
  | case2 current nonempty => simp
  | case3 current text ih => simp [ih]
  | case4 current c text other isBreak ih => simp [ih]
  | case5 current c text other isBreak ih => simp [ih]

def isFeed (c : Char) : Bool := c == '\n'

def isCodeBreak (c : Char) : Bool := c == '\n' || c == '\r'

/-- Every Unicode line boundary: also the vertical tab, the form feed, the information separators, the
next-line control and the line and paragraph separators. -/
def isLineBoundary (c : Char) : Bool :=
  isCodeBreak c || c == '\x0b' || c == '\x0c' || c == '\x1c' || c == '\x1d' || c == '\x1e' ||
    c == '\u0085' || c == '\u2028' || c == '\u2029'

def feedLines (text : Text) : List Text := linesBy isFeed [] text

def codeLines (text : Text) : List Text := linesBy isCodeBreak [] text

def textLines (text : Text) : List Text := linesBy isLineBoundary [] text

def betweenFeeds : Text → List Text
  | [] => [[]]
  | c :: text =>
    match betweenFeeds text with
    | [] => [[c]]
    | line :: lines => if c = '\n' then [] :: line :: lines else (c :: line) :: lines

def betweenBreaks : Text → List Text
  | [] => [[]]
  | '\r' :: '\n' :: text => [] :: betweenBreaks text
  | c :: text =>
    match betweenBreaks text with
    | [] => [[c]]
    | line :: lines => if isCodeBreak c then [] :: line :: lines else (c :: line) :: lines

def breakCount (text : Text) : Nat := (betweenBreaks text).length - 1

def lastLine (text : Text) : Text := (betweenBreaks text).getLastD []

/-! ## Indentation -/

def isMarginSpace (c : Char) : Bool := c == ' ' || c == '\t'

/-- The longest indentation that all the given lines have in common. Blank lines do not count. -/
def margin (lines : List Text) : Text :=
  match (lines.filter (·.any (!isMarginSpace ·))).map (·.takeWhile isMarginSpace) with
  | [] => []
  | first :: others => others.foldl commonStart first

def dedent (text : Text) : Text :=
  let lines := (betweenFeeds text).map fun line => if line.all isMarginSpace then [] else line
  let common := margin lines
  join ['\n'] (lines.map fun line => (after? common line).getD line)

/-- Put `lead` before every line that is not blank. -/
def indent (lead text : Text) : Text :=
  ((textLines text).map fun line => if isBlank line then line else lead ++ line).flatten

def spaces (n : Nat) : Text := List.replicate n ' '

end LexGen.Text
