import LexGen.Options

/-!
# Tokens of code

Code is cut into tokens: names, numbers, string literals, operators, the ends of statements, and the marks
where indentation grows and shrinks. White space and comments leave no token. Places count lines from one and
columns in bytes from zero.
-/

namespace LexGen.Code

structure Place where
  line : Nat
  /-- The number of bytes before the place in its line. -/
  column : Nat
  deriving DecidableEq, Repr, Inhabited

inductive TokenKind where
  | name
  | number
  | literal
  | operator
  | lineEnd
  | indent
  | dedent
  | codeEnd
  deriving DecidableEq, Repr

/-- A token with the places of its first character and of the line on which it ends. -/
structure Token where
  kind : TokenKind
  text : String
  place : Place
  lastLine : Nat
  deriving Repr

/-! ## Line breaks -/

def withFeeds : Text → Text
  | '\r' :: '\n' :: text => '\n' :: withFeeds text
  | '\r' :: text => '\n' :: withFeeds text
  | c :: text => c :: withFeeds text
  | [] => []

def withLastFeed (text : Text) : Text :=
  if text.getLast? = some '\n' then text else text ++ ['\n']

/-! ## Reading -/

/-- The state of the reader of tokens. -/
structure Reading where
  rest : Text
  place : Place := ⟨1, 0⟩
  /-- The open indentations, the innermost first: their width with tabs up to the next multiple of eight, and
  with tabs as one. -/
  indents : List (Nat × Nat) := []
  /-- The open brackets, the innermost first. -/
  brackets : List Char := []

def Place.after (p : Place) (c : Char) : Place :=
  if c = '\n' then ⟨p.line + 1, 0⟩ else ⟨p.line, p.column + c.utf8Size⟩

def Reading.skip (r : Reading) (taken rest : Text) : Reading :=
  { r with rest := rest, place := taken.foldl Place.after r.place }

/-- Go past the characters that satisfy `p`. -/
def Reading.skipWhile (r : Reading) (p : Char → Bool) : Reading :=
  r.skip (r.rest.takeWhile p) (r.rest.dropWhile p)

def isInnerSpace (c : Char) : Bool := c == ' ' || c == '\t' || c == '\x0c'

/-- The widths of the indentation at the beginning of a line, with the rest of the reading. A backslash at
the end of a line goes on with the next one; the first such width that is not zero counts. -/
def indentation : (fuel : Nat) → (wide narrow first : Nat) → Reading → Option ((Nat × Nat) × Reading)
  | 0, _, _, _, _ => none
  | fuel + 1, wide, narrow, first, r =>
    match r.rest with
    | ' ' :: rest => indentation fuel (wide + 1) (narrow + 1) first (r.skip [' '] rest)
    | '\t' :: rest => indentation fuel ((wide / 8 + 1) * 8) (narrow + 1) first (r.skip ['\t'] rest)
    | '\x0c' :: rest => indentation fuel 0 0 first (r.skip ['\x0c'] rest)
    | '\\' :: '\n' :: rest =>
      if rest.isEmpty then none
      else indentation fuel wide narrow (if first = 0 then wide else first) (r.skip ['\\', '\n'] rest)
    | '\\' :: _ => none
    | _ => some (if first = 0 then (wide, narrow) else (first, first), r)

def mostIndents : Nat := 99

def mostBrackets : Nat := 200

/-- Close the indentations that are wider than `wide`. Yields the number of closed ones and the others. -/
def closeIndents (wide : Nat) : List (Nat × Nat) → Nat × List (Nat × Nat)
  | [] => (0, [])
  | top :: indents =>
    if wide < top.1 then
      let (count, left) := closeIndents wide indents
      (count + 1, left)
    else (0, top :: indents)

/-- Compare the indentation of a line with the open ones. Yields the tokens that mark the difference. -/
def indentTokens (widths : Nat × Nat) (r : Reading) : Option (List Token × Reading) :=
  let (wide, narrow) := widths
  let top := r.indents.headD (0, 0)
  let mark := fun kind => (⟨kind, "", r.place, r.place.line⟩ : Token)
  if wide = top.1 then
    if narrow = top.2 then some ([], r) else none
  else if top.1 < wide then
    if r.indents.length < mostIndents && top.2 < narrow then
      some ([mark .indent], { r with indents := widths :: r.indents })
    else none
  else
    let (count, left) := closeIndents wide r.indents
    if left.headD (0, 0) = widths then some (List.replicate count (mark .dedent), { r with indents := left })
    else none

/-! ## Names and numbers -/

/-- A character that can belong to a name. Which of the characters beyond ASCII do is checked later. -/
def isNameChar (c : Char) : Bool := c.isAlphanum || c == '_' || 128 ≤ c.toNat

/-- Take digits that satisfy `p`, with single underscores between them. -/
def digitsTail (p : Char → Bool) : Text → Option (Text × Text)
  | '_' :: c :: rest =>
    if p c then (digitsTail p rest).map fun (taken, rest) => ('_' :: c :: taken, rest) else none
  | '_' :: [] => none
  | c :: rest =>
    if p c then (digitsTail p rest).map fun (taken, rest) => (c :: taken, rest) else some ([], c :: rest)
  | [] => some ([], [])

/-- Take digits that satisfy `p`, at least one, with single underscores before and between them. -/
def digitsAfterLetter (p : Char → Bool) (text : Text) : Option (Text × Text) :=
  match digitsTail p text with
  | some ([], _) => none
  | found => found

def wordsAfterNumber : List Text :=
  ["and", "else", "for", "if", "in", "is", "or", "not"].map String.toList

def numberMayEnd (rest : Text) : Bool :=
  wordsAfterNumber.any (Text.startsWith · rest) ||
    match rest with
    | c :: _ => !isNameChar c
    | [] => true

def numberEnd (taken rest : Text) : Option (Text × Text) :=
  match rest with
  | c :: after =>
    if c = 'j' || c = 'J' then
      if numberMayEnd after then some (taken ++ [c], after) else none
    else if numberMayEnd rest then some (taken, rest) else none
  | [] => some (taken, [])

def numberExponent (taken rest : Text) : Option (Text × Text) :=
  match rest with
  | e :: after =>
    if e = 'e' || e = 'E' then
      match after with
      | sign :: digits =>
        if sign = '+' || sign = '-' then
          if (digits.head?.map Char.isDigit).getD false then do
            let (power, rest) ← digitsTail Char.isDigit digits
            numberEnd (taken ++ e :: sign :: power) rest
          else none
        else if sign.isDigit then do
          let (power, rest) ← digitsTail Char.isDigit after
          numberEnd (taken ++ e :: power) rest
        else if numberMayEnd rest then some (taken, rest) else none
      | [] => none
    else numberEnd taken rest
  | [] => some (taken, [])

def numberFraction (taken rest : Text) : Option (Text × Text) :=
  if (rest.head?.map Char.isDigit).getD false then do
    let (digits, rest) ← digitsTail Char.isDigit rest
    numberExponent (taken ++ digits) rest
  else numberExponent taken rest

/-- A number in decimal digits. Whole numbers other than zero have no leading zeros. -/
def decimalNumber (text : Text) : Option (Text × Text) := do
  let (digits, rest) ← digitsTail Char.isDigit text
  match rest with
  | '.' :: after => numberFraction (digits ++ ['.']) after
  | c :: _ =>
    if c = 'e' || c = 'E' || c = 'j' || c = 'J' then
      let found ← numberExponent digits rest
      if found.1 = digits then checkZeros digits found else some found
    else do checkZeros digits (← numberEnd digits rest)
  | [] => checkZeros digits (digits, [])
where
  checkZeros (digits : Text) (found : Text × Text) : Option (Text × Text) :=
    if digits.head? = some '0' && digits.any (fun c => c != '0' && c != '_') then none else some found

def number (text : Text) : Option (Text × Text) :=
  let inBase := fun (letter : Char) (p : Char → Bool) (rest : Text) => do
    let (digits, rest) ← digitsAfterLetter p rest
    match rest with
    | c :: _ => if c.isDigit then none else pure ()
    | [] => pure ()
    if numberMayEnd rest then some ('0' :: letter :: digits, rest) else none
  match text with
  | '0' :: c :: rest =>
    if c = 'x' || c = 'X' then
      inBase c (fun c => c.isDigit || ('a' ≤ c && c ≤ 'f') || ('A' ≤ c && c ≤ 'F')) rest
    else if c = 'o' || c = 'O' then inBase c (fun c => '0' ≤ c && c ≤ '7') rest
    else if c = 'b' || c = 'B' then inBase c (fun c => c = '0' || c = '1') rest
    else decimalNumber text
  | _ => decimalNumber text

/-! ## String literals -/

def literalMarks : List String := ["", "b", "u", "r", "f", "br", "rb", "fr", "rf"]

/-- The number of letters before a string literal at the beginning of a text, if there is one. -/
def literalMark? (text : Text) : Option Nat :=
  [0, 1, 2].find? fun length =>
    match text.drop length with
    | c :: _ =>
      (c = '\'' || c = '"') &&
        literalMarks.contains (String.ofList ((text.take length).map Char.toLower))
    | [] => false

def shortBody (mark : Char) : Text → Option (Text × Text)
  | [] => none
  | '\n' :: _ => none
  | '\\' :: c :: rest => (shortBody mark rest).map fun (taken, rest) => ('\\' :: c :: taken, rest)
  | c :: rest =>
    if c = mark then some ([c], rest)
    else (shortBody mark rest).map fun (taken, rest) => (c :: taken, rest)

def longBody (mark : Char) : Text → Option (Text × Text)
  | [] => none
  | '\\' :: c :: rest => (longBody mark rest).map fun (taken, rest) => ('\\' :: c :: taken, rest)
  | c :: rest =>
    if c = mark && rest.take 2 = [mark, mark] then some ([mark, mark, mark], rest.drop 2)
    else (longBody mark rest).map fun (taken, rest) => (c :: taken, rest)

/-- A string literal that begins with `length` letters. -/
def literal (length : Nat) (text : Text) : Option (Text × Text) :=
  let letters := text.take length
  match text.drop length with
  | mark :: rest =>
    if rest.take 2 = [mark, mark] then
      (longBody mark (rest.drop 2)).map fun (taken, rest) => (letters ++ mark :: mark :: mark :: taken, rest)
    else (shortBody mark rest).map fun (taken, rest) => (letters ++ mark :: taken, rest)
  | [] => none

/-! ## Operators -/

def operators : List Text :=
  ["**=", "...", "//=", "<<=", ">>=", "!=", "%=", "&=", "**", "*=", "+=", "-=", "->", "//", "/=", ":=", "<<",
   "<=", "<>", "==", ">=", ">>", "@=", "^=", "|=", "%", "&", "(", ")", "*", "+", ",", "-", ".", "/", ":", ";",
   "<", "=", ">", "@", "[", "]", "^", "\x7b", "|", "\x7d", "~"].map String.toList

def opening? : Char → Option Char
  | ')' => some '('
  | ']' => some '['
  | '\x7d' => some '\x7b'
  | _ => none

def trackBrackets (c : Char) (brackets : List Char) : Option (List Char) :=
  if c = '(' || c = '[' || c = '\x7b' then
    if brackets.length < mostBrackets then some (c :: brackets) else none
  else match opening? c with
    | none => some brackets
    | some opening =>
      match brackets with
      | top :: brackets => if top = opening then some brackets else none
      | [] => none

def operator (r : Reading) : Option (Text × Reading) := do
  let op ← operators.find? (Text.startsWith · r.rest)
  let brackets ← match op with
    | [c] => trackBrackets c r.brackets
    | _ => some r.brackets
  return (op, { r with brackets := brackets })

/-! ## Tokens -/

def tokenAt (r : Reading) : Option (Token × Reading) :=
  let make := fun (kind : TokenKind) (found : Text × Text) (r : Reading) =>
    let after := r.skip found.1 found.2
    ((⟨kind, String.ofList found.1, r.place, after.place.line⟩ : Token), after)
  match literalMark? r.rest with
  | some length => (literal length r.rest).map fun found => make .literal found r
  | none =>
    match r.rest with
    | [] => none
    | c :: rest =>
      if c.isDigit || (c = '.' && (rest.head?.map Char.isDigit).getD false) then
        (if c = '.' then numberFraction ['.'] rest else number r.rest).map fun found => make .number found r
      else if isNameChar c then
        let name := r.rest.takeWhile isNameChar
        if name.all (·.toNat < 128) || isIdentifier name then
          some (make .name (name, r.rest.dropWhile isNameChar) r)
        else none
      else do
        let (op, r) ← operator r
        return make .operator (op, r.rest.drop op.length) r

/-- Read tokens. `atStart` tells whether a line begins here, and `blank` whether the line has no token. -/
def readTokens : (fuel : Nat) → (atStart blank : Bool) → Reading → Option (List Token)
  | 0, _, _, _ => none
  | fuel + 1, true, _, r => do
    let (widths, r) ← indentation (r.rest.length + 1) 0 0 0 r
    let blank := match r.rest with
      | '#' :: _ => true
      | '\n' :: _ => true
      | _ => false
    if blank || !r.brackets.isEmpty then readTokens fuel false blank r
    else do
      let (marks, r) ← indentTokens widths r
      return marks ++ (← readTokens fuel false false r)
  | fuel + 1, false, blank, r =>
    let r := r.skipWhile isInnerSpace
    let r := if r.rest.head? = some '#' then r.skipWhile (· != '\n') else r
    match r.rest with
    | [] => if r.brackets.isEmpty then some [⟨.codeEnd, "", r.place, r.place.line⟩] else none
    | '\n' :: rest =>
      let after := r.skip ['\n'] rest
      if blank || !r.brackets.isEmpty then readTokens fuel true false after
      else (readTokens fuel true false after).map fun tokens =>
        ⟨.lineEnd, "", r.place, r.place.line⟩ :: tokens
    | '\\' :: '\n' :: rest =>
      if rest.isEmpty then none else readTokens fuel false blank (r.skip ['\\', '\n'] rest)
    | _ => do
      let (token, r) ← tokenAt r
      return token :: (← readTokens fuel false blank r)

/-- The tokens of code, unless it cannot be cut into tokens. Code with null characters has none. -/
def tokens? (code : Text) : Option (List Token) :=
  if code.contains '\x00' then none
  else
    let code := withLastFeed (withFeeds code)
    readTokens (2 * code.length + 2) true false { rest := code }

end LexGen.Code
