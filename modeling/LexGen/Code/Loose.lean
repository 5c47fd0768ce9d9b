import LexGen.Code.Token
import LexGen.Text.Lines
import LexGen.Unicode.Word

/-!
# Loose tokens

A tolerant way to cut code into tokens, line by line. Comments and line breaks are tokens too, and a character
that begins no token is a token of its own, so almost every text can be cut. Only an open string literal, an
open bracket or an indentation that fits no line before it is an error.
-/

namespace LexGen.Code

/-- What a loose token is. -/
inductive LooseKind where
  | name
  | number
  | literal
  | operator
  | comment
  | lineEnd
  | lineBreak
  | indent
  | dedent
  /-- A character that begins no token, or a literal that is not closed in its line. -/
  | stray
  | codeEnd
  deriving DecidableEq, Repr

/-- A loose token with the places of its first character and of its end: lines count from one, columns in
characters from zero. -/
structure LooseToken where
  kind : LooseKind
  text : Text
  line : Nat
  column : Nat
  lastLine : Nat
  lastColumn : Nat
  deriving Repr

/-- Why a text cannot be cut into loose tokens. -/
inductive LooseFailure where
  /-- The text ends inside of a literal or a statement. -/
  | openEnd
  /-- An indentation that fits no line before it. -/
  | badIndent
  deriving DecidableEq, Repr

/-! ## Numbers -/

def digitRun (p : Char → Bool) : Text → Text
  | [] => []
  | c :: rest => if p c then c :: more rest else []
where
  more : Text → Text
    | '_' :: c :: rest => if p c then '_' :: c :: more rest else []
    | c :: rest => if p c then c :: more rest else []
    | [] => []

def exponentRun : Text → Text
  | e :: sign :: rest =>
    if e = 'e' || e = 'E' then
      if sign = '+' || sign = '-' then
        match digitRun Char.isDigit rest with
        | [] => []
        | digits => e :: sign :: digits
      else match digitRun Char.isDigit (sign :: rest) with
        | [] => []
        | digits => e :: digits
    else []
  | _ => []

def floatRun (text : Text) : Text :=
  let whole := digitRun Char.isDigit text
  match text.drop whole.length with
  | '.' :: rest =>
    let part := digitRun Char.isDigit rest
    if whole.isEmpty && part.isEmpty then []
    else whole ++ '.' :: part ++ exponentRun (rest.drop part.length)
  | rest =>
    match exponentRun rest with
    | [] => []
    | exponent => if whole.isEmpty then [] else whole ++ exponent

def integerRun (text : Text) : Text :=
  let inBase := fun (letter : Char) (p : Char → Bool) =>
    match text with
    | '0' :: c :: rest =>
      let rest := if rest.head? = some '_' then rest.drop 1 else rest
      let gap := if (text.drop 2).head? = some '_' then ['_'] else []
      if c.toLower = letter then
        match digitRun p rest with
        | [] => []
        | digits => '0' :: c :: gap ++ digits
      else []
    | _ => []
  match inBase 'x' (fun c => c.isDigit || ('a' ≤ c && c ≤ 'f') || ('A' ≤ c && c ≤ 'F')) with
  | [] =>
    match inBase 'b' (fun c => c = '0' || c = '1') with
    | [] =>
      match inBase 'o' (fun c => '0' ≤ c && c ≤ '7') with
      | [] => if text.head? = some '0' then digitRun (· == '0') text else digitRun Char.isDigit text
      | run => run
    | run => run
  | run => run

def numberRun (text : Text) : Text :=
  let imaginary := fun (run : Text) =>
    match text.drop run.length with
    | c :: _ => if !run.isEmpty && (c = 'j' || c = 'J') then some (run ++ [c]) else none
    | [] => none
  match imaginary (digitRun Char.isDigit text) with
  | some run => run
  | none =>
    match floatRun text with
    | [] => integerRun text
    | run => (imaginary run).getD run

/-! ## Literals -/

/-- The end of a literal in a line. The line break does not count as an escaped character. -/
def literalEnd? (mark : Char) (long : Bool) : Text → Option (Text × Text)
  | [] => none
  | '\\' :: '\n' :: _ => none
  | '\\' :: c :: rest => (literalEnd? mark long rest).map fun (taken, rest) => ('\\' :: c :: taken, rest)
  | c :: rest =>
    if c = mark && (!long || rest.take 2 = [mark, mark]) then
      if long then some ([mark, mark, mark], rest.drop 2) else some ([mark], rest)
    else (literalEnd? mark long rest).map fun (taken, rest) => (c :: taken, rest)

/-- The body of a literal that is closed in its line, or goes on in the next one after a backslash. -/
def shortLiteral? (mark : Char) : Text → Option (Text × Text)
  | [] => none
  | '\n' :: _ => none
  | ['\\', '\n'] => some (['\\', '\n'], [])
  | ['\\', '\r', '\n'] => some (['\\', '\r', '\n'], [])
  | '\\' :: '\n' :: _ => none
  | '\\' :: c :: rest => (shortLiteral? mark rest).map fun (taken, rest) => ('\\' :: c :: taken, rest)
  | c :: rest =>
    if c = mark then some ([mark], rest)
    else (shortLiteral? mark rest).map fun (taken, rest) => (c :: taken, rest)

/-- A literal that is open at the end of a line. -/
structure OpenLiteral where
  line : Nat
  column : Nat
  mark : Char
  long : Bool
  taken : Text

/-! ## Lines -/

structure LooseState where
  /-- The number of open brackets; it is negative after too many closing ones. -/
  depth : Int := 0
  /-- Whether the statement goes on after a backslash. -/
  continued : Bool := false
  indents : List Nat := [0]
  literal : Option OpenLiteral := none

def looseOperators : List Text := operators.filter (· != "<>".toList)

def lineTokens (line : Nat) : (fuel column : Nat) → Text → LooseState → List LooseToken × LooseState
  | 0, _, _, s => ([], s)
  | fuel + 1, column, rest, s =>
    let space := rest.takeWhile isInnerSpace
    let body := rest.drop space.length
    let start := column + space.length
    let go := fun (kind : LooseKind) (text : Text) (s : LooseState) =>
      let stop := start + text.length
      let (tokens, s) := lineTokens line fuel stop (body.drop text.length) s
      ((⟨kind, text, line, start, line, stop⟩ : LooseToken) :: tokens, s)
    let stray := fun (_ : Unit) =>
      match rest with
      | [] => ([], s)
      | c :: rest =>
        let (tokens, s) := lineTokens line fuel (column + 1) rest s
        ((⟨.stray, [c], line, column, line, column + 1⟩ : LooseToken) :: tokens, s)
    let feed := fun (text : Text) => go (if s.depth > 0 then .lineBreak else .lineEnd) text s
    match body with
    | [] => ([], s)
    | ['\\', '\n'] => ([], { s with continued := true })
    | ['\\', '\r', '\n'] => ([], { s with continued := true })
    | ['\n'] => feed ['\n']
    | ['\r', '\n'] => feed ['\r', '\n']
    | '#' :: _ => go .comment (body.takeWhile fun c => c != '\r' && c != '\n') s
    | c :: _ =>
      match literalMark? body with
      | some length =>
        let opening := body.take (length + 1)
        let mark := opening.getLast?.getD '\''
        let after := body.drop (length + 1)
        if after.take 2 = [mark, mark] then
          let opening := opening ++ [mark, mark]
          match literalEnd? mark true (after.drop 2) with
          | some (taken, _) => go .literal (opening ++ taken) s
          | none => ([], { s with literal := some ⟨line, start, mark, true, body⟩ })
        else match shortLiteral? mark after with
          | some (taken, _) =>
            if taken.getLast? = some '\n' then
              ([], { s with literal := some ⟨line, start, mark, false, opening ++ taken⟩ })
            else go .literal (opening ++ taken) s
          | none => if length = 0 then stray () else word c body go stray s
      | none => word c body go stray s
where
  word (c : Char) (body : Text) (go : LooseKind → Text → LooseState → List LooseToken × LooseState)
      (stray : Unit → List LooseToken × LooseState) (s : LooseState) : List LooseToken × LooseState :=
    match numberRun body with
    | [] =>
      match looseOperators.find? (Text.startsWith · body) with
      | some op =>
        let change : Int :=
          if ["(", "[", "\x7b"].contains (String.ofList op) then 1
          else if [")", "]", "\x7d"].contains (String.ofList op) then -1
          else 0
        go .operator op { s with depth := s.depth + change }
      | none =>
        if Unicode.isWord c then
          go (if Unicode.isIdentifierStart c then .name else .operator) (body.takeWhile Unicode.isWord) s
        else stray ()
    | number => go .number number s

def looseWidth (space : Text) : Nat :=
  space.foldl (fun width c =>
    if c = ' ' then width + 1 else if c = '\t' then (width / 8 + 1) * 8 else 0) 0

def statementLine (line : Nat) (text : Text) (s : LooseState) :
    Except LooseFailure (List LooseToken × LooseState) :=
  let space := text.takeWhile isInnerSpace
  let body := text.drop space.length
  let column := space.length
  match body with
  | [] => .ok ([], s)
  | c :: _ =>
    if c = '#' || c = '\r' || c = '\n' then
      let comment := if c = '#' then Text.trimEndBy (fun c => c == '\r' || c == '\n') body else []
      let stop := column + comment.length
      let note : List LooseToken := if c = '#' then [⟨.comment, comment, line, column, line, stop⟩] else []
      .ok (note ++ [⟨.lineBreak, body.drop comment.length, line, stop, line, text.length⟩], s)
    else
      let width := looseWidth space
      let top := s.indents.headD 0
      let (tokens, s') := lineTokens line (text.length + 1) column body
        { s with indents := if top < width then width :: s.indents else s.indents.dropWhile (width < ·) }
      if top < width then .ok (⟨.indent, space, line, 0, line, column⟩ :: tokens, s')
      else
        let closed := s.indents.takeWhile (width < ·)
        if !s.indents.contains width then .error .badIndent
        else .ok (closed.map (fun _ => ⟨.dedent, [], line, column, line, column⟩) ++ tokens, s')

def looseLine (line : Nat) (text : Text) (s : LooseState) :
    Except LooseFailure (List LooseToken × LooseState) :=
  match s.literal with
  | some o =>
    match literalEnd? o.mark o.long text with
    | some (taken, rest) =>
      let stop := taken.length
      let (tokens, s) := lineTokens line (text.length + 1) stop rest { s with literal := none }
      .ok (⟨.literal, o.taken ++ taken, o.line, o.column, line, stop⟩ :: tokens, s)
    | none =>
      let goesOn := o.long || Text.startsWith ['\n', '\\'] text.reverse ||
        Text.startsWith ['\n', '\r', '\\'] text.reverse
      if goesOn then .ok ([], { s with literal := some { o with taken := o.taken ++ text } })
      else
        .ok ([⟨.stray, o.taken ++ text, o.line, o.column, line, text.length⟩], { s with literal := none })
  | none =>
    if s.depth = 0 && !s.continued then statementLine line text s
    else .ok (lineTokens line (text.length + 1) 0 text { s with continued := false })

/-- Cut lines, the first of which has the given number. Yields the tokens up to a failure, and the failure. -/
def looseLines : (line : Nat) → (last : Text) → List Text → LooseState →
    List LooseToken × Option LooseFailure
  | line, last, [], s =>
    if s.literal.isSome || s.depth != 0 || s.continued then ([], some .openEnd)
    else
      let ended := match last.getLast? with
        | some c => c = '\n' || c = '\r' || (Text.trim last).head? = some '#' || last.all isInnerSpace
        | none => true
      let finish : List LooseToken :=
        if ended then [] else [⟨.lineEnd, [], line - 1, last.length, line - 1, last.length + 1⟩]
      let closed := (s.indents.filter (· != 0)).map fun _ => (⟨.dedent, [], line, 0, line, 0⟩ : LooseToken)
      (finish ++ closed ++ [⟨.codeEnd, [], line, 0, line, 0⟩], none)
  | line, _, text :: lines, s =>
    match looseLine line text s with
    | .error failure => ([], some failure)
    | .ok (tokens, s) =>
      let (more, failure) := looseLines (line + 1) text lines s
      (tokens ++ more, failure)

/-- Cut code into loose tokens. Lines end with line feeds only. -/
def looseTokens (code : Text) : List LooseToken × Option LooseFailure :=
  looseLines 1 [] (Text.feedLines code) {}

end LexGen.Code
