import LexGen.Code.Tree
import LexGen.Json.Reader

/-!
# Literals

What the tokens of numbers and string literals stand for. A literal marked with `f` consists of pieces: texts
and fields, which hold the code of an expression between braces.
-/

namespace LexGen.Code

/-! ## Numbers -/

def digitValue (c : Char) : Nat :=
  if c.isDigit then c.toNat - 48 else if 'a' ≤ c then c.toNat - 87 else c.toNat - 55

def digitsIn (base : Nat) (digits : Text) : Nat :=
  digits.foldl (fun n c => n * base + digitValue c) 0

/-- The value of a number token. Whole numbers with too many decimal digits have none. -/
def numberValue? (token : Text) : Option Constant :=
  let text := token.filter (· != '_')
  match text with
  | '0' :: c :: digits =>
    if c = 'x' || c = 'X' then some (.int (digitsIn 16 digits))
    else if c = 'o' || c = 'O' then some (.int (digitsIn 8 digits))
    else if c = 'b' || c = 'B' then some (.int (digitsIn 2 digits))
    else decimal text
  | _ => decimal text
where
  decimal (text : Text) : Option Constant :=
    if text.all Char.isDigit then
      if Text.longestInteger < text.length then none else some (.int (digitsIn 10 text))
    else match text.getLast? with
      | some c =>
        if c = 'j' || c = 'J' then some (.imaginary (Binary64.ofText false text.dropLast))
        else some (.float (Binary64.ofText false text))
      | none => none

/-! ## Escapes -/

def letterEscape? : Char → Option Char
  | '\\' => some '\\'
  | '\'' => some '\''
  | '"' => some '"'
  | 'a' => some '\x07'
  | 'b' => some '\x08'
  | 'f' => some '\x0c'
  | 'n' => some '\n'
  | 'r' => some '\r'
  | 't' => some '\t'
  | 'v' => some '\x0b'
  | _ => none

def hexWidth? (wide : Bool) : Char → Option Nat
  | 'x' => some 2
  | 'u' => if wide then some 4 else none
  | 'U' => if wide then some 8 else none
  | _ => none

def isHexDigit (c : Char) : Bool := c.isDigit || ('a' ≤ c && c ≤ 'f') || ('A' ≤ c && c ≤ 'F')

def isOctalDigit (c : Char) : Bool := '0' ≤ c && c ≤ '7'

/-- Replace the escapes of a literal's body. `wide` tells whether the literal is a text rather than a byte
string. Escapes without a meaning stay as they are; names of characters are not known. -/
def unescape (wide : Bool) : (fuel : Nat) → Text → Option Text
  | 0, _ => some []
  | _, [] => some []
  | _, ['\\'] => some ['\\']
  | fuel + 1, '\\' :: c :: rest =>
    if c = '\n' then unescape wide fuel rest
    else if let some char := letterEscape? c then (unescape wide fuel rest).map (char :: ·)
    else if let some width := hexWidth? wide c then
      let digits := (rest.take width).takeWhile isHexDigit
      let code := digitsIn 16 digits
      if digits.length < width || 0x10ffff < code then none
      else (unescape wide fuel (rest.drop width)).map (replaced code :: ·)
    else if isOctalDigit c then
      let digits := c :: (rest.take 2).takeWhile isOctalDigit
      let code := digitsIn 8 digits
      (unescape wide fuel (rest.drop (digits.length - 1))).map
        (Char.ofNat (if wide then code else code % 256) :: ·)
    else if wide && c = 'N' then none
    else (unescape wide fuel rest).map ('\\' :: c :: ·)
  | fuel + 1, c :: rest => (unescape wide fuel rest).map (c :: ·)
where
  /-- The character of a code point. A half of a surrogate pair stands for no character. -/
  replaced (code : Nat) : Char := if 0xd800 ≤ code && code < 0xe000 then '\ufffd' else Char.ofNat code

/-! ## String tokens -/

/-- A string token taken apart. -/
structure StringToken where
  isBytes : Bool
  isRaw : Bool
  isFormatted : Bool
  /-- Whether the token begins with the letter `u`. -/
  isMarked : Bool
  opening : Text
  body : Text

def StringToken.ofText (token : Text) : StringToken :=
  let letters := token.takeWhile fun c => c != '\'' && c != '"'
  let rest := token.drop letters.length
  let size := if 6 ≤ rest.length && rest.take 3 = List.replicate 3 (rest.headD ' ') then 3 else 1
  let has := fun c => letters.any (·.toLower == c)
  ⟨has 'b', has 'r', has 'f', letters.head? = some 'u', letters ++ rest.take size,
    (rest.drop size).take (rest.length - 2 * size)⟩

def StringToken.value? (token : StringToken) : Option Text :=
  if token.isBytes && token.body.any (128 ≤ ·.toNat) then none
  else if token.isRaw then some token.body
  else unescape (!token.isBytes) (token.body.length + 1) token.body

/-! ## Fields -/

/-- A piece of a literal. -/
inductive Piece where
  | text (t : Text)
  /-- The code between braces, the number of line feeds before it in the literal, the column of its opening
  brace in its line of the literal, and what is to be done with its value. -/
  | field (code : Text) (lines column : Nat) (conversion : Option Char) (layout : Option (List Piece))

/-- The state inside the code of a field: the quotation mark of the string around and whether it is three
characters, and the open brackets, the innermost first. -/
structure FieldScan where
  quote : Option (Char × Bool) := none
  brackets : List Char := []

/-- The code of a field up to what ends it: its closing brace, a conversion, a layout or an equals sign.
Neither backslashes nor comments may occur in it. -/
def fieldCode : FieldScan → Text → Option (Text × Text)
  | _, [] => none
  | { quote := some (mark, true), brackets }, a :: b :: c :: rest =>
    if a = mark && b = mark && c = mark then add [a, b, c] (fieldCode { brackets } rest)
    else add [a] (fieldCode { quote := some (mark, true), brackets } (b :: c :: rest))
  | { quote := some (mark, long), brackets }, c :: rest =>
    add [c] (fieldCode { quote := if c = mark && !long then none else some (mark, long), brackets } rest)
  | { quote := none, brackets }, c :: rest =>
    if c = '\\' || c = '#' then none
    else if c = '\'' || c = '"' then
      match rest with
      | a :: b :: rest' =>
        if a = c && b = c then add [c, c, c] (fieldCode { quote := some (c, true), brackets } rest')
        else add [c] (fieldCode { quote := some (c, false), brackets } (a :: b :: rest'))
      | rest => add [c] (fieldCode { quote := some (c, false), brackets } rest)
    else if c = '(' || c = '[' || c = '\x7b' then
      if brackets.length < mostBrackets then add [c] (fieldCode { brackets := c :: brackets } rest) else none
    else if brackets.isEmpty && ['!', ':', '\x7d', '=', '<', '>'].contains c then
      match rest with
      | '=' :: rest' =>
        if c = '!' || c = '=' || c = '<' || c = '>' then add [c, '='] (fieldCode { brackets } rest')
        else some ([], c :: rest)
      | rest => if c = '<' || c = '>' then add [c] (fieldCode { brackets } rest) else some ([], c :: rest)
    else match opening? c with
      | none => add [c] (fieldCode { brackets } rest)
      | some opening =>
        match brackets with
        | top :: brackets => if top = opening then add [c] (fieldCode { brackets } rest) else none
        | [] => none
where
  add (taken : Text) (found : Option (Text × Text)) : Option (Text × Text) :=
    found.map fun (code, rest) => (taken ++ code, rest)

def isFieldSpace (c : Char) : Bool := c == ' ' || c == '\t' || c == '\n' || c == '\x0c'

def endsLine (rest : Text) : Bool :=
  match rest.dropWhile isInnerSpace with
  | c :: _ => c = '\n' || c = '\x7d'
  | [] => true

/-- The column of an opening brace in its line. `before` is the text before it in reverse. -/
def braceColumn (before rest : Text) : Nat :=
  if endsLine rest then 0
  else
    let line := before.takeWhile (· != '\n')
    line.foldl (fun size c => size + c.utf8Size) 0

/-- The text of a literal up to a brace, and what is left. `level` is the depth of fields around. Braces are
doubled where they stand for themselves, outside of fields. -/
def pieceText (raw : Bool) (level : Nat) : Text → Option (Text × Text)
  | [] => some ([], [])
  | '\\' :: c :: rest =>
    if raw then (pieceText raw level (c :: rest)).map fun (t, left) => ('\\' :: t, left)
    else if c = '\x7b' || c = '\x7d' then
      match rest with
      | d :: rest' =>
        if level = 0 && d = c then (pieceText raw level rest').map fun (t, left) => ('\\' :: c :: t, left)
        else if level = 0 && c = '\x7d' then none
        else some (['\\'], c :: rest)
      | [] => if level = 0 && c = '\x7d' then none else some (['\\'], c :: rest)
    else (pieceText raw level rest).map fun (t, left) => ('\\' :: c :: t, left)
  | c :: rest =>
    if c = '\x7b' || c = '\x7d' then
      match rest with
      | d :: rest' =>
        if level = 0 && d = c then (pieceText raw level rest').map fun (t, left) => (c :: t, left)
        else if level = 0 && c = '\x7d' then none
        else some ([], c :: rest)
      | [] => if level = 0 && c = '\x7d' then none else some ([], c :: rest)
    else (pieceText raw level rest).map fun (t, left) => (c :: t, left)

/-- What stands before and after a position in a literal. The text before is in reverse. -/
structure LiteralPlace where
  before : Text
  rest : Text

def LiteralPlace.moveTo (p : LiteralPlace) (rest : Text) : LiteralPlace :=
  ⟨(p.rest.take (p.rest.length - rest.length)).reverse ++ p.before, rest⟩

def isShownSpace (c : Char) : Bool := c == ' ' || (9 ≤ c.toNat && c.toNat ≤ 13)

/-- Cut a literal into pieces, up to its end or to the closing brace of the field around it. -/
def literalPieces (raw : Bool) : (fuel level : Nat) → LiteralPlace → Option (List Piece × LiteralPlace)
  | 0, _, _ => none
  | fuel + 1, level, p => do
    let (text, rest) ← pieceText raw level p.rest
    let text ← if raw then some text else unescape true (text.length + 1) text
    let p := p.moveTo rest
    match rest with
    | '\x7b' :: inside =>
      if 2 ≤ level then none
      else do
        let (code, rest) ← fieldCode {} inside
        if code.all isFieldSpace then none
        let shown := if rest.head? = some '=' then
            code ++ '=' :: (rest.drop 1).takeWhile isShownSpace
          else []
        let rest := if shown.isEmpty then rest else (rest.drop 1).dropWhile isShownSpace
        let (conversion, rest) ← match rest with
          | '!' :: c :: rest => if c = 's' || c = 'r' || c = 'a' then some (some c, rest) else none
          | '!' :: [] => none
          | rest => some (none, rest)
        let (layout, after) ← match rest with
          | ':' :: rest => do
            let (pieces, after) ← literalPieces raw fuel (level + 1) (p.moveTo rest)
            some (some pieces, after)
          | rest => some (none, p.moveTo rest)
        match after.rest with
        | '\x7d' :: rest => do
          let conversion := if shown.isEmpty || layout.isSome || conversion.isSome then conversion else some 'r'
          let field := Piece.field code (p.before.count '\n') (braceColumn p.before inside) conversion layout
          let (pieces, last) ← literalPieces raw fuel level (after.moveTo rest)
          return (.text (text ++ shown) :: field :: pieces, last)
        | _ => none
    | _ => return ([.text text], p)

def StringToken.pieces? (token : StringToken) : Option (List Piece) := do
  let start : LiteralPlace := ⟨token.opening.reverse, token.body⟩
  let (pieces, last) ← literalPieces token.isRaw (token.body.length + 2) 0 start
  if last.rest.isEmpty then some pieces else none

end LexGen.Code
