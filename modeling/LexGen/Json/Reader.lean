import LexGen.Text.Quoted
import LexGen.Value.Equality

/-!
# Reading JSON

A strict reader of JSON texts. Each reading function gives what it has read and the rest of the text. A failure says
what was expected and how many characters are left where it was expected, so that its line and column can be told.
Beside the standard, the words `NaN`, `Infinity` and `-Infinity` are numbers.
-/

namespace LexGen.Json

/-- Why and where a text is not JSON. -/
structure Failure where
  message : String
  /-- The number of characters from the fault to the end of the text. -/
  remaining : Nat
  deriving DecidableEq, Repr

/-- What went wrong with a text: it is not JSON, or a number in it is too long to be converted. -/
inductive Fault where
  | malformed (failure : Failure)
  | longNumber
  deriving DecidableEq, Repr

def failAt {α : Type} (message : String) (rest : Text) : Except Fault α :=
  .error (.malformed ⟨message, rest.length⟩)

def isBlank (c : Char) : Bool := c == ' ' || c == '\t' || c == '\n' || c == '\r'

def skipBlanks (text : Text) : Text := text.dropWhile isBlank

/-! ## Strings -/

def hexValue? (c : Char) : Option Nat :=
  if '0' ≤ c && c ≤ '9' then some (c.toNat - 48)
  else if 'a' ≤ c && c ≤ 'f' then some (c.toNat - 87)
  else if 'A' ≤ c && c ≤ 'F' then some (c.toNat - 55)
  else none

def hexUnit? (a b c d : Char) : Option Nat := do
  return ((← hexValue? a) * 16 + (← hexValue? b)) * 256 + (← hexValue? c) * 16 + (← hexValue? d)

def escaped? : Char → Option Char
  | '"' => some '"'
  | '\\' => some '\\'
  | '/' => some '/'
  | 'b' => some '\x08'
  | 'f' => some '\x0c'
  | 'n' => some '\n'
  | 'r' => some '\r'
  | 't' => some '\t'
  | _ => none

def isHighSurrogate (n : Nat) : Bool := 0xd800 ≤ n && n < 0xdc00

def isLowSurrogate (n : Nat) : Bool := 0xdc00 ≤ n && n < 0xe000

def joined (high low : Nat) : Char :=
  Char.ofNat (0x10000 + (high - 0xd800) * 0x400 + (low - 0xdc00))

/-- The character of a single unit. A half of a pair that stands alone is no character: each one has one of the last
private characters in its place, so that two strings that differ in such halves still differ. -/
def unitChar (unit : Nat) : Char :=
  if isHighSurrogate unit || isLowSurrogate unit then Char.ofNat (0x10f800 + (unit - 0xd800)) else Char.ofNat unit

/-- Read a string after its opening quotation mark. `opened` is the number of characters from that mark to
the end of the text, and `read` holds the characters read so far, in reverse. -/
def stringBody (opened : Nat) : (text read : Text) → Except Fault (Text × Text)
  | [], _ => .error (.malformed ⟨"Unterminated string starting at", opened⟩)
  | '"' :: rest, read => .ok (read.reverse, rest)
  | ['\\'], _ => .error (.malformed ⟨"Unterminated string starting at", opened⟩)
  | '\\' :: 'u' :: a :: b :: c :: d :: '\\' :: 'u' :: a' :: b' :: c' :: d' :: e :: rest, read =>
    match hexUnit? a b c d with
    | none => failAt "Invalid \\uXXXX escape" ('u' :: a :: b :: c :: d :: '\\' :: 'u' :: a' :: b' :: c' :: d' :: e :: rest)
    | some high =>
      if isHighSurrogate high then
        match hexUnit? a' b' c' d' with
        | none => failAt "Invalid \\uXXXX escape" ('u' :: a' :: b' :: c' :: d' :: e :: rest)
        | some low =>
          if isLowSurrogate low then stringBody opened (e :: rest) (joined high low :: read)
          else stringBody opened ('\\' :: 'u' :: a' :: b' :: c' :: d' :: e :: rest) (unitChar high :: read)
      else stringBody opened ('\\' :: 'u' :: a' :: b' :: c' :: d' :: e :: rest) (unitChar high :: read)
  | '\\' :: 'u' :: a :: b :: c :: d :: e :: rest, read =>
    match hexUnit? a b c d with
    | none => failAt "Invalid \\uXXXX escape" ('u' :: a :: b :: c :: d :: e :: rest)
    | some unit => stringBody opened (e :: rest) (unitChar unit :: read)
  | '\\' :: 'u' :: rest, _ => failAt "Invalid \\uXXXX escape" ('u' :: rest)
  | '\\' :: c :: rest, read =>
    match escaped? c with
    | some c' => stringBody opened rest (c' :: read)
    | none => failAt "Invalid \\escape" ('\\' :: c :: rest)
  | c :: rest, read =>
    if c.toNat < 0x20 then failAt "Invalid control character at" (c :: rest)
    else stringBody opened rest (c :: read)

/-! ## Numbers -/

def isDigit (c : Char) : Bool := '0' ≤ c && c ≤ '9'

def fraction? : Text → Option Text
  | '.' :: rest =>
    let digits := rest.takeWhile isDigit
    if digits.isEmpty then none else some ('.' :: digits)
  | _ => none

/-- The exponent at the beginning of a text: its letter, an optional sign and at least one digit. -/
def exponent? : Text → Option Text
  | e :: rest =>
    if e == 'e' || e == 'E' then
      let sign := rest.takeWhile fun c => c == '+' || c == '-'
      let digits := (rest.drop sign.length).takeWhile isDigit
      if digits.isEmpty || 1 < sign.length then none else some (e :: sign ++ digits)
    else none
  | [] => none

/-- The digits of an integer at the beginning of a text: zero alone, or digits that begin otherwise. -/
def integer? : Text → Option Text
  | '0' :: _ => some ['0']
  | c :: rest => if isDigit c then some (c :: rest.takeWhile isDigit) else none
  | [] => none

/-- Read a number after its sign. `whole` is the text from the sign on. -/
def number (negative : Bool) (whole text : Text) : Except Fault (Value × Text) :=
  match integer? text with
  | none => failAt "Expecting value" whole
  | some digits =>
    let rest := text.drop digits.length
    let fraction := (fraction? rest).getD []
    let rest := rest.drop fraction.length
    let exponent := (exponent? rest).getD []
    let rest := rest.drop exponent.length
    if fraction.isEmpty && exponent.isEmpty then
      if Text.longestInteger < digits.length then .error .longNumber
      else
        let n := Binary64.digitsValue digits
        .ok (.int (if negative then -(n : Int) else n), rest)
    else .ok (.float (Binary64.ofText negative (digits ++ fraction ++ exponent)), rest)

/-! ## Values -/

def words : List (String × Value) :=
  [("null", .none), ("true", .bool true), ("false", .bool false), ("NaN", .float .undefined),
   ("Infinity", .float (.infinite false)), ("-Infinity", .float (.infinite true))]

def word? (text : Text) : Option (Value × Text) :=
  words.findSome? fun (name, value) => (Text.after? name.toList text).map fun rest => (value, rest)

mutual

/-- Read a value. The fuel bounds the number of values and entries read; twice the length of the text is enough. -/
def value : (fuel : Nat) → (text : Text) → Except Fault (Value × Text)
  | 0, text => failAt "Expecting value" text
  | _, [] => failAt "Expecting value" []
  | fuel + 1, c :: text =>
    match c with
    | '"' => do
      let (s, rest) ← stringBody (text.length + 1) text []
      return (.str (String.ofList s), rest)
    | '[' =>
      match skipBlanks text with
      | ']' :: rest => .ok (.list [], rest)
      | rest => do
        let (values, rest) ← items fuel rest
        return (.list values, rest)
    | '{' =>
      match skipBlanks text with
      | '}' :: rest => .ok (.dict [], rest)
      | rest => do
        let (pairs, rest) ← entries fuel rest
        return (.dict (Value.dictOf pairs), rest)
    | c =>
      match word? (c :: text) with
      | some found => .ok found
      | none => if c = '-' then number true (c :: text) text else number false (c :: text) (c :: text)

def items : (fuel : Nat) → (text : Text) → Except Fault (List Value × Text)
  | 0, text => failAt "Expecting value" text
  | fuel + 1, text => do
    let (item, rest) ← value fuel text
    match skipBlanks rest with
    | ']' :: rest => return ([item], rest)
    | ',' :: rest =>
      let (others, rest) ← items fuel (skipBlanks rest)
      return (item :: others, rest)
    | rest => failAt "Expecting ',' delimiter" rest

def entries : (fuel : Nat) → (text : Text) → Except Fault (List (Value × Value) × Text)
  | fuel + 1, '"' :: text => do
    let (key, rest) ← stringBody (text.length + 1) text []
    match skipBlanks rest with
    | ':' :: rest =>
      let (item, rest) ← value fuel (skipBlanks rest)
      match skipBlanks rest with
      | '}' :: rest => return ([(.str (String.ofList key), item)], rest)
      | ',' :: rest =>
        let (others, rest) ← entries fuel (skipBlanks rest)
        return ((.str (String.ofList key), item) :: others, rest)
      | rest => failAt "Expecting ',' delimiter" rest
    | rest => failAt "Expecting ':' delimiter" rest
  | _, text => failAt "Expecting property name enclosed in double quotes" text

end

def read (text : Text) : Except Fault Value :=
  match text with
  | '\ufeff' :: _ => failAt "Unexpected UTF-8 BOM (decode using utf-8-sig)" text
  | _ => do
    let (result, rest) ← value (2 * text.length + 2) (skipBlanks text)
    match skipBlanks rest with
    | [] => return result
    | rest => failAt "Extra data" rest

/-! ## The place of a failure -/

def Failure.before (failure : Failure) (text : Text) : Text :=
  text.take (text.length - failure.remaining)

def Failure.line (failure : Failure) (text : Text) : Nat :=
  (failure.before text).count '\n' + 1

def Failure.column (failure : Failure) (text : Text) : Nat :=
  ((failure.before text).reverse.takeWhile (· != '\n')).length + 1

end LexGen.Json
