import LexGen.Text.Basic
import LexGen.Unicode.Printable

/-!
# Quoted texts

A quoted text is a string literal of the code that lexers are written in. It stands between single quotes,
or between double quotes when that saves an escape, and every character that cannot be printed is written as
a hexadecimal escape.
-/

namespace LexGen.Text

def hexDigit (n : Nat) : Char :=
  if n < 10 then Char.ofNat (48 + n) else Char.ofNat (87 + n)

/-- The hexadecimal digits of `n`, exactly `width` of them. -/
def hexDigits : (width n : Nat) → Text
  | 0, _ => []
  | width + 1, n => hexDigits width (n / 16) ++ [hexDigit (n % 16)]

def decimal (n : Nat) : Text := (toString n).toList

def decimalInt (i : Int) : Text := (toString i).toList

def longestInteger : Nat := 4300

def quoteMark (text : Text) : Char :=
  if text.contains '\'' && !text.contains '"' then '"' else '\''

def shortEscape? : Char → Option Char
  | '\\' => some '\\'
  | '\n' => some 'n'
  | '\r' => some 'r'
  | '\t' => some 't'
  | _ => none

/-- A hexadecimal escape in the shortest of the forms `\x`, `\u` and `\U`. -/
def hexEscape (c : Char) : Text :=
  if c.toNat < 0x100 then '\\' :: 'x' :: hexDigits 2 c.toNat
  else if c.toNat < 0x10000 then '\\' :: 'u' :: hexDigits 4 c.toNat
  else '\\' :: 'U' :: hexDigits 8 c.toNat

def quotedChar (mark : Char) (c : Char) : Text :=
  if c = mark then ['\\', c]
  else match shortEscape? c with
    | some letter => ['\\', letter]
    | none => if Unicode.isPrintable c then [c] else hexEscape c

def quoted (text : Text) : Text :=
  let mark := quoteMark text
  mark :: text.flatMap (quotedChar mark) ++ [mark]

def quotedByte (mark : Char) (c : Char) : Text :=
  if c = mark then ['\\', c]
  else match shortEscape? c with
    | some letter => ['\\', letter]
    | none => if 0x20 ≤ c.toNat && c.toNat < 0x7f then [c] else '\\' :: 'x' :: hexDigits 2 c.toNat

def quotedBytes (text : Text) : Text :=
  let mark := quoteMark text
  'b' :: mark :: text.flatMap (quotedByte mark) ++ [mark]

end LexGen.Text

namespace LexGen

def quote (s : String) : String :=
  String.ofList (Text.quoted s.toList)

end LexGen
