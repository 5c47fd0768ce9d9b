import LexGen.Unicode.Space

/-!
# Texts

A text is a list of characters. This module holds the operations on texts that know nothing of lines:
prefixes, replacement, trimming and joining.
-/

namespace LexGen

abbrev Text := List Char

namespace Text

/-- The rest of `text` after `start`, when `text` begins with `start`. -/
def after? : (start text : Text) → Option Text
  | [], text => some text
  | _ :: _, [] => none
  | s :: start, c :: text => if s = c then after? start text else none

theorem after?_eq_some {start text rest : Text} :
    after? start text = some rest ↔ text = start ++ rest := by
  induction start generalizing text with
  | nil => simp [after?, eq_comm]
  | cons s start ih =>
    cases text with
    | nil => simp [after?]
    | cons c text =>
      by_cases same : s = c
      · simp [after?, same, ih]
      · simp [after?, same, Ne.symm same]

/-- Whether `text` begins with `start`. -/
def startsWith (start text : Text) : Bool :=
  (after? start text).isSome

/-- Whether `part` occurs somewhere in the text. -/
def occursIn (part : Text) : Text → Bool
  | [] => part.isEmpty
  | c :: text => startsWith part (c :: text) || occursIn part text

/-- The text with the occurrences of `old`, found from left to right without overlap, replaced by
`new`. `skip` counts the characters of the current occurrence that are still to be dropped. -/
def replaceFrom (old new : Text) : (skip : Nat) → Text → Text
  | _, [] => []
  | skip + 1, _ :: text => replaceFrom old new skip text
  | 0, c :: text =>
    if startsWith old (c :: text) then new ++ replaceFrom old new (old.length - 1) text
    else c :: replaceFrom old new 0 text

/-- Replace every occurrence of the nonempty text `old` by `new`, from left to right. -/
def replace (old new text : Text) : Text :=
  replaceFrom old new 0 text

/-- Drop the leading and the trailing characters that satisfy `p`. -/
def trimBy (p : Char → Bool) (text : Text) : Text :=
  ((text.dropWhile p).reverse.dropWhile p).reverse

/-- Drop the trailing characters that satisfy `p`. -/
def trimEndBy (p : Char → Bool) (text : Text) : Text :=
  (text.reverse.dropWhile p).reverse

def trim (text : Text) : Text :=
  trimBy Unicode.isSpace text

def isBlank (text : Text) : Bool :=
  text.all Unicode.isSpace

/-- The position in something of the given length that a number stands for. A negative number counts from the
end, and a position outside stands for the nearest end. -/
def position (length : Nat) (i : Int) : Nat :=
  if i < 0 then (length + i).toNat else min i.toNat length

def upTo (text : Text) (i : Int) : Text :=
  text.take (position text.length i)

def onward (text : Text) (i : Int) : Text :=
  text.drop (position text.length i)

/-- Put `separator` between the texts. -/
def join (separator : Text) : List Text → Text
  | [] => []
  | [text] => text
  | text :: rest => text ++ separator ++ join separator rest

def commonStart : Text → Text → Text
  | a :: as, b :: bs => if a = b then a :: commonStart as bs else []
  | _, _ => []

def byteLength (text : Text) : Nat :=
  text.foldl (fun n c => n + c.utf8Size) 0

end Text

end LexGen
