import LexGen.Unicode.Case
import LexGen.Unicode.Digit
import LexGen.Unicode.Space
import LexGen.Unicode.Word

/-!
# Patterns as trees

The parts that a regular expression is made of, the flags that change their meaning, and the widths of the
texts that they match.
-/

namespace LexGen

/-! ## Flags -/

abbrev PatternFlags := Nat

namespace PatternFlags

def template : PatternFlags := 1
def ignoreCase : PatternFlags := 2
def locale : PatternFlags := 4
def multiline : PatternFlags := 8
def dotAll : PatternFlags := 16
def unicode : PatternFlags := 32
def verbose : PatternFlags := 64
def debug : PatternFlags := 128
def ascii : PatternFlags := 256

def has (flags bits : PatternFlags) : Bool := flags &&& bits != 0

def union (flags bits : PatternFlags) : PatternFlags := flags ||| bits

def without (flags bits : PatternFlags) : PatternFlags := flags - (flags &&& bits)

/-- The flags of which a pattern has one: `locale`, `unicode` and `ascii`. -/
def kinds : PatternFlags := 292

/-- The flags that are told of a pattern: the known ones, except for the one that is taken for granted. -/
def shown : PatternFlags := 479

/-- Two to the power of the number of bits of a machine integer. -/
def bound : PatternFlags := 4294967296

/-- The flags that a number stands for. One that is no machine integer reaches the bound. -/
def ofInt (i : Int) : PatternFlags :=
  let bits := (i % 4294967296).toNat
  if -2147483648 ≤ i && i < 2147483648 then bits else bits + bound

/-- The flags that only a whole pattern can have: `template` and `debug`. -/
def wholePattern : PatternFlags := 129

def inScope (flags add remove : PatternFlags) : PatternFlags :=
  without (union (if has add kinds then without flags kinds else flags) add) remove

end PatternFlags

/-! ## Trees -/

inductive CharClass where
  | digit
  | space
  | word
  deriving DecidableEq, Repr

/-- A member of a character set: code points or a class. -/
inductive SetItem where
  | single (code : Nat)
  | range (first last : Nat)
  | charClass (c : CharClass) (negated : Bool)
  deriving DecidableEq, Repr

/-- A condition on a position. -/
inductive Anchor where
  /-- The beginning of the text, or of a line. -/
  | lineStart
  /-- The beginning of the text. -/
  | textStart
  /-- The end of the text or of a line, also before a final line feed. -/
  | lineEnd
  /-- The end of the text. -/
  | textEnd
  | boundary
  | noBoundary
  deriving DecidableEq, Repr

/-- How a repetition chooses its number of rounds. -/
inductive Greed where
  /-- As many rounds as possible, fewer if the rest does not match. -/
  | greedy
  /-- As few rounds as possible, more if the rest does not match. -/
  | lazy
  /-- As many rounds as possible, whatever the rest does. -/
  | possessive
  deriving DecidableEq, Repr

/-- The least and the greatest number of characters that a pattern matches. -/
structure Width where
  least : Nat
  most : Nat
  deriving DecidableEq, Repr

inductive Node where
  | empty
  | literal (negated : Bool) (code : Nat)
  | any
  | set (negated : Bool) (items : List SetItem)
  | anchor (a : Anchor)
  | seq (first rest : Node)
  | alt (first rest : Node)
  | group (index : Nat) (body : Node)
  /-- A group with flags of its own. -/
  | flagged (add remove : PatternFlags) (body : Node)
  /-- A group that is matched in one way only. -/
  | atomic (body : Node)
  | repetition (greed : Greed) (min : Nat) (max : Option Nat) (body : Node)
  | lookahead (negative : Bool) (body : Node)
  | lookbehind (negative : Bool) (width : Width) (body : Node)
  | backreference (index : Nat)
  /-- One of two patterns, depending on whether a group has matched. -/
  | conditional (index : Nat) (yes no : Node)
  deriving DecidableEq, Repr

/-! ## Widths -/

namespace Width

def bound : Nat := Nat.pow 2 64

def clip (w : Width) : Width := ⟨min w.least bound, min w.most bound⟩

def zero : Width := ⟨0, 0⟩

def one : Width := ⟨1, 1⟩

def add (v w : Width) : Width := clip ⟨v.least + w.least, v.most + w.most⟩

def join (v w : Width) : Width := ⟨min v.least w.least, max v.most w.most⟩

def times (w : Width) (least : Nat) (most : Option Nat) : Width :=
  clip ⟨w.least * least,
    match most with
    | some most => w.most * most
    | none => if w.most = 0 then 0 else bound⟩

end Width

/-! ## Classes -/

def CharClass.contains (c : CharClass) (ascii : Bool) (char : Char) : Bool :=
  match c, ascii with
  | .digit, false => Unicode.isDigit char
  | .digit, true => char.isDigit
  | .space, false => Unicode.isSpace char
  | .space, true => char == ' ' || (9 ≤ char.toNat && char.toNat ≤ 13)
  | .word, false => Unicode.isWord char
  | .word, true => char.isAlphanum || char == '_'

end LexGen
