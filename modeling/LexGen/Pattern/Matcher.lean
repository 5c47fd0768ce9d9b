import LexGen.Pattern.Tree
import LexGen.Text.Basic

/-!
# Matching

Matching by backtracking. A pattern is run at a position with a continuation, which says whether the rest of
the pattern matches from where the pattern ends; the first way to match that the continuation accepts counts.
A repetition makes another round only where the round before it has moved on, so every repetition ends.

An alternative of single characters is an alternative like any other. Engines that make a set of it first find some
characters no more when letters are compared without their case: with `ignoreCase`, `U+10400` is found here by an
alternative of itself and another letter, as it is by itself.
-/

namespace LexGen

/-! ## Positions and captures -/

/-- A position in a text. -/
structure Cursor where
  /-- The characters before the position, the nearest one first. -/
  before : Text
  /-- The characters after the position. -/
  after : Text
  offset : Nat

def Cursor.next? (c : Cursor) : Option (Char × Cursor) :=
  match c.after with
  | [] => none
  | char :: after => some (char, ⟨char :: c.before, after, c.offset + 1⟩)

def Cursor.back? (c : Cursor) : (count : Nat) → Option Cursor
  | 0 => some c
  | count + 1 =>
    match c.before with
    | [] => none
    | char :: before => Cursor.back? ⟨before, char :: c.after, c.offset - 1⟩ count

/-- Where groups have begun and ended, the latest first. -/
structure Captures where
  starts : List (Nat × Cursor) := []
  stops : List (Nat × Nat) := []

/-- What a group has matched. A group that has begun anew after its end has no match. -/
def Captures.text? (captures : Captures) (index : Nat) : Option Text := do
  let start ← captures.starts.lookup index
  let stop ← captures.stops.lookup index
  if start.offset ≤ stop then some (start.after.take (stop - start.offset)) else none

abbrev Match := Cursor × Captures

abbrev Continuation := Match → Option Match

/-! ## Characters -/

def compared (flags : PatternFlags) (code : Nat) : Nat :=
  if flags.has PatternFlags.unicode then Unicode.lowerCode code
  else if 65 ≤ code && code ≤ 90 then code + 32 else code

def hasCase (flags : PatternFlags) (code : Nat) : Bool :=
  if flags.has PatternFlags.unicode then Unicode.isCased code
  else (65 ≤ code && code ≤ 90) || (97 ≤ code && code ≤ 122)

def equals (flags : PatternFlags) (code : Nat) : List Nat :=
  if flags.has PatternFlags.unicode then code :: Unicode.equalWhenUpper code else [code]

def comparedSources (flags : PatternFlags) (code : Nat) : List Nat :=
  if flags.has PatternFlags.unicode then Unicode.lowerSources code
  else (if 65 ≤ code && code ≤ 90 then [] else [code]) ++ (if 97 ≤ code && code ≤ 122 then [code - 32] else [])

def matchesLiteral (flags : PatternFlags) (code : Nat) (char : Char) : Bool :=
  if flags.has PatternFlags.ignoreCase && hasCase flags code then
    (equals flags (compared flags code)).contains (compared flags char.toNat)
  else char.toNat == code

def inClass (flags : PatternFlags) (c : CharClass) (negated : Bool) (char : Char) : Bool :=
  c.contains (!flags.has PatternFlags.unicode) char != negated

namespace SetItem

def contains (flags : PatternFlags) (char : Char) : SetItem → Bool
  | single code => char.toNat == code
  | range first last => first ≤ char.toNat && char.toNat ≤ last
  | charClass c negated => inClass flags c negated char

def basicPlane : Nat := 0x10000

def hasCase (flags : PatternFlags) : SetItem → Bool
  | single code => basicPlane ≤ code || LexGen.hasCase flags code
  | range first last =>
    basicPlane ≤ last ||
      (if flags.has PatternFlags.unicode then Unicode.anyCased first last
        else (first ≤ 90 && 65 ≤ last) || (first ≤ 122 && 97 ≤ last))
  | charClass .. => false

/-- Whether a character, given in compared case, belongs to a member of a set when case does not count. -/
def containsEitherCase (flags : PatternFlags) (char : Char) : SetItem → Bool
  | single code =>
    if basicPlane ≤ code then char.toNat == code
    else (equals flags (compared flags code)).contains char.toNat
  | range first last =>
    let basic := ((equals flags char.toNat).flatMap (comparedSources flags)).any fun code =>
      first ≤ code && code ≤ last && code < basicPlane
    let upper := Unicode.upperCode char.toNat
    basic || (basicPlane ≤ last &&
      ((first ≤ char.toNat && char.toNat ≤ last) || (first ≤ upper && upper ≤ last)))
  | charClass c negated => inClass flags c negated char

end SetItem

def matchesSet (flags : PatternFlags) (items : List SetItem) (char : Char) : Bool :=
  if flags.has PatternFlags.ignoreCase && items.any (·.hasCase flags) then
    items.any (·.containsEitherCase flags (Char.ofNat (compared flags char.toNat)))
  else items.any (·.contains flags char)

/-! ## Anchors -/

def wordNext (flags : PatternFlags) (text : Text) : Bool :=
  match text with
  | [] => false
  | char :: _ => inClass flags .word false char

/-- Whether a position satisfies an anchor. In an empty text there is neither a word boundary nor a position
that is none. -/
def Anchor.holds (flags : PatternFlags) (c : Cursor) : Anchor → Bool
  | lineStart =>
    c.before.isEmpty || (flags.has PatternFlags.multiline && c.before.head? == some '\n')
  | textStart => c.before.isEmpty
  | lineEnd =>
    c.after.isEmpty || c.after == ['\n'] ||
      (flags.has PatternFlags.multiline && c.after.head? == some '\n')
  | textEnd => c.after.isEmpty
  | boundary =>
    !(c.before.isEmpty && c.after.isEmpty) && wordNext flags c.before != wordNext flags c.after
  | noBoundary =>
    !(c.before.isEmpty && c.after.isEmpty) && wordNext flags c.before == wordNext flags c.after

/-! ## Repetition -/

def roundsLeft (max : Option Nat) (count : Nat) : Bool :=
  match max with
  | some max => count < max
  | none => true

/-- Repeat as often as possible, with fewer rounds if `next` does not accept. `count` is the number of rounds
made, and `last` the offset at which the latest optional round began. -/
def repeatGreedy (round : Continuation → Match → Option Match) (min : Nat) (max : Option Nat)
    (next : Continuation) : (fuel count : Nat) → (last : Option Nat) → Match → Option Match
  | 0, _, _, m => next m
  | fuel + 1, count, last, m =>
    if count < min then round (repeatGreedy round min max next fuel (count + 1) last) m
    else if roundsLeft max count && last != some m.1.offset then
      (round (repeatGreedy round min max next fuel (count + 1) (some m.1.offset)) m).orElse fun _ => next m
    else next m

/-- Repeat as seldom as possible, with more rounds if `next` does not accept. -/
def repeatLazy (round : Continuation → Match → Option Match) (min : Nat) (max : Option Nat)
    (next : Continuation) : (fuel count : Nat) → (last : Option Nat) → Match → Option Match
  | 0, _, _, m => next m
  | fuel + 1, count, last, m =>
    if count < min then round (repeatLazy round min max next fuel (count + 1) last) m
    else (next m).orElse fun _ =>
      if roundsLeft max count && last != some m.1.offset then
        round (repeatLazy round min max next fuel (count + 1) (some m.1.offset)) m
      else none

def repeatPossessive (round : Continuation → Match → Option Match) (min : Nat) (max : Option Nat) :
    (fuel count : Nat) → (last : Option Nat) → Match → Option Match
  | 0, _, _, m => some m
  | fuel + 1, count, last, m =>
    if count < min then
      match round some m with
      | some m' => repeatPossessive round min max fuel (count + 1) last m'
      | none => none
    else if roundsLeft max count && last != some m.1.offset then
      match round some m with
      | some m' => repeatPossessive round min max fuel (count + 1) (some m.1.offset) m'
      | none => some m
    else some m

def roundBound (min : Nat) (m : Match) : Nat := min + m.1.after.length + 2

/-! ## Patterns -/

/-- Match one character that satisfies `p`. -/
def matchChar (p : Char → Bool) (next : Continuation) (m : Match) : Option Match :=
  match m.1.next? with
  | some (char, cursor) => if p char then next (cursor, m.2) else none
  | none => none

def matchText (same : Char → Char → Bool) : (text : Text) → Cursor → Option Cursor
  | [], c => some c
  | expected :: text, c =>
    match c.next? with
    | some (char, c') => if same expected char then matchText same text c' else none
    | none => none

def sameChar (flags : PatternFlags) (a b : Char) : Bool :=
  if flags.has PatternFlags.ignoreCase then compared flags a.toNat == compared flags b.toNat else a == b

def Node.run : Node → PatternFlags → Continuation → Match → Option Match
  | empty, _, next, m => next m
  | literal negated code, flags, next, m =>
    matchChar (fun char => matchesLiteral flags code char != negated) next m
  | any, flags, next, m => matchChar (fun char => flags.has PatternFlags.dotAll || char != '\n') next m
  | set negated items, flags, next, m => matchChar (fun char => matchesSet flags items char != negated) next m
  | anchor a, flags, next, m => if a.holds flags m.1 then next m else none
  | seq first rest, flags, next, m => first.run flags (rest.run flags next) m
  | alt first rest, flags, next, m => (first.run flags next m).orElse fun _ => rest.run flags next m
  | group index body, flags, next, m =>
    let opened : Captures := { m.2 with starts := (index, m.1) :: m.2.starts }
    body.run flags
      (fun (c, captures) => next (c, { captures with stops := (index, c.offset) :: captures.stops }))
      (m.1, opened)
  | flagged add remove body, flags, next, m => body.run (flags.inScope add remove) next m
  | atomic body, flags, next, m => (body.run flags some m).bind next
  | repetition .greedy min max body, flags, next, m =>
    repeatGreedy (body.run flags) min max next (roundBound min m) 0 none m
  | repetition .lazy min max body, flags, next, m =>
    repeatLazy (body.run flags) min max next (roundBound min m) 0 none m
  | repetition .possessive min max body, flags, next, m =>
    (repeatPossessive (body.run flags) min max (roundBound min m) 0 none m).bind next
  | lookahead false body, flags, next, m =>
    (body.run flags some m).bind fun found => next (m.1, found.2)
  | lookahead true body, flags, next, m =>
    if (body.run flags some m).isSome then none else next m
  | lookbehind false width body, flags, next, m =>
    match m.1.back? width.least with
    | some c => (body.run flags some (c, m.2)).bind fun found => next (m.1, found.2)
    | none => none
  | lookbehind true width body, flags, next, m =>
    match m.1.back? width.least with
    | some c => if (body.run flags some (c, m.2)).isSome then none else next m
    | none => next m
  | backreference index, flags, next, m =>
    match m.2.text? index with
    | some text => (matchText (sameChar flags) text m.1).bind fun c => next (c, m.2)
    | none => none
  | conditional index yes no, flags, next, m =>
    if (m.2.text? index).isSome then yes.run flags next m else no.run flags next m

def Node.matchLength (node : Node) (flags : PatternFlags) (before after : Text) : Option Nat :=
  let offset := before.length
  (node.run flags some (⟨before, after, offset⟩, {})).map fun found => found.1.offset - offset

end LexGen
