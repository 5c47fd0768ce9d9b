import LexGen.Pattern.Matcher
import LexGen.Pattern.Reader

/-!
# Compiled patterns

A compiled pattern is the text of a pattern with its flags and its tree. Some patterns can be read but not
matched; they are refused here.
-/

namespace LexGen

structure Pattern where
  text : Text
  flags : PatternFlags
  root : Node

def Greed.operator : Greed → String
  | greedy => "MAX_REPEAT"
  | lazy => "MIN_REPEAT"
  | possessive => "POSSESSIVE_REPEAT"

/-- Why a pattern that has been read cannot be matched: what it looks at behind has to have a fixed width. -/
def Node.refusal? : Node → PatternFlags → Option String
  | seq first rest, flags => (first.refusal? flags).orElse fun _ => rest.refusal? flags
  | alt first rest, flags => (first.refusal? flags).orElse fun _ => rest.refusal? flags
  | group _ body, flags => body.refusal? flags
  | flagged add remove body, flags => body.refusal? (flags.inScope add remove)
  | atomic body, flags => body.refusal? flags
  | repetition greed _ _ body, flags =>
    if flags.has PatternFlags.template then some ("internal: unsupported template operator " ++ greed.operator)
    else body.refusal? flags
  | lookahead _ body, flags => body.refusal? flags
  | lookbehind _ width body, flags =>
    if Pattern.longestCount < width.least then some "looks too much behind"
    else if width.least ≠ width.most then some "look-behind requires fixed-width pattern"
    else body.refusal? flags
  | conditional _ yes no, flags => (yes.refusal? flags).orElse fun _ => no.refusal? flags
  | _, _ => none

namespace Pattern

def compile [CharacterNames] (text : Text) (flags : PatternFlags) : Except Failure Pattern := do
  let (root, flags) ← read text flags
  match root.refusal? flags with
  | some message => throw (.malformed message none)
  | none =>
    if PatternFlags.bound ≤ flags then throw .tooLarge
    return ⟨text, flags, root⟩

def shownFlags (pattern : Pattern) : PatternFlags :=
  pattern.flags &&& PatternFlags.shown

/-- The number of characters that a pattern matches between the texts before and after a position. The text
before is given in reverse. -/
def matchLength (pattern : Pattern) (before after : Text) : Option Nat :=
  pattern.root.matchLength pattern.flags before after

/-- What is wrong with a text that is no pattern, and where. Lines are told for texts of several lines. -/
def Failure.describe (text : Text) (message : String) : (position : Option Nat) → String
  | none => message
  | some position =>
    let before := text.take position
    let place := message ++ " at position " ++ toString position
    if text.contains '\n' then
      place ++ " (line " ++ toString (before.count '\n' + 1) ++ ", column " ++
        toString ((before.reverse.takeWhile (· != '\n')).length + 1) ++ ")"
    else place

end Pattern

end LexGen
