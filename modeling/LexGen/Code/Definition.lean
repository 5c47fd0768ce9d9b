import LexGen.Code.Loose
import LexGen.Unicode.Space

/-!
# The text of a definition

Where the definition of a function stands in the text of its module, from the line on that it begins in. The
end is found from the indentation of loose tokens: a block ends with the line before the next statement that
is not inside it, and a function without a name ends with its line.
-/

namespace LexGen.Code

/-! ## Where a definition begins -/

def beginsWord (word text : Text) : Bool :=
  match Text.after? word text with
  | some (c :: _) => Unicode.isSpace c
  | _ => false

/-- Whether a function without a name begins in a text. `before` is the character before the text. -/
def hasLambda : (before : Option Char) → Text → Bool
  | _, [] => false
  | before, c :: text =>
    if c = '\n' then false
    else
      let free := match before with
        | some b => !Unicode.isWord b
        | none => true
      let here := match Text.after? "lambda".toList (c :: text) with
        | some (d :: _) => free && (d = ':' || Unicode.isSpace d)
        | _ => false
      here || hasLambda (some c) text

def beginsDefinition (line : Text) : Bool :=
  let text := line.dropWhile Unicode.isSpace
  let afterAsync := match Text.after? "async".toList text with
    | some (c :: rest) =>
      Unicode.isSpace c && beginsWord "def".toList (rest.dropWhile Unicode.isSpace)
    | _ => false
  beginsWord "def".toList text || afterAsync || text.head? = some '@' || hasLambda none line

/-- The line, at or before the given one, that a definition begins in. Lines count from zero. -/
def definitionLine (lines : List Text) : (line : Nat) → Nat
  | 0 => 0
  | line + 1 =>
    if beginsDefinition (lines.getD (line + 1) []) then line + 1 else definitionLine lines line

/-! ## Where it ends -/

/-- What is known while the end of a definition is looked for. -/
structure BlockSearch where
  /-- The number of open indentations. -/
  depth : Int := 0
  isLambda : Bool := false
  started : Bool := false
  /-- Whether the rest of the line is passed over. -/
  skipping : Bool := false
  inDecorator : Bool := false
  /-- The last line that belongs to the definition. -/
  last : Nat := 1
  /-- The column of the body. -/
  bodyColumn : Option Nat := none

def BlockSearch.step (b : BlockSearch) (token : LooseToken) : BlockSearch × Bool :=
  if !b.started && !b.inDecorator then
    let b := { b with skipping := true }
    if token.text = ['@'] then ({ b with inDecorator := true }, false)
    else if token.text = "lambda".toList then ({ b with started := true, isLambda := true }, false)
    else ({ b with started := token.text = "def".toList || token.text = "class".toList }, false)
  else if token.kind = .lineEnd then
    let b := { b with skipping := false, last := token.line }
    if b.isLambda then (b, true) else ({ b with inDecorator := false }, false)
  else if b.skipping then (b, false)
  else match token.kind with
    | .indent =>
      let column := if b.bodyColumn.isNone && b.started then some token.lastColumn else b.bodyColumn
      ({ b with bodyColumn := column, depth := b.depth + 1, skipping := true }, false)
    | .dedent => ({ b with depth := b.depth - 1 }, b.depth ≤ 1)
    | .comment =>
      match b.bodyColumn with
      | some column => (if column ≤ token.column then { b with last := token.line } else b, false)
      | none => (b, false)
    | .lineBreak => (b, false)
    | _ => (b, b.depth = 0)

/-- The number of lines of a definition, from its tokens on. Nothing if the code breaks off before its end. -/
def blockLength : BlockSearch → List LooseToken → (failure : Option LooseFailure) → Option Nat
  | b, [], failure => if failure = some .openEnd then none else some b.last
  | b, token :: tokens, failure =>
    match b.step token with
    | (b, true) => some b.last
    | (b, false) => blockLength b tokens failure

/-- The text of the definition that begins at the given line, which counts from zero. Nothing if the code
breaks off before its end. -/
def definitionFrom (lines : List Text) (line : Nat) : Option Text :=
  let rest := lines.drop line
  let (tokens, failure) := looseTokens rest.flatten
  (blockLength {} tokens failure).map fun count => (rest.take count).flatten

end LexGen.Code
