import LexGen.Action.Body
import LexGen.Code.Parser.Statement
import LexGen.Proofs.Code.Steps

/-!
# Parsing values

What the parsers of expressions make of the tokens of a value that no operator stands before or after.

* `Level.fullExpression_run`: what is taken as an atom with what follows it is taken as an expression.
* `Level.atom_run_literal`: the atoms that string literals are.
-/

namespace LexGen.Code

open Parse

namespace Level

variable {e : Level} {tokens rest : List Token} {x : Expr}

/-! ## Expressions -/

/-- The words that the values of literals begin with. Numbers and string literals have none. -/
def openingWords : List String := ["", "-", "(", "[", "\x7b", "None", "True", "False", "set", "re"]

def closingWords : List String := ["", ",", ":", ")", "]", "\x7d"]

theorem nextWord_ne {words : List String} {word : String} (mem : nextWord tokens ∈ words) (other : word ∉ words) :
    nextWord tokens ≠ word := fun same => other (same ▸ mem)

theorem trailer_run_other (after : nextWord rest ∈ closingWords) : e.trailer.run rest = some (none, rest) := by
  rw [trailer, run_bind_some (peek_run _)]
  have other {word : String} (absent : word ∉ closingWords) := nextWord_ne after absent
  split
  · exact absurd ‹_› (other (by decide))
  · exact absurd ‹_› (other (by decide))
  · exact absurd ‹_› (other (by decide))
  · rfl

theorem primaryExpression_run (taken : e.atom.run tokens = some (x, rest)) (after : nextWord rest ∈ closingWords) :
    e.primaryExpression.run tokens = some (x, rest) := by
  rw [primaryExpression, run_bind_some taken, run_bind_some (many_run_nil (trailer_run_other after))]
  rfl

theorem factorExpression_run (taken : e.primaryExpression.run tokens = some (x, rest))
    (before : nextWord tokens ∈ openingWords) (unsigned : nextWord tokens ≠ "-")
    (after : nextWord rest ∈ closingWords) : e.factorExpression.run tokens = some (x, rest) := by
  have signs : ∀ word ∈ openingWords, word ≠ "-" →
      [("+", UnaryOp.plus), ("-", .minus), ("~", .invert)].lookup word = none := by decide
  rw [factorExpression, run_bind_some (oneOf_run_other (signs _ before unsigned))]
  change e.powerExpression.run tokens = _
  rw [powerExpression, run_bind_some (accept_run_other (nextWord_ne before (by decide))), run_bind_some taken,
    run_bind_some (accept_run_other (nextWord_ne after (by decide)))]
  rfl

theorem chains_run {tables : List (List (String × BinaryOp))}
    (ended : ∀ table ∈ tables, (oneOf table).run rest = some (none, rest)) {operand : Parse Expr}
    (taken : operand.run tokens = some (x, rest)) :
    (tables.foldl (fun operand table => chain (oneOf table) Expr.binary operand) operand).run tokens =
      some (x, rest) := by
  induction tables generalizing operand with
  | nil => exact taken
  | cons table tables ih =>
    exact ih (fun table mem => ended table (List.mem_cons_of_mem _ mem))
      (chain_run taken (ended table List.mem_cons_self))

section Operand

variable (taken : e.factorExpression.run tokens = some (x, rest)) (before : nextWord tokens ∈ openingWords)
  (after : nextWord rest ∈ closingWords)

include taken after in
theorem bitwiseOrExpression_run : e.bitwiseOrExpression.run tokens = some (x, rest) := by
  have operators : ∀ table ∈ arithmetic, ∀ word ∈ closingWords, table.lookup word = none := by decide
  exact chains_run (fun table mem => oneOf_run_other (operators table mem _ after)) taken

include after in
theorem comparison_run : comparison.run rest = some (none, rest) := by
  have operators : ∀ word ∈ closingWords, [("==", Comparison.equal), ("!=", .notEqual), ("<=", .lessEqual),
      ("<", .less), (">=", .greaterEqual), (">", .greater), ("in", .isIn)].lookup word = none := by decide
  have second : peekSecond.run rest = some (nextWord (rest.drop 1), rest) := rfl
  have notNot := nextWord_ne after (show "not" ∉ closingWords by decide)
  rw [comparison, run_bind_some (oneOf_run_other (operators _ after))]
  dsimp only
  rw [run_bind_some (peek_run _), run_bind_some second, if_neg (by simp [notNot]),
    run_bind_some (accept_run_other (nextWord_ne after (by decide)))]
  rfl

include taken before after

theorem disjunctionExpression_run : e.disjunctionExpression.run tokens = some (x, rest) := by
  have compared : e.comparisonExpression.run tokens = some (x, rest) := by
    rw [comparisonExpression, run_bind_some (bitwiseOrExpression_run taken after), run_bind_some (many_run_nil _)]
    · rfl
    · rw [run_bind_some (comparison_run after)]
      rfl
  have inverted : e.inversionExpression.run tokens = some (x, rest) := by
    rw [inversionExpression, run_bind_some (accept_run_other (nextWord_ne before (by decide)))]
    exact compared
  have joined {word : String} {conjunction : Bool} {operand : Parse Expr} (other : word ∉ closingWords)
      (taken : operand.run tokens = some (x, rest)) :
      (joinedBy word conjunction operand).run tokens = some (x, rest) := by
    rw [joinedBy, run_bind_some (separated_run taken (nextWord_ne after other))]
    rfl
  exact joined (by decide) (joined (by decide) inverted)

theorem fullExpression_run : e.fullExpression.run tokens = some (x, rest) := by
  rw [fullExpression, run_bind_some (peek_run _), if_neg (nextWord_ne before (by decide)),
    run_bind_some (disjunctionExpression_run taken before after), run_bind_some (peek_run _),
    if_neg (nextWord_ne after (by decide))]
  rfl

end Operand

theorem starExpressions_run (taken : e.expression.run tokens = some (x, rest)) (before : nextWord tokens ∈ openingWords)
    (single : nextWord rest ≠ ",") : e.starExpressions.run tokens = some (x, rest) := by
  have one : e.starExpression.run tokens = some (x, rest) := by
    rw [starExpression, run_bind_some (accept_run_other (nextWord_ne before (by decide)))]
    exact taken
  rw [starExpressions, StateT.run_map, commas_run one single]
  rfl

/-! ## Literals -/

theorem isNext_run_literal {t : Token} (literal : t.kind = .literal) :
    (isNext .literal).run (t :: rest) = some (true, t :: rest) := by
  rw [isNext_run, List.head?_cons, Option.any_some, decide_eq_true literal]

def stringConstant (part : StringToken) (v : Text) : Constant := if part.isBytes then .bytes v else .str v false

theorem strings_run {t : Token} {part : StringToken} {v : Text} (literal : t.kind = .literal)
    (taken : StringToken.ofText t.text.toList = part) (plain : part.isFormatted = false)
    (unmarked : part.isMarked = false) (value : part.value? = some v) (after : rest.head?.any (·.kind = .literal) = false) :
    e.strings.run (t :: rest) = some (.constant (stringConstant part v), rest) := by
  have one : (many (do if ← isNext .literal then return some (← take) else return none)).run (t :: rest) =
      some ([t], rest) := by
    refine many_run_one ?_ ?_
    · rw [run_bind_some (isNext_run_literal literal)]
      rfl
    · rw [run_bind_some (isNext_run ..), if_neg (by simp [after])]
      rfl
  rw [strings, run_bind_some one, stringConstant]
  simp only [List.map_cons, List.map_nil, taken, List.any_cons, List.any_nil, plain, List.isEmpty_cons, List.all_cons,
    List.all_nil, Bool.and_true, Bool.and_not_self, Bool.or_false, Bool.false_eq_true, if_false, List.mapM_cons, value,
    List.head?_cons, unmarked, Option.any_some, List.mapM_nil]
  cases v <;> rfl

theorem atom_run_literal {t : Token} (literal : t.kind = .literal)
    (taken : e.strings.run (t :: rest) = some (x, rest)) : e.atom.run (t :: rest) = some (x, rest) := by
  have notName : isIdentifierNext.run (t :: rest) = some (false, t :: rest) := by
    change some (decide (t.kind = .name) && !keywords.contains t.text, t :: rest) = _
    rw [literal]
    rfl
  rw [atom, run_bind_some notName, if_neg (by decide)]
  change (isNext .literal >>= _).run _ = _
  rw [run_bind_some (isNext_run_literal literal), if_pos rfl]
  exact taken

end Level

end LexGen.Code
