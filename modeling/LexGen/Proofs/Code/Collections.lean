import LexGen.Proofs.Code.Expressions

/-!
# Parsing collections

What the parsers of expressions make of values that have no operators outside of brackets: literals, collections of
values, and calls.

* `Level.Takes`: an expression is taken from the front of some tokens, wherever a value may end behind them.
* `takes_list`, `takes_tuple`, `takes_set`, `takes_dict`: collections of values that are taken.
* `takes_emptySet`, `takes_call`: calls of functions.
* `module_run_one`: a module that consists of one statement.
-/

namespace LexGen.Code.Level

open Parse

/-! ## Values -/

def IsMark (word : String) (t : Token) : Prop := t.kind = .operator ∧ t.text = word

theorem IsMark.word {word : String} {t : Token} (mark : IsMark word t) : wordOf t = word := by
  rw [wordOf, mark.1]
  exact mark.2

theorem IsMark.next {word : String} {t : Token} (mark : IsMark word t) (rest : List Token) :
    nextWord (t :: rest) = word := mark.word

def Closes (tokens : List Token) : Prop :=
  ∃ t others, tokens = t :: others ∧ (t.kind = .lineEnd ∨ ∃ word ∈ closingWords, IsMark word t)

theorem closes_mark {word : String} {t : Token} (mark : IsMark word t) (others : List Token)
    (closing : word ∈ closingWords) : Closes (t :: others) := ⟨t, others, rfl, .inr ⟨word, closing, mark⟩⟩

theorem Closes.word {tokens : List Token} (closes : Closes tokens) : nextWord tokens ∈ closingWords := by
  obtain ⟨t, others, rfl, ends | ⟨word, closing, mark⟩⟩ := closes
  · have none : wordOf t = "" := by rw [wordOf, ends]
    rw [show nextWord (t :: others) = wordOf t from rfl, none]
    exact List.mem_cons_self
  · rwa [show nextWord (t :: others) = wordOf t from rfl, mark.word]

theorem Closes.noLiteral {tokens : List Token} (closes : Closes tokens) :
    tokens.head?.any (·.kind = .literal) = false := by
  obtain ⟨t, others, rfl, ends | ⟨-, -, mark, -⟩⟩ := closes
  · simp [ends]
  · simp [mark]

/-- A token that a value begins with. -/
structure Begins (t : Token) : Prop where
  inside : t.kind ≠ .codeEnd
  word : wordOf t ∈ openingWords

/-- A parser of expressions takes an expression that is not starred from the front of some tokens, wherever a value may
end behind them. -/
structure Takes (e : Level) (tokens : List Token) (x : Expr) : Prop where
  begins : ∃ t others, tokens = t :: others ∧ Begins t
  unbound : ∀ rest, Closes rest → nextWord ((tokens ++ rest).drop 1) ∉ [":=", "="]
  single : ∀ y, x ≠ .starred y
  run : ∀ rest, Closes rest → e.expression.run (tokens ++ rest) = some (x, rest)

section

variable {α : Type} {e : Level} {t : Token} {tokens rest : List Token} {x : Expr}

theorem Takes.opens (h : Takes e tokens x) (rest : List Token) : nextWord (tokens ++ rest) ∈ openingWords := by
  obtain ⟨t, others, rfl, begins⟩ := h.begins
  exact begins.word

theorem takes_factor (begins : Begins t) (unbound : ∀ rest, Closes rest → nextWord (tokens ++ rest) ∉ [":=", "="])
    (single : ∀ y, x ≠ .starred y)
    (run : ∀ rest, Closes rest → e.factorExpression.run (t :: (tokens ++ rest)) = some (x, rest)) :
    Takes e.around (t :: tokens) x :=
  ⟨⟨t, tokens, rfl, begins⟩, unbound, single, fun rest closes => fullExpression_run (run rest closes) begins.word closes.word⟩

theorem takes_primary (begins : Begins t) (unsigned : wordOf t ≠ "-")
    (unbound : ∀ rest, Closes rest → nextWord (tokens ++ rest) ∉ [":=", "="]) (single : ∀ y, x ≠ .starred y)
    (run : ∀ rest, Closes rest → e.primaryExpression.run (t :: (tokens ++ rest)) = some (x, rest)) :
    Takes e.around (t :: tokens) x :=
  takes_factor begins unbound single fun rest closes =>
    factorExpression_run (run rest closes) begins.word unsigned closes.word

theorem takes_atom (begins : Begins t) (unsigned : wordOf t ≠ "-")
    (unbound : ∀ rest, Closes rest → nextWord (tokens ++ rest) ∉ [":=", "="]) (single : ∀ y, x ≠ .starred y)
    (run : ∀ rest, Closes rest → e.atom.run (t :: (tokens ++ rest)) = some (x, rest)) : Takes e.around (t :: tokens) x :=
  takes_primary begins unsigned unbound single fun rest closes => primaryExpression_run (run rest closes) closes.word

theorem closing_unbound {rest : List Token} (closes : Closes rest) : nextWord rest ∉ [":=", "="] := by
  have other : ∀ word ∈ closingWords, word ∉ [":=", "="] := by decide
  exact other _ closes.word

/-! ## Single tokens -/

theorem isIdentifierNext_run (tokens : List Token) :
    isIdentifierNext.run tokens = some (tokens.head?.any (fun t => t.kind = .name && !keywords.contains t.text), tokens) := by
  cases tokens <;> rfl

theorem isIdentifierNext_run_other {t : Token} (other : t.kind ≠ .name) :
    isIdentifierNext.run (t :: rest) = some (false, t :: rest) := by
  rw [isIdentifierNext_run]
  simp [other]

theorem takes_literal {t : Token} {part : StringToken} {v : Text} (literal : t.kind = .literal)
    (taken : StringToken.ofText t.text.toList = part) (plain : part.isFormatted = false)
    (unmarked : part.isMarked = false) (value : part.value? = some v) :
    Takes e.around [t] (.constant (stringConstant part v)) := by
  have word : wordOf t = "" := by rw [wordOf, literal]
  exact takes_atom ⟨by simp [literal], by rw [word]; decide⟩ (by rw [word]; decide)
    (fun rest closes => closing_unbound closes) (by simp)
    fun rest closes => atom_run_literal literal (strings_run literal taken plain unmarked value closes.noLiteral)

theorem atom_run_number {t : Token} {c : Constant} (number : t.kind = .number)
    (value : numberValue? t.text.toList = some c) : e.atom.run (t :: rest) = some (.constant c, rest) := by
  rw [atom, run_bind_some (isIdentifierNext_run_other (by simp [number])), if_neg (by decide)]
  rw [run_bind_some (isNext_run ..), if_neg (by simp [number])]
  rw [run_bind_some (isNext_run ..), if_pos (by simp [number]), run_bind_some (take_run ..), value]
  rfl

theorem takes_number {t : Token} {c : Constant} (number : t.kind = .number) (value : numberValue? t.text.toList = some c) :
    Takes e.around [t] (.constant c) := by
  have word : wordOf t = "" := by rw [wordOf, number]
  exact takes_atom ⟨by simp [number], by rw [word]; decide⟩ (by rw [word]; decide)
    (fun rest closes => closing_unbound closes) (by simp) fun rest closes => atom_run_number number value

def constantWords : List (String × Constant) := [("None", .none), ("True", .bool true), ("False", .bool false)]

theorem takes_constant {t : Token} {word : String} {c : Constant} (name : t.kind = .name) (same : t.text = word)
    (known : (word, c) ∈ constantWords) : Takes e.around [t] (.constant c) := by
  have reads : wordOf t = word := by
    rw [wordOf, name]
    exact same
  have words : ∀ entry ∈ constantWords, entry.1 ∈ openingWords ∧ entry.1 ≠ "-" ∧ keywords.contains entry.1 = true := by
    decide
  obtain ⟨opening, unsigned, keyword⟩ := words _ known
  refine takes_atom ⟨by simp [name], by rwa [reads]⟩ (by rwa [reads]) (fun rest closes => closing_unbound closes)
    (by simp) fun rest closes => ?_
  have identifier : isIdentifierNext.run (t :: rest) = some (false, t :: rest) := by
    rw [isIdentifierNext_run, List.head?_cons, Option.any_some, same, keyword, Bool.not_true, Bool.and_false]
  rw [atom, List.nil_append, run_bind_some identifier, if_neg (by decide)]
  change (isNext .literal >>= _).run _ = _
  rw [run_bind_some (isNext_run ..), if_neg (by simp [name])]
  rw [run_bind_some (isNext_run ..), if_neg (by simp [name])]
  change (peek >>= _).run _ = _
  rw [run_bind_some (peek_run _), show nextWord (t :: rest) = word from reads]
  simp only [constantWords, List.mem_cons, List.not_mem_nil, or_false, Prod.mk.injEq] at known
  rcases known with ⟨rfl, rfl⟩ | ⟨rfl, rfl⟩ | ⟨rfl, rfl⟩ <;> rfl

theorem takes_minus {sign : Token} (minus : IsMark "-" sign) {t : Token} {c : Constant} (number : t.kind = .number)
    (value : numberValue? t.text.toList = some c) : Takes e.around.around [sign, t] (.unary .minus (.constant c)) := by
  have word : wordOf t = "" := by rw [wordOf, number]
  refine takes_factor ⟨by simp [minus.1], by rw [minus.word]; decide⟩ (fun rest closes => ?_) (by simp)
    fun rest closes => ?_
  · change wordOf t ∉ _
    rw [word]
    decide
  · have first : (oneOf [("+", UnaryOp.plus), ("-", .minus), ("~", .invert)]).run (sign :: t :: rest) =
        some (some .minus, t :: rest) := by
      rw [oneOf, run_bind_some (peek_run _), minus.next]
      rfl
    have opens : nextWord (t :: rest) = "" := word
    have operand : e.factorExpression.run (t :: rest) = some (.constant c, rest) :=
      factorExpression_run (primaryExpression_run (atom_run_number number value) closes.word)
        (by rw [opens]; exact List.mem_cons_self) (by rw [opens]; decide) closes.word
    change e.around.factorExpression.run (sign :: t :: rest) = _
    rw [factorExpression, run_bind_some first]
    change (e.factorExpression >>= _).run _ = _
    rw [run_bind_some operand]
    rfl

/-! ## Items -/

theorem Takes.namedExpression_run (h : Takes e tokens x) (closes : Closes rest) :
    e.namedExpression.run (tokens ++ rest) = some (x, rest) := by
  have second : peekSecond.run (tokens ++ rest) = some (nextWord ((tokens ++ rest).drop 1), tokens ++ rest) := rfl
  have unbound := h.unbound rest closes
  simp only [List.mem_cons, List.not_mem_nil, or_false, not_or] at unbound
  have behind := closing_unbound closes
  simp only [List.mem_cons, List.not_mem_nil, or_false, not_or] at behind
  rw [namedExpression, run_bind_some (isIdentifierNext_run _), run_bind_some second,
    if_neg (by rw [decide_eq_false unbound.1, Bool.and_false]; decide), run_bind_some (h.run rest closes), run_bind_some (peek_run _), if_neg behind.1]
  rfl

theorem Takes.starNamed_run (h : Takes e tokens x) (closes : Closes rest) :
    e.starNamed.run (tokens ++ rest) = some (x, rest) := by
  rw [starNamed, run_bind_some (accept_run_other (nextWord_ne (h.opens rest) (by decide)))]
  exact h.namedExpression_run closes

theorem isClauseNext_run (closes : Closes rest) : isClauseNext.run rest = some (false, rest) := by
  have notFor := nextWord_ne closes.word (show "for" ∉ closingWords by decide)
  have notAsync := nextWord_ne closes.word (show "async" ∉ closingWords by decide)
  have second : peekSecond.run rest = some (nextWord (rest.drop 1), rest) := rfl
  rw [isClauseNext, run_bind_some (peek_run _), run_bind_some second]
  simp [notFor, notAsync]

/-- Items with a comma before each. -/
inductive Tail (Item : List Token → α → Prop) : List Token → List α → Prop
  | nil : Tail Item [] []
  | cons {comma : Token} {tokens others : List Token} {a : α} {items : List α} (mark : IsMark "," comma)
    (item : Item tokens a) (more : Tail Item others items) : Tail Item (comma :: (tokens ++ others)) (a :: items)

def TakesItems (p : Parse α) (Item : List Token → α → Prop) : Prop :=
  ∀ tokens a rest, Item tokens a → Closes rest → p.run (tokens ++ rest) = some (a, rest)

theorem Tail.closes {Item : List Token → α → Prop} {items : List α} (h : Tail Item tokens items) (closes : Closes rest) :
    Closes (tokens ++ rest) := by
  cases h with
  | nil => exact closes
  | cons mark => exact closes_mark mark _ (by decide)

theorem Tail.length {Item : List Token → α → Prop} {items : List α} (h : Tail Item tokens items) :
    items.length ≤ tokens.length := by
  induction h with
  | nil => exact Nat.zero_le _
  | cons _ _ _ ih =>
    simp
    omega

/-- The rounds that take items with a comma before each. They end where another comma would have no item. -/
theorem Tail.repeats {Item : List Token → α → Prop} {items : List α} {p : Parse α} (takes : TakesItems p Item)
    (h : Tail Item tokens items) (closes : Closes rest)
    (ended : (attempt do expect ","; p).run rest = some (none, rest)) {f : Option α → Parse (Option α)}
    (found : ∀ a, f (some a) = pure (some a)) (missing : f none = pure none) :
    Repeats ((attempt do expect ","; p) >>= f) (tokens ++ rest) items rest := by
  induction h with
  | nil =>
    refine .nil ?_
    rw [List.nil_append, run_bind_some ended, missing]
    rfl
  | @cons comma tokens others a items mark item more ih =>
    have one := takes tokens a (others ++ rest) item (more.closes closes)
    have taken : (do expect ","; p : Parse α).run (comma :: (tokens ++ (others ++ rest))) = some (a, others ++ rest) := by
      rw [run_bind_some (expect_run _ mark.word)]
      exact one
    refine .cons ?_ ?_ ih
    · rw [List.cons_append, List.append_assoc, run_bind_some (attempt_run taken), found]
      rfl
    · simp only [List.length_append, List.length_cons]
      omega

/-- Items with commas between them. -/
inductive Row (Item : List Token → α → Prop) : List Token → List α → Prop
  | nil : Row Item [] []
  | cons {tokens others : List Token} {a : α} {items : List α} (item : Item tokens a) (more : Tail Item others items) :
    Row Item (tokens ++ others) (a :: items)

theorem takesItems_starNamed (e : Level) : TakesItems e.starNamed (Takes e) :=
  fun _ _ _ item closes => item.starNamed_run closes

/-! ## Brackets -/

theorem bracketed_run {items : List Expr} (row : Row (Takes e) tokens items) {closing : Token} (mark : IsMark "]" closing)
    (rest : List Token) : e.bracketed.run (tokens ++ closing :: rest) = some (.list items, rest) := by
  have closes : Closes (closing :: rest) := closes_mark mark rest (by decide)
  have noComma : nextWord (closing :: rest) ≠ "," := by
    rw [mark.next]
    decide
  cases row with
  | nil =>
    rw [List.nil_append, bracketed, run_bind_some (accept_run mark.word)]
    rfl
  | @cons first others x items item more =>
    have opens : nextWord (first ++ (others ++ closing :: rest)) ≠ "]" := nextWord_ne (item.opens _) (by decide)
    rw [List.append_assoc, bracketed, run_bind_some (accept_run_other opens), if_neg (by decide)]
    change (e.starNamed >>= _).run _ = _
    rw [run_bind_some (item.starNamed_run (more.closes closes)), run_bind_some (isClauseNext_run (more.closes closes)),
      Bool.and_false, if_neg (by decide)]
    refine (run_bind_some (more.repeats (takesItems_starNamed e) closes (attempt_run_other noComma) ?_ ?_).many_run).trans ?_
    · exact fun _ => rfl
    · rfl
    · rw [run_bind_some (accept_run_other noComma), run_bind_some (expect_run _ mark.word)]
      rfl

theorem Row.word {Item : List Token → α → Prop} {items : List α} (row : Row Item tokens items)
    (opens : ∀ tokens a rest, Item tokens a → nextWord (tokens ++ rest) ∈ openingWords) {word : String} {closing : Token}
    (mark : IsMark word closing) (rest : List Token) :
    nextWord (tokens ++ closing :: rest) ∈ word :: openingWords := by
  cases row with
  | nil =>
    rw [List.nil_append, mark.next]
    exact List.mem_cons_self
  | cons item =>
    rw [List.append_assoc]
    exact List.mem_cons_of_mem _ (opens _ _ _ item)

theorem takes_opened {word : String} {opening : Token} (opens : IsMark word opening) (known : word ∈ ["(", "[", "\x7b"])
    (unbound : ∀ rest, Closes rest → nextWord (tokens ++ rest) ∉ [":=", "="]) (single : ∀ y, x ≠ .starred y)
    (run : ∀ rest, Closes rest → e.atom.run (opening :: (tokens ++ rest)) = some (x, rest)) :
    Takes e.around (opening :: tokens) x := by
  have words : ∀ word ∈ ["(", "[", "\x7b"], word ∈ openingWords ∧ word ≠ "-" := by decide
  obtain ⟨opening, unsigned⟩ := words word known
  exact takes_atom ⟨by simp [opens.1], by rwa [opens.word]⟩ (by rwa [opens.word]) unbound single run

/-- What follows an opening bracket. Nothing begins with a closing one. -/
def insideOf (e : Level) : List (String × Parse Expr) :=
  [("(", e.parenthesized), ("[", e.bracketed), ("\x7b", e.braced), (")", failure)]

theorem atom_run_mark {word : String} {p : Parse Expr} (known : (word, p) ∈ e.insideOf) {t : Token}
    (mark : IsMark word t) (rest : List Token) : e.atom.run (t :: rest) = p.run rest := by
  have kind := mark.1
  rw [atom, run_bind_some (isIdentifierNext_run_other (by simp [kind])), if_neg (by decide)]
  change (isNext .literal >>= _).run _ = _
  rw [run_bind_some (isNext_run ..), if_neg (by simp [kind])]
  rw [run_bind_some (isNext_run ..), if_neg (by simp [kind])]
  change (peek >>= _).run _ = _
  rw [run_bind_some (peek_run _), mark.next]
  simp only [insideOf, List.mem_cons, List.not_mem_nil, or_false, Prod.mk.injEq] at known
  rcases known with ⟨rfl, rfl⟩ | ⟨rfl, rfl⟩ | ⟨rfl, rfl⟩ | ⟨rfl, rfl⟩ <;> rfl

theorem takes_list {items : List Expr} (row : Row (Takes e) tokens items) {opening closing : Token}
    (opens : IsMark "[" opening) (mark : IsMark "]" closing) :
    Takes e.around (opening :: (tokens ++ [closing])) (.list items) := by
  refine takes_opened opens (by decide) (fun rest closes => ?_) (by simp) fun rest closes => ?_
  · have other : ∀ word ∈ "]" :: openingWords, word ∉ [":=", "="] := by decide
    rw [List.append_assoc]
    exact other _ (row.word (fun _ _ rest item => item.opens rest) mark rest)
  · rw [atom_run_mark (p := e.bracketed) (by simp [insideOf]) opens, List.append_assoc]
    exact bracketed_run row mark rest

/-! ## Parentheses -/

theorem expression_run_fails (depth : Nat) {closing : Token} (mark : IsMark ")" closing) (rest : List Token) :
    (ofDepth depth).expression.run (closing :: rest) = none := by
  cases depth with
  | zero => rfl
  | succ depth =>
    have word := mark.next rest
    have other {w : String} (different : w ≠ ")") : nextWord (closing :: rest) ≠ w := by
      rw [word]
      exact different.symm
    have atom : (ofDepth depth).atom.run (closing :: rest) = none := by
      rw [atom_run_mark (p := failure) (by simp [insideOf]) mark]
      rfl
    have factor : (ofDepth depth).factorExpression.run (closing :: rest) = none := by
      rw [factorExpression, run_bind_some (oneOf_run_other (by rw [word]; rfl))]
      change (ofDepth depth).powerExpression.run _ = _
      rw [powerExpression, run_bind_some (accept_run_other (other (by decide)))]
      exact run_bind_none _ (run_bind_none _ atom)
    have chains (tables : List (List (String × BinaryOp))) (operand : Parse Expr)
        (fails : operand.run (closing :: rest) = none) :
        (tables.foldl (fun operand table => chain (oneOf table) Expr.binary operand) operand).run (closing :: rest) =
          none := by
      induction tables generalizing operand with
      | nil => exact fails
      | cons table tables ih => exact ih _ (run_bind_none _ fails)
    have inversion : (ofDepth depth).inversionExpression.run (closing :: rest) = none := by
      rw [inversionExpression, run_bind_some (accept_run_other (other (by decide)))]
      exact run_bind_none _ (chains _ _ factor)
    change (ofDepth depth).fullExpression.run _ = _
    rw [fullExpression, run_bind_some (peek_run _), if_neg (other (by decide))]
    exact run_bind_none _ (run_bind_none _ (run_bind_none _ (run_bind_none _ (run_bind_none _ inversion))))

theorem starNamed_run_fails (depth : Nat) {closing : Token} (mark : IsMark ")" closing) (rest : List Token) :
    (ofDepth depth).starNamed.run (closing :: rest) = none := by
  have word := mark.next rest
  have second : peekSecond.run (closing :: rest) = some (nextWord rest, closing :: rest) := rfl
  rw [starNamed, run_bind_some (accept_run_other (by rw [word]; decide))]
  change (ofDepth depth).namedExpression.run _ = _
  rw [namedExpression, run_bind_some (isIdentifierNext_run_other (by simp [mark.1])), run_bind_some second,
    Bool.false_and, if_neg (by decide)]
  exact run_bind_none _ (expression_run_fails depth mark rest)

/-- Where the items of a tuple end: at its closing parenthesis, with or without a comma before it. -/
structure EndsTuple (e : Level) (tokens : List Token) (rest : List Token) (trailing : Bool) : Prop where
  closes : Closes tokens
  ended : (attempt do expect ","; e.starNamed).run tokens = some (none, tokens)
  comma : ∃ closing, IsMark ")" closing ∧ (accept ",").run tokens = some (trailing, closing :: rest)

theorem endsTuple_closing {closing : Token} (mark : IsMark ")" closing) (rest : List Token) :
    EndsTuple e (closing :: rest) rest false := by
  have noComma : nextWord (closing :: rest) ≠ "," := by
    rw [mark.next]
    decide
  exact ⟨closes_mark mark rest (by decide), attempt_run_other noComma, closing, mark, accept_run_other noComma⟩

theorem endsTuple_comma (depth : Nat) {comma closing : Token} (trailing : IsMark "," comma) (mark : IsMark ")" closing)
    (rest : List Token) : EndsTuple (ofDepth depth) (comma :: closing :: rest) rest true := by
  refine ⟨closes_mark trailing _ (by decide), attempt_run_fails ?_, closing, mark, accept_run trailing.word⟩
  rw [run_bind_some (expect_run _ trailing.word)]
  exact starNamed_run_fails depth mark rest

theorem commas_run_row {Item : List Token → α → Prop} {p : Parse α} {items : List α} (row : Row Item tokens items)
    (nonempty : items ≠ []) (takes : TakesItems p Item) (closes : Closes rest)
    (ended : (attempt do expect ","; p).run rest = some (none, rest)) {trailing : Bool} {after : List Token}
    (comma : (accept ",").run rest = some (trailing, after)) :
    (commas p).run (tokens ++ rest) = some ((items, trailing), after) := by
  cases row with
  | nil => exact absurd rfl nonempty
  | @cons first others a items item more =>
    rw [commas, List.append_assoc, run_bind_some (takes first a (others ++ rest) item (more.closes closes))]
    refine (run_bind_some (more.repeats takes closes ended ?_ ?_).many_run).trans ?_
    · exact fun _ => rfl
    · rfl
    · rw [run_bind_some comma]
      rfl

theorem parenthesized_run (item : Takes e tokens x) {comma : Token} (mark : IsMark "," comma) (rest : List Token) :
    e.parenthesized.run (tokens ++ comma :: rest) = (do
      if ← accept ")" then return .tuple [x]
      let (rest, _) ← commas e.starNamed
      expect ")"
      return .tuple (x :: rest) : Parse Expr).run rest := by
  have closes : Closes (comma :: rest) := closes_mark mark rest (by decide)
  have other {word : String} (absent : word ∉ openingWords) := nextWord_ne (item.opens (comma :: rest)) absent
  rw [parenthesized, run_bind_some (accept_run_other (other (by decide))), if_neg (by decide)]
  change (peek >>= _).run _ = _
  rw [run_bind_some (peek_run _), if_neg (other (by decide))]
  rw [run_bind_some (item.starNamed_run closes), run_bind_some (isClauseNext_run closes), Bool.and_false,
    if_neg (by decide)]
  rw [run_bind_some (accept_run mark.word), if_pos rfl]

theorem takes_single (item : Takes e tokens x) {opening comma closing : Token} (opens : IsMark "(" opening)
    (separates : IsMark "," comma) (mark : IsMark ")" closing) :
    Takes e.around (opening :: (tokens ++ [comma, closing])) (.tuple [x]) := by
  refine takes_opened opens (by decide) (fun rest closes => ?_) (by simp) fun rest closes => ?_
  · have other : ∀ word ∈ openingWords, word ∉ [":=", "="] := by decide
    rw [List.append_assoc]
    exact other _ (item.opens _)
  · rw [atom_run_mark (p := e.parenthesized) (by simp [insideOf]) opens, List.append_assoc]
    change e.parenthesized.run (tokens ++ comma :: closing :: rest) = _
    rw [parenthesized_run item separates, run_bind_some (accept_run mark.word)]
    rfl

theorem takes_unit {opening closing : Token} (opens : IsMark "(" opening) (mark : IsMark ")" closing) :
    Takes e.around [opening, closing] (.tuple []) := by
  refine takes_opened opens (by decide) (fun rest closes => ?_) (by simp) fun rest closes => ?_
  · rw [List.cons_append, mark.next]
    decide
  · rw [atom_run_mark (p := e.parenthesized) (by simp [insideOf]) opens]
    change e.parenthesized.run (closing :: rest) = _
    rw [parenthesized, run_bind_some (accept_run mark.word)]
    rfl

theorem takes_tuple {behind : List Token} {items : List Expr} (row : Row (Takes e) tokens items) (two : 2 ≤ items.length)
    {opening : Token} (opens : IsMark "(" opening) {trailing : Bool}
    (ends : ∀ rest, EndsTuple e (behind ++ rest) rest trailing) :
    Takes e.around (opening :: (tokens ++ behind)) (.tuple items) := by
  obtain _ | @⟨first, others, x, items, item, more⟩ := row
  · cases two
  obtain _ | @⟨comma, second, others, y, items, separates, next, more⟩ := more
  · exact absurd two (by simp)
  refine takes_opened opens (by decide) (fun rest closes => ?_) (by simp) fun rest closes => ?_
  · have other : ∀ word ∈ openingWords, word ∉ [":=", "="] := by decide
    rw [List.append_assoc, List.append_assoc]
    exact other _ (item.opens _)
  · have row : Row (Takes e) (second ++ others) (y :: items) := .cons next more
    obtain ⟨closing, mark, trails⟩ := (ends rest).comma
    rw [atom_run_mark (p := e.parenthesized) (by simp [insideOf]) opens, List.append_assoc, List.append_assoc,
      List.cons_append, parenthesized_run item separates,
      run_bind_some (accept_run_other (by rw [List.append_assoc]; exact nextWord_ne (next.opens _) (by decide))),
      if_neg (by decide)]
    change (commas e.starNamed >>= _).run _ = _
    rw [run_bind_some (commas_run_row row (by simp) (takesItems_starNamed e) (ends rest).closes (ends rest).ended trails),
      run_bind_some (expect_run _ mark.word)]
    rfl

/-! ## Braces -/

/-- An entry of a mapping. -/
inductive TakesEntry (e : Level) : List Token → Entry → Prop
  | pair {first second : List Token} {key value : Expr} {colon : Token} (front : Takes e first key)
    (mark : IsMark ":" colon) (back : Takes e second value) :
    TakesEntry e (first ++ colon :: second) (.pair key value)

theorem takesItems_entry (e : Level) : TakesItems e.entry (TakesEntry e) := by
  rintro _ _ rest ⟨front, mark, back⟩ closes
  rw [entry, List.append_assoc, run_bind_some (accept_run_other (nextWord_ne (front.opens _) (by decide)))]
  change (e.expression >>= _).run _ = _
  rw [List.cons_append, run_bind_some (front.run _ (closes_mark mark _ (by decide))),
    run_bind_some (expect_run _ mark.word), run_bind_some (back.run rest closes)]
  rfl

theorem braced_run (item : Takes e tokens x) (closes : Closes rest) :
    e.braced.run (tokens ++ rest) = (do
      if (← peek) = ":" then
        expect ":"
        let value ← e.expression
        if ← isClauseNext then
          let clauses ← e.clauses
          expect "\x7d"
          return .comprehension .dict (some x) value clauses
        return ← e.moreEntries (.pair x value)
      if ← isClauseNext then
        let clauses ← e.clauses
        expect "\x7d"
        return .comprehension .set none x clauses
      e.moreItems x : Parse Expr).run rest := by
  have unbound := item.unbound rest closes
  simp only [List.mem_cons, List.not_mem_nil, or_false, not_or] at unbound
  have second : peekSecond.run (tokens ++ rest) = some (nextWord ((tokens ++ rest).drop 1), tokens ++ rest) := rfl
  have other {word : String} (absent : word ∉ openingWords) := nextWord_ne (item.opens rest) absent
  rw [braced, run_bind_some (accept_run_other (other (by decide))), if_neg (by decide)]
  change (peek >>= _).run _ = _
  rw [run_bind_some (peek_run _), if_neg (other (by decide))]
  rw [run_bind_some (isIdentifierNext_run _), run_bind_some second, run_bind_some (item.starNamed_run closes),
    decide_eq_false unbound.1, Bool.and_false, Bool.not_false]
  dsimp only
  split
  · exact absurd rfl (item.single _)
  · simp only [Bool.not_false, Bool.true_and, decide_eq_true_eq]

theorem brace_noComma {closing : Token} (mark : IsMark "\x7d" closing) (rest : List Token) :
    nextWord (closing :: rest) ≠ "," := by
  rw [mark.next]
  decide

theorem takes_set {items : List Expr} (row : Row (Takes e) tokens items) (nonempty : items ≠ []) {opening closing : Token}
    (opens : IsMark "\x7b" opening) (mark : IsMark "\x7d" closing) :
    Takes e.around (opening :: (tokens ++ [closing])) (.set items) := by
  refine takes_opened opens (by decide) (fun rest closes => ?_) (by simp) fun rest closes => ?_
  · have other : ∀ word ∈ "\x7d" :: openingWords, word ∉ [":=", "="] := by decide
    rw [List.append_assoc]
    exact other _ (row.word (fun _ _ rest item => item.opens rest) mark rest)
  · rw [atom_run_mark (p := e.braced) (by simp [insideOf]) opens, List.append_assoc]
    change e.braced.run (tokens ++ closing :: rest) = _
    have ends : Closes (closing :: rest) := closes_mark mark rest (by decide)
    have noComma := brace_noComma mark rest
    cases row with
    | nil => exact absurd rfl nonempty
    | @cons first others x items item more =>
      have noColon : nextWord (others ++ closing :: rest) ≠ ":" := by
        cases more with
        | nil =>
          rw [List.nil_append, mark.next]
          decide
        | @cons comma tokens others a items separates item more =>
          rw [List.cons_append, separates.next]
          decide
      rw [List.append_assoc, braced_run item (more.closes ends), run_bind_some (peek_run _), if_neg noColon]
      change (isClauseNext >>= _).run _ = _
      rw [run_bind_some (isClauseNext_run (more.closes ends)), if_neg (by decide)]
      rw [moreItems]
      refine (run_bind_some (more.repeats (takesItems_starNamed e) ends (attempt_run_other noComma) ?_ ?_).many_run).trans ?_
      · exact fun _ => rfl
      · rfl
      · rw [run_bind_some (accept_run_other noComma), run_bind_some (expect_run _ mark.word)]
        rfl

theorem takes_dict {entries : List Entry} (row : Row (TakesEntry e) tokens entries) {opening closing : Token}
    (opens : IsMark "\x7b" opening) (mark : IsMark "\x7d" closing) :
    Takes e.around (opening :: (tokens ++ [closing])) (.dict entries) := by
  refine takes_opened opens (by decide) (fun rest closes => ?_) (by simp) fun rest closes => ?_
  · have other : ∀ word ∈ "\x7d" :: openingWords, word ∉ [":=", "="] := by decide
    have begins : ∀ tokens entry rest, TakesEntry e tokens entry → nextWord (tokens ++ rest) ∈ openingWords := by
      rintro _ _ rest ⟨front, -, -⟩
      rw [List.append_assoc]
      exact front.opens _
    rw [List.append_assoc]
    exact other _ (row.word begins mark rest)
  · rw [atom_run_mark (p := e.braced) (by simp [insideOf]) opens, List.append_assoc]
    change e.braced.run (tokens ++ closing :: rest) = _
    have ends : Closes (closing :: rest) := closes_mark mark rest (by decide)
    have noComma := brace_noComma mark rest
    cases row with
    | nil =>
      rw [List.nil_append, braced, run_bind_some (accept_run mark.word)]
      rfl
    | @cons first others entry entries item more =>
      obtain @⟨front, back, key, value, colon, first, separates, second⟩ := item
      have colonCloses (rest : List Token) : Closes (colon :: rest) := closes_mark separates rest (by decide)
      rw [List.append_assoc, List.append_assoc, List.cons_append, braced_run first (colonCloses _),
        run_bind_some (peek_run _), if_pos (separates.next _)]
      change (expect ":" >>= _).run _ = _
      rw [run_bind_some (expect_run _ separates.word), run_bind_some (second.run _ (more.closes ends)),
        run_bind_some (isClauseNext_run (more.closes ends)), if_neg (by decide)]
      rw [moreEntries]
      refine (run_bind_some (more.repeats (takesItems_entry e) ends (attempt_run_other noComma) ?_ ?_).many_run).trans ?_
      · exact fun _ => rfl
      · rfl
      · rw [run_bind_some (accept_run_other noComma), run_bind_some (expect_run _ mark.word)]
        rfl

/-! ## Attributes and calls -/

/-- A name that is no keyword, written as it is. -/
structure IsName (name : String) (t : Token) : Prop where
  kind : t.kind = .name
  text : t.text = name
  free : keywords.contains name = false
  ascii : name.toList.all (·.toNat < 128)

theorem IsName.next {name : String} {t : Token} (h : IsName name t) (rest : List Token) : nextWord (t :: rest) = name := by
  change wordOf t = name
  rw [wordOf, h.kind]
  exact h.text

theorem identifier_run_name {name : String} {t : Token} (h : IsName name t) (rest : List Token) :
    identifier.run (t :: rest) = some (name, rest) := by
  rw [identifier, run_bind_some (takeKind_run .name h.kind), h.text, if_neg (by rw [h.free]; decide),
    Unicode.identifierName, if_pos h.ascii]
  rfl

theorem atom_run_name {name : String} {t : Token} (h : IsName name t) (rest : List Token) :
    e.atom.run (t :: rest) = some (.name name .load t.place, rest) := by
  have identifier : isIdentifierNext.run (t :: rest) = some (true, t :: rest) := by
    rw [isIdentifierNext_run]
    simp only [List.head?_cons, Option.any_some, h.kind, h.text, h.free]
    rfl
  have here : place.run (t :: rest) = some (t.place, t :: rest) := rfl
  rw [atom, run_bind_some identifier, if_pos rfl]
  change (place >>= _).run _ = _
  rw [run_bind_some here, run_bind_some (identifier_run_name h rest)]
  rfl

theorem takes_trailed {name : String} (known : name ∈ ["set", "re"]) {t : Token} (h : IsName name t)
    {trailers : List (Expr → Expr)} (unbound : ∀ rest, nextWord (tokens ++ rest) ∉ [":=", "="])
    (single : ∀ y, x ≠ .starred y) (run : ∀ rest, Closes rest → Repeats e.trailer (tokens ++ rest) trailers rest)
    (result : trailers.foldl (fun value trailer => trailer value) (.name name .load t.place) = x) : Takes e.around (t :: tokens) x := by
  have words : ∀ name ∈ ["set", "re"], name ∈ openingWords ∧ name ≠ "-" := by decide
  have word : wordOf t = name := h.next []
  obtain ⟨opening, unsigned⟩ := words name known
  refine takes_primary ⟨by simp [h.kind], by rwa [word]⟩ (by rwa [word]) (fun rest _ => unbound rest) single
    fun rest closes => ?_
  rw [primaryExpression, run_bind_some (atom_run_name h _), run_bind_some (run rest closes).many_run, result]
  rfl

theorem trailer_run_attribute {name : String} {point t : Token} (mark : IsMark "." point) (h : IsName name t)
    (rest : List Token) :
    e.trailer.run (point :: t :: rest) = some (some fun value => .attribute value name, rest) := by
  rw [trailer, run_bind_some (peek_run _), mark.next]
  change (take >>= _).run _ = _
  rw [run_bind_some (take_run ..), run_bind_some (identifier_run_name h rest)]
  rfl

theorem argument_run (item : Takes e tokens x) (closes : Closes rest) (found : List Expr) :
    (e.argument { positional := found }).run (tokens ++ rest) = some ({ positional := x :: found }, rest) := by
  have second : peekSecond.run (tokens ++ rest) = some (nextWord ((tokens ++ rest).drop 1), tokens ++ rest) := rfl
  have unbound := item.unbound rest closes
  simp only [List.mem_cons, List.not_mem_nil, or_false, not_or] at unbound
  have other {word : String} (absent : word ∉ openingWords) := nextWord_ne (item.opens rest) absent
  rw [argument, run_bind_some (accept_run_other (other (by decide))), if_neg (by decide)]
  change (accept "**" >>= _).run _ = _
  rw [run_bind_some (accept_run_other (other (by decide))), if_neg (by decide)]
  rw [run_bind_some (isIdentifierNext_run _), run_bind_some second, decide_eq_false unbound.2, Bool.and_false,
    if_neg (by decide)]
  change (e.namedExpression >>= _).run _ = _
  rw [run_bind_some (item.namedExpression_run closes)]
  rfl

theorem argumentsFrom_run {items : List Expr} (item : Takes e tokens x) {others : List Token}
    (more : Tail (Takes e) others items) {closing : Token} (mark : IsMark ")" closing) (rest : List Token)
    (found : List Expr) {fuel : Nat} (enough : items.length < fuel) :
    (e.argumentsFrom fuel { positional := found }).run (tokens ++ (others ++ closing :: rest)) =
      some ({ positional := items.reverse ++ x :: found }, rest) := by
  have ends : Closes (closing :: rest) := closes_mark mark rest (by decide)
  induction more generalizing tokens x found fuel with
  | nil =>
    obtain ⟨fuel, rfl⟩ : ∃ less, fuel = less + 1 := ⟨fuel - 1, by omega⟩
    have noComma : nextWord (closing :: rest) ≠ "," := by
      rw [mark.next]
      decide
    rw [argumentsFrom, run_bind_some (accept_run_other (nextWord_ne (item.opens _) (by decide))), if_neg (by decide)]
    change (e.argument _ >>= _).run _ = _
    rw [List.nil_append, run_bind_some (argument_run item ends found), run_bind_some (accept_run_other noComma),
      if_neg (by decide), run_bind_some (expect_run _ mark.word)]
    rfl
  | @cons comma second others y items separates next more ih =>
    obtain ⟨fuel, rfl⟩ : ∃ less, fuel = less + 1 := ⟨fuel - 1, by omega⟩
    rw [argumentsFrom, run_bind_some (accept_run_other (nextWord_ne (item.opens _) (by decide))), if_neg (by decide)]
    change (e.argument _ >>= _).run _ = _
    rw [List.cons_append, List.append_assoc, run_bind_some (argument_run item (closes_mark separates _ (by decide)) found),
      run_bind_some (accept_run separates.word), if_pos rfl, ih next (x :: found) (by simpa using enough)]
    simp

theorem callArguments_run {items : List Expr} (row : Row (Takes e) tokens items) {closing : Token}
    (mark : IsMark ")" closing) (rest : List Token) :
    e.callArguments.run (tokens ++ closing :: rest) = some ((items, []), rest) := by
  have ends : Closes (closing :: rest) := closes_mark mark rest (by decide)
  cases row with
  | nil =>
    rw [List.nil_append, callArguments, run_bind_some (accept_run mark.word)]
    rfl
  | @cons first others x items item more =>
    have noClause := isClauseNext_run (more.closes ends)
    rw [List.append_assoc, callArguments, run_bind_some (accept_run_other (nextWord_ne (item.opens _) (by decide))),
      if_neg (by decide)]
    change (e.argument {} >>= _).run _ = _
    rw [run_bind_some (argument_run item (more.closes ends) [])]
    dsimp only
    rw [run_bind_some noClause, Bool.and_false, if_neg (by decide)]
    cases more with
    | nil =>
      have noComma : nextWord (closing :: rest) ≠ "," := by
        rw [mark.next]
        decide
      rw [List.nil_append, run_bind_some (accept_run_other noComma), if_neg (by decide),
        run_bind_some (expect_run _ mark.word)]
      rfl
    | @cons comma second others y items separates next more =>
      have length : (get : Parse (List Token)).run (second ++ (others ++ closing :: rest)) =
          some (second ++ (others ++ closing :: rest), second ++ (others ++ closing :: rest)) := rfl
      have enough : items.length < (second ++ (others ++ closing :: rest)).length + 1 := by
        have := more.length
        simp
        omega
      rw [List.cons_append, List.append_assoc, run_bind_some (accept_run separates.word), if_pos rfl,
        run_bind_some length, run_bind_some (argumentsFrom_run next more mark rest [x] enough)]
      simp

theorem trailer_run_call {items : List Expr} (row : Row (Takes e) tokens items) {opening closing : Token}
    (opens : IsMark "(" opening) (mark : IsMark ")" closing) (rest : List Token) :
    e.trailer.run (opening :: (tokens ++ closing :: rest)) = some (some fun value => .call value items [], rest) := by
  rw [trailer, run_bind_some (peek_run _), opens.next]
  change (take >>= _).run _ = _
  rw [run_bind_some (take_run ..), run_bind_some (callArguments_run row mark rest)]
  rfl

theorem takes_emptySet {t opening closing : Token} (name : IsName "set" t) (opens : IsMark "(" opening)
    (mark : IsMark ")" closing) : Takes e.around [t, opening, closing] (.call (.name "set" .load t.place) [] []) := by
  have trailers (rest : List Token) (closes : Closes rest) :
      Repeats e.trailer ([opening, closing] ++ rest) [fun value => .call value [] []] rest :=
    .cons (trailer_run_call .nil opens mark rest) (by simp only [List.length_append, List.length_cons]; omega) (.nil (trailer_run_other closes.word))
  refine takes_trailed (by decide) name (fun rest => ?_) (by simp) trailers rfl
  rw [List.cons_append, opens.next]
  decide

theorem takes_attribute {name : String} {t point last : Token} (first : IsName "re" t) (mark : IsMark "." point)
    (second : IsName name last) : Takes e.around [t, point, last] (.attribute (.name "re" .load t.place) name) := by
  have trailers (rest : List Token) (closes : Closes rest) :
      Repeats e.trailer ([point, last] ++ rest) [fun value => .attribute value name] rest :=
    .cons (trailer_run_attribute mark second rest) (by simp only [List.length_append, List.length_cons]; omega) (.nil (trailer_run_other closes.word))
  refine takes_trailed (by decide) first (fun rest => ?_) (by simp) trailers rfl
  rw [List.cons_append, mark.next]
  decide

theorem takes_call {name : String} {t point last opening closing : Token} (first : IsName "re" t)
    (mark : IsMark "." point) (second : IsName name last) {items : List Expr} (row : Row (Takes e) tokens items)
    (opens : IsMark "(" opening) (ends : IsMark ")" closing) :
    Takes e.around (t :: point :: last :: opening :: (tokens ++ [closing]))
      (.call (.attribute (.name "re" .load t.place) name) items []) := by
  have trailers (rest : List Token) (closes : Closes rest) :
      Repeats e.trailer ((point :: last :: opening :: (tokens ++ [closing])) ++ rest)
        [fun value => .attribute value name, fun value => .call value items []] rest := by
    have call := trailer_run_call row opens ends rest
    rw [List.cons_append, List.cons_append, List.cons_append, List.append_assoc]
    refine .cons (trailer_run_attribute mark second _) (by simp) (.cons call ?_ (.nil (trailer_run_other closes.word)))
    simp
    omega
  refine takes_trailed (by decide) first (fun rest => ?_) (by simp) trailers rfl
  rw [List.cons_append, mark.next]
  decide

/-! ## Statements -/

theorem simpleStatements_run_value (item : Takes e tokens x) {last : Token} (ends : last.kind = .lineEnd)
    (rest : List Token) : e.simpleStatements.run (tokens ++ last :: rest) = some ([.expr x], rest) := by
  have closes : Closes (last :: rest) := ⟨last, rest, rfl, .inl ends⟩
  have after : nextWord (last :: rest) = "" := by simp [nextWord, wordOf, ends]
  have noMore : nextWord (last :: rest) ≠ ";" := by simp [after]
  have value : e.starExpressions.run (tokens ++ last :: rest) = some (x, last :: rest) :=
    starExpressions_run (item.run _ closes) (item.opens _) (by simp [after])
  have alone : e.expressionStatement.run (tokens ++ last :: rest) = some (.expr x, last :: rest) := by
    have assigned : e.assigned.run (tokens ++ last :: rest) = some (x, last :: rest) := by
      rw [assigned, run_bind_some (peek_run _), if_neg (nextWord_ne (item.opens _) (by decide))]
      exact value
    rw [expressionStatement, run_bind_some (peek_run _), run_bind_some assigned, run_bind_some (peek_run _), after]
    change (oneOf updates >>= _).run _ = _
    rw [run_bind_some (oneOf_run_other (by rw [after]; rfl))]
    rfl
  have single : e.simpleStatement.run (tokens ++ last :: rest) = some (.expr x, last :: rest) := by
    have opens := item.opens (last :: rest)
    rw [simpleStatement, run_bind_some (peek_run _)]
    generalize nextWord (tokens ++ last :: rest) = word at opens
    simp only [openingWords, List.mem_cons, List.not_mem_nil, or_false] at opens
    rcases opens with rfl | rfl | rfl | rfl | rfl | rfl | rfl | rfl | rfl | rfl <;> exact alone
  rw [simpleStatements, run_bind_some single, run_bind_some (many_run_nil ?_),
    run_bind_some (accept_run_other noMore), run_bind_some (takeKind_run _ ends)]
  · rfl
  · rw [run_bind_some (attempt_run_other noMore)]
    rfl

theorem statementsOfDepth_run_value (depth : Nat) (item : Takes e tokens x) {last : Token} (ends : last.kind = .lineEnd)
    (rest : List Token) : (e.statementsOfDepth (depth + 1)).run (tokens ++ last :: rest) = some ([.expr x], rest) := by
  have simple := simpleStatements_run_value item ends rest
  have opens := item.opens (last :: rest)
  rw [statementsOfDepth, statements, run_bind_some (peek_run _)]
  generalize nextWord (tokens ++ last :: rest) = word at opens
  simp only [openingWords, List.mem_cons, List.not_mem_nil, or_false] at opens
  rcases opens with rfl | rfl | rfl | rfl | rfl | rfl | rfl | rfl | rfl | rfl <;> exact simple

theorem module_run_one {depth : Nat} {t last : Token} {body : List Stmt} (begins : t.kind ≠ .codeEnd)
    (ends : last.kind = .codeEnd) (taken : (e.statementsOfDepth depth).run (t :: tokens) = some (body, [last])) :
    (e.module depth).run (t :: tokens) = some (body, []) := by
  rw [module, run_bind_some (many_run_one ?taken ?ended), run_bind_some (takeKind_run _ ends), List.flatten_singleton]
  · rfl
  case taken =>
    rw [run_bind_some (isNext_run ..), if_neg (by simpa using begins), run_bind_some taken]
    rfl
  case ended =>
    rw [run_bind_some (isNext_run ..), if_pos (by simpa using ends)]
    rfl

end

end LexGen.Code.Level
