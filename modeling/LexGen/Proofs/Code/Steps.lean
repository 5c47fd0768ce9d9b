import LexGen.Code.Parser.Basic

/-!
# Running parsers

What the steps that parsers are made of do with tokens of which the front is known.

* `run_bind_some`: a parser after one that has taken something.
* `many_run_nil`, `many_run_one`: repeated parsers that take nothing or one item.
* `Repeats.many_run`: repeated parsers that take any number of items.
* `chain_run`, `separated_run`, `commas_run`: lists and operations with a single operand.
-/

namespace LexGen.Code.Parse

def nextWord (tokens : List Token) : String := (tokens.head?.map wordOf).getD ""

section Steps

variable {α β γ : Type} {tokens rest : List Token} {word : String}

theorem run_bind_some {p : Parse α} {f : α → Parse β} {a : α} (taken : p.run tokens = some (a, rest)) :
    (p >>= f).run tokens = (f a).run rest := by
  rw [StateT.run_bind, taken]
  rfl

theorem run_bind_none {p : Parse α} (f : α → Parse β) (fails : p.run tokens = none) : (p >>= f).run tokens = none := by
  rw [StateT.run_bind, fails]
  rfl

theorem peek_run (tokens : List Token) : peek.run tokens = some (nextWord tokens, tokens) := rfl

theorem accept_run {t : Token} (same : wordOf t = word) : (accept word).run (t :: tokens) = some (true, tokens) := by
  rw [accept, run_bind_some (peek_run _), if_pos (show nextWord (t :: tokens) = word from same)]
  rfl

theorem accept_run_other (other : nextWord tokens ≠ word) : (accept word).run tokens = some (false, tokens) := by
  rw [accept, run_bind_some (peek_run _), if_neg other]
  rfl

theorem expect_run (word : String) {t : Token} (same : wordOf t = word) :
    (expect word).run (t :: tokens) = some ((), tokens) := by
  rw [expect, run_bind_some (accept_run same)]
  rfl

theorem expect_run_other (other : nextWord tokens ≠ word) : (expect word).run tokens = none := by
  rw [expect, run_bind_some (accept_run_other other)]
  rfl

theorem oneOf_run_other {table : List (String × α)} (other : table.lookup (nextWord tokens) = none) :
    (oneOf table).run tokens = some (none, tokens) := by
  rw [oneOf, run_bind_some (peek_run _), other]
  rfl

theorem collect_run_nil {p : Parse (Option α)} (ended : p.run tokens = some (none, tokens)) (fuel : Nat) :
    (collect p fuel).run tokens = some ([], tokens) := by
  cases fuel with
  | zero => rfl
  | succ fuel =>
    rw [collect, run_bind_some ended]
    rfl

theorem many_run_nil {p : Parse (Option α)} (ended : p.run tokens = some (none, tokens)) :
    (many p).run tokens = some ([], tokens) :=
  collect_run_nil ended (tokens.length + 1)

theorem many_run_one {p : Parse (Option α)} {t : Token} {a : α} (taken : p.run (t :: tokens) = some (some a, rest))
    (ended : p.run rest = some (none, rest)) : (many p).run (t :: tokens) = some ([a], rest) := by
  change (collect p (tokens.length + 2)).run (t :: tokens) = _
  rw [collect, run_bind_some taken]
  dsimp only
  rw [run_bind_some (collect_run_nil ended _)]
  rfl

/-- What a repeated parser yields, one item after the other, and what is left when it yields nothing more. -/
inductive Repeats (p : Parse (Option α)) : List Token → List α → List Token → Prop
  | nil {tokens : List Token} (ended : p.run tokens = some (none, tokens)) : Repeats p tokens [] tokens
  | cons {tokens middle rest : List Token} {a : α} {others : List α} (taken : p.run tokens = some (some a, middle))
    (shorter : middle.length < tokens.length) (more : Repeats p middle others rest) :
    Repeats p tokens (a :: others) rest

theorem Repeats.collect_run {p : Parse (Option α)} {found : List α} (repeats : Repeats p tokens found rest) {fuel : Nat}
    (enough : tokens.length ≤ fuel) : (collect p fuel).run tokens = some (found, rest) := by
  induction repeats generalizing fuel with
  | nil ended => exact collect_run_nil ended fuel
  | cons taken shorter _ ih =>
    obtain ⟨fuel, rfl⟩ : ∃ more, fuel = more + 1 := ⟨fuel - 1, by omega⟩
    rw [collect, run_bind_some taken]
    dsimp only
    rw [run_bind_some (ih (by omega))]
    rfl

theorem Repeats.many_run {p : Parse (Option α)} {found : List α} (repeats : Repeats p tokens found rest) :
    (many p).run tokens = some (found, rest) :=
  repeats.collect_run (Nat.le_succ _)

theorem isNext_run (kind : TokenKind) (tokens : List Token) :
    (isNext kind).run tokens = some (tokens.head?.any (·.kind = kind), tokens) := rfl

theorem take_run (t : Token) (tokens : List Token) : take.run (t :: tokens) = some (t, tokens) := rfl

theorem takeKind_run (kind : TokenKind) {t : Token} (same : t.kind = kind) :
    (takeKind kind).run (t :: tokens) = some (t, tokens) := by
  change (if t.kind = kind then pure t else failure : Parse Token).run tokens = _
  rw [if_pos same]
  rfl

theorem attempt_run {p : Parse α} {a : α} (taken : p.run tokens = some (a, rest)) :
    (attempt p).run tokens = some (some a, rest) := by
  have mapped : (some <$> p).run tokens = some (some a, rest) := by
    rw [StateT.run_map, taken]
    rfl
  change ((some <$> p).run tokens <|> _) = _
  rw [mapped]
  rfl

theorem attempt_run_fails {p : Parse α} (fails : p.run tokens = none) :
    (attempt p).run tokens = some (none, tokens) := by
  have mapped : (some <$> p).run tokens = none := by
    rw [StateT.run_map, fails]
    rfl
  change ((some <$> p).run tokens <|> _) = _
  rw [mapped]
  rfl

theorem chain_run {op : Parse (Option β)} {combine : β → α → α → α} {operand : Parse α} {a : α}
    (taken : operand.run tokens = some (a, rest)) (ended : op.run rest = some (none, rest)) :
    (chain op combine operand).run tokens = some (a, rest) := by
  rw [chain, run_bind_some taken, run_bind_some (many_run_nil _)]
  · rfl
  · rw [run_bind_some ended]
    rfl

theorem separated_run {p : Parse α} {a : α} (taken : p.run tokens = some (a, rest)) (ended : nextWord rest ≠ word) :
    (separated word p).run tokens = some ([a], rest) := by
  rw [separated, run_bind_some taken, run_bind_some (many_run_nil _)]
  · rfl
  · rw [run_bind_some (accept_run_other ended)]
    rfl

theorem attempt_run_other {p : Parse α} (other : nextWord tokens ≠ word) :
    (attempt do expect word; p).run tokens = some (none, tokens) := by
  exact attempt_run_fails (run_bind_none _ (expect_run_other other))

theorem commas_run {p : Parse α} {a : α} (taken : p.run tokens = some (a, rest)) (ended : nextWord rest ≠ ",") :
    (commas p).run tokens = some (([a], false), rest) := by
  rw [commas, run_bind_some taken, run_bind_some (many_run_nil ?_), run_bind_some (accept_run_other ended)]
  · rfl
  · rw [run_bind_some (attempt_run_other ended)]
    rfl

end Steps

end LexGen.Code.Parse
