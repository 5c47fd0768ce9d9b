import LexGen.Proofs.CompiledLexer.Compilation
import LexGen.Proofs.Grammar.Shifted

/-!
# Compiling blocks of code that have been moved to the right

The tables of a grammar do not depend on how far its actions are indented: an action loses its common indentation
before anything else is done with it. The other blocks are only passed on.

* `ofGrammar_eq`: the tables of a grammar, and its blocks beside them.
* `ofGrammar_shifted`: the tables of a grammar whose blocks have been moved.
-/

namespace LexGen

/-! ## Actions -/

namespace Action

theorem normalBody_shifted {n : Nat} {body other : Text} (h : Text.Shifted n body other) :
    normalBody other = normalBody body := by
  unfold normalBody
  rw [Text.dedent_shifted h]

theorem entryOf_shifted (tokens : Value) (index : Nat) {rule other : Rule} (h : rule.Shifted other) :
    entryOf tokens index other.action = entryOf tokens index rule.action := by
  rcases h.action with same | ⟨n, body, body', moved, given, given'⟩
  · rw [same]
  · rw [given, given', entryOf, entryOf, codeEntry, codeEntry, rewriteBody, rewriteBody, normalBody_shifted moved]

theorem build_shifted (tokens : Value) {rules others : List Rule} (h : List.Forall₂ Rule.Shifted rules others) :
    build tokens others = build tokens rules := by
  have entries : (others.zipIdx.mapM fun entry =>
        (liftM (entryOf tokens entry.2 entry.1.action) : Journaled ActionEntry)) =
      rules.zipIdx.mapM fun entry => (liftM (entryOf tokens entry.2 entry.1.action) : Journaled ActionEntry) :=
    mapM_eq_of_forall₂ (forall₂_zipIdx h (fun _ _ index moved => congrArg liftM (entryOf_shifted tokens index moved)) 0)
  exact congrArg₂ Bind.bind entries rfl

end Action

/-! ## Rules and start conditions -/

theorem compileRules_shifted (settings : Settings) (macros : Macros) (caseInsensitive : Bool)
    {rules others : List Rule} (h : List.Forall₂ Rule.Shifted rules others) :
    compileRules settings macros caseInsensitive others = compileRules settings macros caseInsensitive rules := by
  refine mapM_eq_of_forall₂ (forall₂_zipIdx h (fun _ _ index moved => ?_) 0)
  dsimp only
  rw [CompiledRule.ofRule, CompiledRule.ofRule, moved.pattern]

namespace StartConditions

theorem targets_shifted (table : List (String × Bool)) {rule other : Rule} (h : rule.Shifted other) :
    targets table other = targets table rule := by
  unfold targets Rule.isWildcard
  rw [h.states]

theorem members_shifted (table : List (String × Bool)) (name : String) {rules others : List Rule}
    (h : List.Forall₂ Rule.Shifted rules others) : members table others name = members table rules name := by
  have entries := forall₂_zipIdx h (S := fun a b => b.2 = a.2 ∧ targets table b.1 = targets table a.1)
    (fun _ _ _ moved => ⟨rfl, targets_shifted table moved⟩) 0
  unfold members
  generalize rules.zipIdx = placed at entries ⊢
  generalize others.zipIdx = placed' at entries ⊢
  induction entries with
  | nil => rfl
  | @cons rule other rules others related _ ih =>
    dsimp only at ih ⊢
    rw [List.filter_cons, List.filter_cons, related.2]
    split
    · rw [List.map_cons, List.map_cons, related.1, ih]
    · exact ih

theorem resolve_shifted (declared : List (String × Bool)) {rules others : List Rule}
    (h : List.Forall₂ Rule.Shifted rules others) : resolve declared others = resolve declared rules := by
  have checks (table : List (String × Bool)) : (others.zipIdx.forM fun entry => checkRule table entry.1 entry.2) =
      rules.zipIdx.forM fun entry => checkRule table entry.1 entry.2 := by
    refine forM_eq_of_forall₂ (forall₂_zipIdx h (fun _ _ index moved => ?_) 0)
    rw [checkRule, checkRule, undeclared?, undeclared?, targets_shifted table moved]
  unfold resolve
  simp only [members_shifted _ _ h]
  exact congrArg₂ Bind.bind (checks (prepare declared)) rfl

end StartConditions

namespace CompiledLexer

/-! ## Tables -/

theorem completed_shifted {n : Nat} {grammar other : Grammar} (h : grammar.Shifted n other) :
    (completed grammar).Shifted n (completed other) := by
  unfold completed
  rw [h.options]
  split
  · exact { h with rules := List.rel_append h.rules (.cons (.refl _) .nil) }
  · exact h

def withBlocks (actionInclude moduleInclude : Value) (lexer : CompiledLexer) : CompiledLexer :=
  { lexer with actionInclude, moduleInclude }

theorem assemble_eq (rules : List CompiledRule) (conditions : List ConditionEntry) (actions : List ActionEntry)
    (options : Options) (actionInclude moduleInclude : Value) :
    assemble rules conditions actions options actionInclude moduleInclude =
      withBlocks actionInclude moduleInclude <$> assemble rules conditions actions options (.str "") (.str "") := by
  unfold assemble
  split
  · rfl
  · simp only [map_bind]
    rfl

def withoutBlocks (grammar : Grammar) : Grammar :=
  { grammar with actionInclude := .str "", moduleInclude := .str "" }

theorem completed_withoutBlocks (grammar : Grammar) :
    completed (withoutBlocks grammar) = withoutBlocks (completed grammar) := by
  unfold completed withoutBlocks
  dsimp only
  split <;> rfl

section

variable (settings : Settings) (tokens : Value)

theorem ofGrammar_eq (grammar : Grammar) : ofGrammar settings tokens grammar =
    withBlocks grammar.actionInclude grammar.moduleInclude <$> ofGrammar settings tokens (withoutBlocks grammar) := by
  have blocks : (completed grammar).actionInclude = grammar.actionInclude ∧
      (completed grammar).moduleInclude = grammar.moduleInclude := by
    unfold completed
    split <;> exact ⟨rfl, rfl⟩
  have lifted (x : Except Error CompiledLexer) (f : CompiledLexer → CompiledLexer) :
      (liftM (f <$> x) : Journaled CompiledLexer) = f <$> liftM x := by
    cases x <;> rfl
  unfold ofGrammar
  simp only [completed_withoutBlocks, blocks, map_bind, ← lifted, assemble_eq _ _ _ _ grammar.actionInclude]
  rfl

theorem ofGrammar_shifted {n : Nat} {grammar other : Grammar} (h : grammar.Shifted n other) :
    ofGrammar settings tokens (withoutBlocks other) = ofGrammar settings tokens (withoutBlocks grammar) := by
  have moved := completed_shifted h
  unfold ofGrammar
  simp only [completed_withoutBlocks]
  simp only [withoutBlocks, moved.macros, moved.options, moved.conditions,
    compileRules_shifted _ _ _ moved.rules, StartConditions.resolve_shifted _ moved.rules,
    Action.build_shifted _ moved.rules]

end

end CompiledLexer

end LexGen
