import LexGen.Emission.Module
import LexGen.Proofs.CompiledLexer.Shifted

/-!
# Emitting blocks of code that have been moved to the right

The common indentation of a block is removed before the block is emitted. This takes back any move of the actions and
of the code before them. The code after the unit has been trimmed by then, and trimming takes away the indentation of
its first line only; if it has other lines, they are emitted with theirs.

* `moved_blocks_emitted`: when a move is seen in the emitted text.
* `lines_after_unit_stay_moved`: two lines, of which the second one stays indented.
-/

namespace LexGen.Emission

open CompiledLexer (withBlocks withoutBlocks)

/-- Emit the module of whatever stands for a grammar, in the wanted convention. Texts are decoded by `parser`, and as
JSON without one. -/
def emitSource (settings : Settings) (engine : Text) (parser : Option (Text → Except Error Value))
    (tokens wanted : Value) (skeleton : Option String) (source : Value) : Journaled Text := do
  emit settings engine wanted skeleton (← CompiledLexer.ofSource settings parser tokens source)

def hasLinesAfter (parser : Option (Text → Except Error Value)) (source : Value) : Bool :=
  (Grammar.ofSource parser source).toOption.any fun grammar =>
    match grammar.moduleInclude with
    | .str block => block.toList.contains '\n'
    | _ => false

theorem hasLinesAfter_of_ok {parser : Option (Text → Except Error Value)} {source : Value} {grammar : Grammar}
    (read : Grammar.ofSource parser source = .ok grammar) :
    hasLinesAfter parser source = true ↔
      ∃ block, grammar.moduleInclude = .str block ∧ ¬ Text.OnOneLine block.toList := by
  rw [hasLinesAfter, read, Except.toOption, Option.any_some]
  cases grammar.moduleInclude <;> simp [Text.OnOneLine]

/-! ## Blocks that stay the same -/

section

variable {m : Nat} {actionInclude actionInclude' : Value} (h : Value.Shifted m actionInclude actionInclude')

include h

theorem values_shifted (moduleInclude moduleInclude' : Value) (lexer : CompiledLexer) :
    values (withBlocks actionInclude' moduleInclude' lexer) =
      values (withBlocks actionInclude moduleInclude lexer) := by
  cases h with
  | block moved =>
    unfold values withBlocks
    dsimp only [blockText, Bind.bind, Except.bind]
    rw [Text.dedent_shifted moved]
    rfl
  | same => rfl

theorem unit_shifted (settings : Settings) (engine : Text) (skeleton : Option String)
    (moduleInclude moduleInclude' : Value) (lexer : CompiledLexer) :
    unit settings engine skeleton (withBlocks actionInclude' moduleInclude' lexer) =
      unit settings engine skeleton (withBlocks actionInclude moduleInclude lexer) := by
  rw [unit, unit, values_shifted h moduleInclude moduleInclude' lexer]

theorem emit_shifted (settings : Settings) (engine : Text) (wanted : Value) (skeleton : Option String)
    (moduleInclude : Value) (lexer : CompiledLexer) :
    emit settings engine wanted skeleton (withBlocks actionInclude' moduleInclude lexer) =
      emit settings engine wanted skeleton (withBlocks actionInclude moduleInclude lexer) := by
  unfold emit moduleText
  rw [unit_shifted h settings engine skeleton moduleInclude moduleInclude lexer]
  rfl

end

/-- A block after the unit that is not moved, or that is a single line, is trimmed to what it was. -/
theorem trimmed_same {n : Nat} {v other : Value} (h : Grammar.Trimmed n v other)
    (still : n = 0 ∨ ∀ block, v = .str block → Text.OnOneLine block.toList) : other = v := by
  cases h with
  | block moved =>
    have same := still.elim (fun none => Text.trim_shifted_zero (none ▸ moved)) fun one => ?_
    · rw [same]
    · have one := one _ rfl
      rw [String.toList_ofList] at one
      rcases Text.trim_shifted moved with ⟨same, -⟩ | ⟨_, _, _, _, text, -⟩
      · exact same
      · exact absurd (by rw [text]; simp) one
  | same => rfl

/-! ## Blocks that stay moved -/

theorem includeText_of_text {lexer : CompiledLexer} {text : Text}
    (given : lexer.moduleInclude = .str (String.ofList text)) (something : text ≠ []) (lead : Text) :
    includeText lead lexer = .ok ('\n' :: Text.indent lead (Text.dedent text) ++ ['\n']) := by
  have truthy : (Value.str (String.ofList text)).truthy = true := by simpa [Value.truthy] using something
  rw [includeText, given, if_neg (by simp [truthy]), blockText, String.toList_ofList]
  rfl

section

variable {n : Nat} (moved : n ≠ 0) {block : String} {other : Value} (h : Grammar.Trimmed n (.str block) other)
  (several : ¬ Text.OnOneLine block.toList) {lexer lexer' : CompiledLexer}
  (given : lexer.moduleInclude = .str block) (given' : lexer'.moduleInclude = other)

include moved h several given given'

theorem includeText_moved (k : Nat) : ∃ code code', includeText (Text.spaces k) lexer = .ok code ∧
    includeText (Text.spaces k) lexer' = .ok code' ∧ code' ≠ code := by
  cases h with
  | @block text other shifted =>
    rw [String.toList_ofList] at several
    have something : Text.trim text ≠ [] := by
      intro empty
      rw [empty] at several
      exact several List.not_mem_nil
    have something' : Text.trim other ≠ [] := by
      rcases Text.trim_shifted shifted with ⟨-, one⟩ | ⟨_, _, _, _, -, text', -⟩
      · exact absurd one several
      · simp [text']
    refine ⟨_, _, includeText_of_text given something _, includeText_of_text given' something' _, ?_⟩
    intro same
    simp only [List.cons_append, List.cons.injEq, true_and, List.append_cancel_right_eq] at same
    exact Text.indent_trimmed_ne moved shifted several k same
  | same noText => exact absurd rfl (noText block)

theorem closing_moved (options : lexer'.options = lexer.options) (convention : Convention) :
    ∃ code code', closing convention lexer = .ok code ∧ closing convention lexer' = .ok code' ∧ code' ≠ code := by
  have included := includeText_moved moved h several given given'
  unfold closing
  rw [options]
  cases convention with
  | bare | syncImport =>
    obtain ⟨code, code', found, found', ne⟩ := included 0
    rw [Text.spaces, List.replicate_zero] at found found'
    dsimp only
    rw [found, found']
    exact ⟨_, _, rfl, rfl, fun same => ne (List.append_cancel_left same)⟩
  | asyncDefine =>
    obtain ⟨code, code', found, found', ne⟩ := included 4
    dsimp only
    rw [found, found']
    exact ⟨_, _, rfl, rfl, fun same => ne (List.append_cancel_left (List.append_cancel_right same))⟩

end

/-! ## Emission -/

theorem run_emit (settings : Settings) (engine : Text) (wanted : Value) (skeleton : Option String)
    (lexer : CompiledLexer) (journal : Journal) :
    ((emit settings engine wanted skeleton lexer).run.run journal).1 =
      conventionFor lexer wanted >>= fun convention => moduleText settings engine skeleton convention lexer := by
  unfold emit
  cases conventionFor lexer wanted with
  | error e => rfl
  | ok convention => rfl

theorem moduleText_moved {n : Nat} (moved : n ≠ 0) {actionInclude actionInclude' : Value} {m : Nat}
    (before : Value.Shifted m actionInclude actionInclude') {block : String} {other : Value}
    (after : Grammar.Trimmed n (.str block) other) (several : ¬ Text.OnOneLine block.toList)
    (settings : Settings) (engine : Text) (skeleton : Option String) (convention : Convention)
    (lexer : CompiledLexer) :
    Agree (fun text text' => text' ≠ text)
      (moduleText settings engine skeleton convention (withBlocks actionInclude (.str block) lexer))
      (moduleText settings engine skeleton convention (withBlocks actionInclude' other lexer)) := by
  have given : (withBlocks actionInclude (.str block) lexer).moduleInclude = .str block := rfl
  have given' : (withBlocks actionInclude' other lexer).moduleInclude = other := rfl
  obtain ⟨code, code', found, found', ne⟩ := closing_moved moved after several given given' rfl convention
  unfold moduleText
  rw [unit_shifted before settings engine skeleton (.str block) other lexer, found, found']
  exact .bind_same _ fun start => .ok fun same => ne (List.append_cancel_left same)

section

variable (settings : Settings) (engine : Text) (tokens wanted : Value) (skeleton : Option String)
  {parser : Option (Text → Except Error Value)} {source other : Value}

theorem emitSource_of_ok {grammar : Grammar} (read : Grammar.ofSource parser source = .ok grammar) :
    emitSource settings engine parser tokens wanted skeleton source =
      CompiledLexer.ofGrammar settings tokens (withoutBlocks grammar) >>= fun lexer =>
        emit settings engine wanted skeleton (withBlocks grammar.actionInclude grammar.moduleInclude lexer) := by
  unfold emitSource CompiledLexer.ofSource
  have given : (liftM (Grammar.ofSource parser source) : Journaled Grammar) = pure grammar := by
    rw [read]
    rfl
  rw [given, pure_bind, CompiledLexer.ofGrammar_eq, bind_map_left]

theorem emitSource_of_error {e : Error} (refused : Grammar.ofSource parser source = .error e) :
    emitSource settings engine parser tokens wanted skeleton source = throw e := by
  unfold emitSource CompiledLexer.ofSource
  rw [refused]
  rfl

theorem run_emit_of_lexer {lexer : Journaled CompiledLexer} {f : CompiledLexer → CompiledLexer} (journal : Journal) :
    ((lexer >>= fun lexer => emit settings engine wanted skeleton (f lexer)).run.run journal).1 =
      (lexer.run.run journal).1 >>= fun lexer => conventionFor (f lexer) wanted >>= fun convention =>
        moduleText settings engine skeleton convention (f lexer) := by
  rw [run_bind]
  rcases lexer.run.run journal with ⟨e | lexer, between⟩
  · rfl
  · exact run_emit settings engine wanted skeleton (f lexer) between

section

variable {n : Nat} (h : Grammar.SourceShifted parser n source other)

include h

theorem emitSource_same (still : n = 0 ∨ hasLinesAfter parser source = false) :
    emitSource settings engine parser tokens wanted skeleton other =
      emitSource settings engine parser tokens wanted skeleton source := by
  rcases (Grammar.shifted_ofSource h).ok_or_error with ⟨grammar, grammar', read, read', shifted⟩ | ⟨e, read, read'⟩
  · obtain ⟨m, before⟩ := shifted.actionInclude
    have same : grammar'.moduleInclude = grammar.moduleInclude := by
      refine trimmed_same shifted.moduleInclude (still.imp_right fun single block given => ?_)
      exact not_not.1 fun several =>
        Bool.eq_false_iff.1 single ((hasLinesAfter_of_ok read).2 ⟨block, given, several⟩)
    rw [emitSource_of_ok settings engine tokens wanted skeleton read,
      emitSource_of_ok settings engine tokens wanted skeleton read',
      CompiledLexer.ofGrammar_shifted settings tokens shifted, same]
    exact bind_congr fun lexer => emit_shifted before settings engine wanted skeleton grammar.moduleInclude lexer
  · rw [emitSource_of_error _ _ _ _ _ read, emitSource_of_error _ _ _ _ _ read']

theorem emitSource_moved (moved : n ≠ 0) (lines : hasLinesAfter parser source = true) :
    Agree (fun text text' => text' ≠ text) (emitSource settings engine parser tokens wanted skeleton source).outcome
      (emitSource settings engine parser tokens wanted skeleton other).outcome := by
  rcases (Grammar.shifted_ofSource h).ok_or_error with ⟨grammar, grammar', read, read', shifted⟩ | ⟨e, read, read'⟩
  · obtain ⟨m, before⟩ := shifted.actionInclude
    obtain ⟨block, given, several⟩ := (hasLinesAfter_of_ok read).1 lines
    have after := shifted.moduleInclude
    rw [emitSource_of_ok settings engine tokens wanted skeleton read,
      emitSource_of_ok settings engine tokens wanted skeleton read',
      CompiledLexer.ofGrammar_shifted settings tokens shifted]
    rw [given] at after ⊢
    simp only [Journaled.outcome, Journaled.result, run_emit_of_lexer]
    refine .bind_same _ fun lexer => .bind_same _ fun convention => ?_
    exact moduleText_moved moved before after several settings engine skeleton convention lexer
  · rw [hasLinesAfter, read] at lines
    cases lines

/-- The blocks of code of a structured form may be moved to the right, each of them as a whole. The move is not seen in
what is emitted, whatever the convention, with one exception: where the code after the unit has several lines and has
been moved, another text is emitted. -/
theorem moved_blocks_emitted :
    (n = 0 ∨ hasLinesAfter parser source = false →
      emitSource settings engine parser tokens wanted skeleton other =
        emitSource settings engine parser tokens wanted skeleton source) ∧
    (n ≠ 0 ∧ hasLinesAfter parser source = true →
      Agree (fun text text' => text' ≠ text)
        (emitSource settings engine parser tokens wanted skeleton source).outcome
        (emitSource settings engine parser tokens wanted skeleton other).outcome) :=
  ⟨emitSource_same settings engine tokens wanted skeleton h,
    fun ⟨moved, lines⟩ => emitSource_moved settings engine tokens wanted skeleton h moved lines⟩

end

end

def blocks (action before after : Text) : Value :=
  .dict [(.str "rules", .list [.list [.str "a", .str (String.ofList action)]]),
    (.str "actionInclude", .str (String.ofList before)), (.str "moduleInclude", .str (String.ofList after))]

theorem shifted_blocks {parser : Option (Text → Except Error Value)} {n : Nat}
    {action before after action' before' after' : Text} (h : Text.Shifted n action action')
    (h' : Text.Shifted n before before') (h'' : Text.Shifted n after after') :
    Grammar.SourceShifted parser n (blocks action before after) (blocks action' before' after') := by
  have text {block other : Text} (h : Text.Shifted n block other) :
      Value.Shifted n (.str (String.ofList block)) (.str (String.ofList other)) :=
    .block (by rwa [String.toList_ofList, String.toList_ofList])
  have pattern (action : Text) : (Value.list [.str "a", .str (String.ofList action)]).sequence? =
      some ([.str "a"] ++ [.str (String.ofList action)]) := rfl
  have entry : Value.EntryShifted (.list [.str "a", .str (String.ofList action)])
      (.list [.str "a", .str (String.ofList action')]) := .sequence (pattern action) (pattern action') (text h)
  exact .form (.cons (.rules (.list (.cons entry .nil)))
    (.cons (.actionInclude (by decide) (text h')) (.cons (.moduleInclude (by decide) (text h'')) .nil)))

def guarded (move : Text → Text) (after : Text) : Value :=
  blocks (move "if yyleng:\n    return f(1)".toList) (move "def f(x):\n\n    return x".toList) (move after)

/-- Begin a block on a line of its own, indented as deep as a statement of a function. -/
def inset (block : Text) : Text := '\n' :: Text.movedRight 4 block

theorem shifted_guarded (after : Text) : Grammar.SourceShifted none 4 (guarded id after) (guarded inset after) :=
  shifted_blocks (.feed (Text.shifted_movedRight 4 _)) (.feed (Text.shifted_movedRight 4 _))
    (.feed (Text.shifted_movedRight 4 _))

def emitted (wanted : String) (source : Value) : Except Error Text :=
  (emitSource {} Engine.text none .none (.str wanted) none source).outcome

theorem moved_blocks_emitted_guarded :
    (∃ text, emitted "async-define" (guarded id "a = 1".toList) = .ok text ∧
        emitted "async-define" (guarded inset "a = 1".toList) = .ok text) ∧
      ∃ text text', emitted "bare" (guarded id "a = 1\nb = 2".toList) = .ok text ∧
        emitted "bare" (guarded inset "a = 1\nb = 2".toList) = .ok text' ∧ text' ≠ text := by
  constructor
  · have same := (moved_blocks_emitted {} Engine.text .none (.str "async-define") none
      (shifted_guarded "a = 1".toList)).1 (.inr (by decide +kernel))
    obtain ⟨text, _, given, -⟩ :=
      (Agree.same (emitted "async-define" (guarded id "a = 1".toList))).exists_of_isSome (by decide +kernel)
    refine ⟨text, given, ?_⟩
    rw [emitted, same]
    exact given
  · have differ := (moved_blocks_emitted {} Engine.text .none (.str "bare") none
      (shifted_guarded "a = 1\nb = 2".toList)).2 (by decide +kernel)
    exact differ.exists_of_isSome (by decide +kernel)

def afterUnit (block : Text) : Value :=
  .dict [(.str "moduleInclude", .str (String.ofList block))]

/-- Two lines after the unit that are indented alike are emitted with another text than the lines without their
indentation. -/
theorem lines_after_unit_stay_moved :
    ∃ text text', emitted "bare" (afterUnit "a = 1\nb = 2".toList) = .ok text ∧
      emitted "bare" (afterUnit (Text.movedRight 4 "a = 1\nb = 2".toList)) = .ok text' ∧ text' ≠ text := by
  have shifted : Grammar.SourceShifted none 4 (afterUnit "a = 1\nb = 2".toList)
      (afterUnit (Text.movedRight 4 "a = 1\nb = 2".toList)) := by
    refine .form (.cons (.moduleInclude (by decide) (.block ?_)) .nil)
    rw [String.toList_ofList, String.toList_ofList]
    exact Text.shifted_movedRight 4 _
  have differ := emitSource_moved {} Engine.text .none (.str "bare") none shifted (by decide) (by decide +kernel)
  exact differ.exists_of_isSome (by decide +kernel)

end LexGen.Emission
