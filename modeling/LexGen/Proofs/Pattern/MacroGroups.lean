import LexGen.Proofs.Macros.Cycles
import LexGen.Proofs.Pattern.Grouping
import LexGen.Proofs.Pattern.PairedGroups

/-!
# Macros in the patterns of rules

A macro stands in the pattern of a rule as a group, and so do the macros that it refers to. These groups capture, so
that they are counted: a reference by number in the rule is to another group than the one meant where groups of macros
are opened before it. Other than that they change nothing.

* `expanded_as_spared`: how the pattern matches if references by number are to groups before the first macro.
-/

namespace LexGen.Pattern

open Macros (Expands placeholder group)

/-! ## Whole patterns -/

/-- Both patterns are refused, or the second one is the first one without some of its groups. -/
inductive BothRead : Except Failure (Node × PatternFlags) → Except Failure (Node × PatternFlags) → Prop
  | refused (failure failure' : Failure) : BothRead (.error failure) (.error failure')
  | read {kept : List Bool} {node node' : Node} (omits : node.Omits kept node') (flags : PatternFlags) :
    BothRead (.ok (node, flags)) (.ok (node', flags))

theorem bothRead_finish {kept : List Bool} {ps : List Piece} {r r' : Reading} (paired : Paired kept ps r r')
    {item item' : Item} (same : item.Omits kept item') :
    BothRead (((finish item).run r).map (·.1)) (((finish item').run r').map (·.1)) := by
  cases settled : settleFlags r.flags with
  | error failure =>
    rw [run_finish_unsettled settled, run_finish_unsettled (by rw [paired.flags, settled])]
    exact .refused _ _
  | ok all =>
    have settled' : settleFlags r'.flags = .ok all := by rw [paired.flags, settled]
    cases ps with
    | nil =>
      rw [run_finish_end settled paired.rest, run_finish_end settled' paired.rest', paired.conditions,
        paired.conditions']
      exact .read same.node all
    | cons p ps =>
      have left : r.rest ≠ [] := fun empty => nomatch (congrArg unit? empty).symm.trans paired.unit?
      have left' : r'.rest ≠ [] := fun empty => nomatch (congrArg unit? empty).symm.trans paired.unit?'
      rw [run_finish_left settled left, run_finish_left settled' left']
      exact .refused _ _

theorem paired_alone (ps : List Piece) (flags : PatternFlags) :
    Paired [] ps (.alone (captured ps) flags) (.alone (spared ps) flags) where
  rest := rfl
  rest' := rfl
  flags := rfl
  widths := rfl
  widths' := rfl
  closed j i number := by
    obtain ⟨k, -, found, -⟩ := number
    cases found
  names := .nil
  behind := .none
  conditions := rfl
  conditions' := rfl

theorem bothRead {ps : List Piece} (fits : fit (lead ps) ps = true) {flags : PatternFlags}
    (plain : flags.has PatternFlags.verbose = false) :
    BothRead (read (captured ps) flags) (read (spared ps) flags) := by
  have place : AtItem (lead ps) [] ps := ⟨fits, by simp, by simp⟩
  have long := length_le_captured ps
  have long' := captured_le_spared ps
  have readers : ItemPairs (lead ps) [] (ps.length + 1) (alternatives (2 * (captured ps).length + 2) false true true)
      (alternatives (2 * (spared ps).length + 2) false true true) :=
    (pairs_readers (ps.length + 1)).1 false true true (by omega) (by omega)
  have ends := readers List.prefix_rfl (paired_alone ps flags) place (Nat.lt_succ_self _)
  rw [read_eq, read_eq, run_readWhole_alone (captured_ne ps), run_readWhole_alone (spared_ne ps), plain,
    StateT.run_bind, StateT.run_bind]
  generalize (alternatives _ false true true).run (.alone (captured ps) flags) = result,
    (alternatives _ false true true).run (.alone (spared ps) flags) = result' at ends
  cases ends with
  | failed => exact .refused _ _
  | step _ _ same _ paired => exact bothRead_finish paired same

theorem compile_spared {ps : List Piece} (fits : fit (lead ps) ps = true) {flags : PatternFlags}
    (plain : flags.has PatternFlags.verbose = false) :
    (∀ pattern, compile (captured ps) flags = .ok pattern →
      ∃ pattern', compile (spared ps) flags = .ok pattern' ∧
        ∀ before after, pattern.matchLength before after = pattern'.matchLength before after) ∧
    ∀ pattern', compile (spared ps) flags = .ok pattern' →
      ∃ pattern, compile (captured ps) flags = .ok pattern ∧
        ∀ before after, pattern.matchLength before after = pattern'.matchLength before after := by
  have both := bothRead fits plain
  generalize result : read (captured ps) flags = found, result' : read (spared ps) flags = found' at both
  cases both with
  | refused =>
    rw [compile_of_read_error result, compile_of_read_error result']
    exact ⟨fun _ => nofun, fun _ => nofun⟩
  | @read kept node node' omits all =>
    simp only [compile_eq_ok_iff result, compile_eq_ok_iff result', omits.refusal?_eq]
    constructor
    · rintro _ ⟨accepted, small, rfl⟩
      exact ⟨_, ⟨accepted, small, rfl⟩, omits.matchLength all⟩
    · rintro _ ⟨accepted, small, rfl⟩
      exact ⟨_, ⟨accepted, small, rfl⟩, omits.matchLength all⟩

/-! ## Patterns with macros -/

/-- The pieces that a pattern is made of when its macros have been expanded. Placeholders stand for groups of macros,
and no placeholder follows a backslash. -/
inductive Pieces (macros : Macros) : Text → List Piece → Prop
  | nil : Pieces macros [] []
  | plain {c : Char} (ordinary : c ≠ '\\') {text : Text} {ps : List Piece}
    (alone : ∀ name ∈ macros.names, ¬placeholder name <+: c :: text) (pieces : Pieces macros text ps) :
    Pieces macros (c :: text) (.plain c ordinary :: ps)
  | escaped {c : Char} {text : Text} {ps : List Piece} (alone : ∀ name ∈ macros.names, ¬placeholder name <+: c :: text)
    (pieces : Pieces macros text ps) : Pieces macros ('\\' :: c :: text) (.escaped c :: ps)
  | reference {name fragment text : Text} {inner ps : List Piece} (mem : (name, fragment) ∈ macros)
    (inside : Pieces macros fragment inner) (pieces : Pieces macros text ps) :
    Pieces macros (placeholder name ++ text) (.opening :: (inner ++ .closing :: ps))

theorem Pieces.expands {macros : Macros} {text : Text} {ps : List Piece} (h : Pieces macros text ps) :
    Expands macros text (captured ps) := by
  induction h with
  | nil => exact .nil
  | plain _ alone _ ih => exact .char alone ih
  | escaped alone _ ih => exact .char (fun _ _ => Macros.no_placeholder_at (by decide)) (.char alone ih)
  | @reference name fragment text inner ps mem _ _ ihInner ih =>
    have flat : captured (.opening :: (inner ++ .closing :: ps)) = group (captured inner) ++ captured ps := by
      simp [Macros.group, Piece.unit]
    exact flat ▸ .reference mem ihInner ih

theorem ofRule_eq_ok_iff {text : Text} {rule : Int} {caseInsensitive : Bool} {pattern : Pattern} :
    ofRule text rule caseInsensitive = .ok pattern ↔
      compile (grouped text) (if caseInsensitive then PatternFlags.ignoreCase else 0) = .ok pattern := by
  refine ⟨fun h => ?_, ofRule_of_ok⟩
  cases compiled : compile (grouped text) (if caseInsensitive then PatternFlags.ignoreCase else 0) with
  | ok pattern' => exact congrArg Except.ok (Except.ok.inj ((ofRule_of_ok compiled).symm.trans h))
  | error failure => exact nomatch (ofRule_of_error compiled).symm.trans h

/-- The pattern of a rule with macros in it, where references by number are to groups before the first macro, is
compiled and matches as if the groups of macros captured nothing. -/
theorem expanded_as_spared (settings : Settings) (macros : Macros) (well : macros.WellNamed) {table : Macros}
    (expanded : (Macros.expand settings macros).outcome = .ok table) {text : Text} {ps : List Piece}
    (pieces : Pieces macros text ps) (fits : fit (lead ps) ps = true) (rule : Int) (caseInsensitive : Bool) :
    (∀ pattern, ofRule (table.substitute text) rule caseInsensitive = .ok pattern →
      ∃ pattern', ofRule (spared ps) rule caseInsensitive = .ok pattern' ∧
        ∀ before after, pattern.matchLength before after = pattern'.matchLength before after) ∧
    ∀ pattern', ofRule (spared ps) rule caseInsensitive = .ok pattern' →
      ∃ pattern, ofRule (table.substitute text) rule caseInsensitive = .ok pattern ∧
        ∀ before after, pattern.matchLength before after = pattern'.matchLength before after := by
  obtain ⟨acyclic, lenient⟩ := Macros.of_expand well ⟨[], expanded⟩
  obtain ⟨table', returned, settled⟩ := Macros.expand_settled settings well acyclic lenient
  obtain rfl := returned.eq_of_mayReturn ⟨[], expanded⟩
  have same : table'.substitute text = captured ps := ((settled.expands_iff well acyclic _ _).1 pieces.expands).symm
  have plain : (if caseInsensitive then PatternFlags.ignoreCase else 0).has PatternFlags.verbose = false := by
    cases caseInsensitive <;> decide
  have whole : fit (lead (enclosed ps)) (enclosed ps) = true := by
    rw [lead_enclosed]
    exact fit_enclosed fits
  simp only [ofRule_eq_ok_iff, same, ← captured_enclosed, ← spared_enclosed]
  exact compile_spared whole plain

def marked : Macros := [("D".toList, "x".toList)]

def referenceBefore : List Piece :=
  [.parenthesis, .plain 'a' (by decide), .closing, .opening, .plain 'x' (by decide), .closing, .escaped '1']

theorem expanded_as_spared_marked :
    marked.WellNamed ∧ (Macros.expand {} marked).outcome = .ok marked ∧
      Pieces marked "(a){D}\\1".toList referenceBefore ∧ fit (lead referenceBefore) referenceBefore = true ∧
      ∃ pattern pattern', ofRule (marked.substitute "(a){D}\\1".toList) 0 false = .ok pattern ∧
        ofRule "(a)(?:x)\\1".toList 0 false = .ok pattern' ∧
        ∀ before after, pattern.matchLength before after = pattern'.matchLength before after := by
  have well : marked.WellNamed := ⟨by decide, by decide +kernel⟩
  have expanded : (Macros.expand {} marked).outcome = .ok marked := by rfl
  have after : Pieces marked "\\1".toList [.escaped '1'] := .escaped (by decide +kernel) .nil
  have fragment : Pieces marked "x".toList [.plain 'x' (by decide)] := .plain (by decide) (by decide +kernel) .nil
  have macroGroup : Pieces marked "{D}\\1".toList
      [.opening, .plain 'x' (by decide), .closing, .escaped '1'] :=
    .reference (show ("D".toList, "x".toList) ∈ marked from List.mem_singleton_self _) fragment after
  have pieces : Pieces marked "(a){D}\\1".toList referenceBefore :=
    .plain (by decide) (by decide +kernel) (.plain (by decide) (by decide +kernel)
      (.plain (by decide) (by decide +kernel) macroGroup))
  have fits : fit (lead referenceBefore) referenceBefore = true := by decide +kernel
  have same := expanded_as_spared {} marked well expanded pieces fits 0 false
  have compiles : (ofRule "(a)(?:x)\\1".toList 0 false).toOption.isSome = true := by decide +kernel
  cases compiled' : ofRule "(a)(?:x)\\1".toList 0 false with
  | error e => exact nomatch compiled' ▸ compiles
  | ok pattern' =>
    obtain ⟨pattern, compiled, alike⟩ := same.2 pattern' compiled'
    exact ⟨well, expanded, pieces, fits, pattern, pattern', compiled, rfl, alike⟩

/-- The group of a macro takes the number of a group of the rule. -/
theorem macro_takes_number :
    marked.WellNamed ∧ marked.Acyclic ∧ (Macros.expand {} marked).outcome = .ok marked ∧
      (ofRule (marked.substitute "{D}(a)\\1".toList) 0 false).toOption.map (·.matchLength [] "xaa".toList) = some none ∧
      (ofRule "(?:x)(a)\\1".toList 0 false).toOption.map (·.matchLength [] "xaa".toList) = some (some 3) :=
  ⟨⟨by decide, by decide +kernel⟩, Macros.acyclic_of_rank (fun _ => 0) (by decide +kernel), by rfl,
    by decide +kernel, by decide +kernel⟩

end LexGen.Pattern
