import LexGen.Proofs.Code.ExchangedLines

/-!
# Exchanging tokens in code

Lines are cut one after the other, and what one leaves open goes into the next. After an exchange of marked tokens it
leaves the same open, but for the place of a literal.

* `LineExchange`: a line before and after the exchange.
* `exists_lineExchange`: one for each way that a line begins.
* `looseTokens_exchange`: the code after the edits has the tokens that stay and those that are put in.
-/

namespace LexGen.Code

/-! ## Unmarked tokens -/

theorem Sound.literal {marks : List Mark} (sound : Sound marks) {m : Mark} (mem : m ∈ marks) (chosen : m.2.isSome) :
    m.1.kind = .literal ∧ IsName m.1.text := by
  induction marks with
  | nil => cases mem
  | cons m' marks ih =>
    rcases List.mem_cons.1 mem with rfl | mem
    · exact ⟨(sound.1 chosen).1, (sound.1 chosen).2.1⟩
    · exact ih sound.2.2 mem

theorem Sound.unmarked {marks more : List Mark} (sound : Sound (marks ++ more))
    (other : ∀ m ∈ marks, m.1.kind ≠ .literal) : ∀ m ∈ marks, m.2 = none := by
  intro m mem
  rw [← Option.not_isSome_iff_eq_none]
  exact fun chosen => other m mem (sound.literal (List.mem_append_left more mem) chosen).1

theorem edits_append (marks marks' : List Mark) : edits (marks ++ marks') = edits marks ++ edits marks' :=
  List.filterMap_append

theorem edits_unmarked {marks : List Mark} (unmarked : ∀ m ∈ marks, m.2 = none) : edits marks = [] :=
  List.filterMap_eq_nil_iff.2 fun m mem => by
    obtain ⟨t, put?⟩ := m
    obtain rfl : put? = none := unmarked _ mem
    rfl

theorem tokens_unmarked {marks : List Mark} (unmarked : ∀ m ∈ marks, m.2 = none) :
    marks.flatMap Mark.tokens = shapes (marks.map Prod.fst) := by
  induction marks with
  | nil => rfl
  | cons m marks ih =>
    obtain ⟨t, put?⟩ := m
    obtain ⟨rfl, others⟩ := List.forall_mem_cons.1 unmarked
    rw [List.flatMap_cons, ih others]
    rfl

theorem shapes_append (tokens tokens' : List LooseToken) :
    shapes (tokens ++ tokens') = shapes tokens ++ shapes tokens' := List.map_append

/-! ## A line that begins a statement -/

def LooseState.indented (width : Nat) (s : LooseState) : LooseState :=
  { s with indents := if s.indents.headD 0 < width then width :: s.indents else s.indents.dropWhile (width < ·) }

def leadTokens (line : Nat) (space : Text) (indents : List Nat) : Except LooseFailure (List LooseToken) :=
  let width := looseWidth space
  let column := space.length
  if indents.headD 0 < width then .ok [⟨.indent, space, line, 0, line, column⟩]
  else if !indents.contains width then .error .badIndent
  else .ok ((indents.takeWhile (width < ·)).map fun _ => ⟨.dedent, [], line, column, line, column⟩)

theorem leadTokens_kind {line : Nat} {space : Text} {indents : List Nat} {lead : List LooseToken}
    (made : leadTokens line space indents = .ok lead) : ∀ t ∈ lead, t.kind ≠ .literal := by
  unfold leadTokens at made
  dsimp only at made
  split at made
  · cases made
    simp
  · split at made
    · cases made
    · cases made
      intro t mem
      obtain ⟨_, -, rfl⟩ := List.mem_map.1 mem
      exact LooseKind.noConfusion

theorem statementLine_visible {line : Nat} {space body : Text} {c : Char} (inner : space.all isInnerSpace)
    (visible : isInnerSpace c = false) (other : c ∉ ['#', '\r', '\n']) (s : LooseState) :
    statementLine line (space ++ c :: body) s =
      (leadTokens line space s.indents).map fun lead =>
        let (tokens, s') := lineTokens line ((space ++ c :: body).length + 1) space.length (c :: body)
          (s.indented (looseWidth space))
        (lead ++ tokens, s') := by
  have start : (space ++ c :: body).takeWhile isInnerSpace = space := by
    refine takeWhile_space inner ?_
    rintro d ⟨⟩
    exact visible
  simp only [List.mem_cons, List.not_mem_nil, or_false, not_or] at other
  unfold statementLine leadTokens
  dsimp only
  rw [start, List.drop_left]
  simp only [other, decide_false, Bool.or_self, Bool.false_eq_true, if_false]
  by_cases deeper : s.indents.headD 0 < looseWidth space
  · simp only [if_pos deeper, LooseState.indented]
    rfl
  · simp only [if_neg deeper, LooseState.indented]
    split <;> rfl

theorem statementLine_blank {line : Nat} {text : Text} {s s₁ : LooseState} {tokens : List LooseToken}
    (blank : ∀ c ∈ (text.dropWhile isInnerSpace).head?, c ∈ ['#', '\r', '\n'])
    (made : statementLine line text s = .ok (tokens, s₁)) : s₁ = s ∧ ∀ t ∈ tokens, t.kind ≠ .literal := by
  unfold statementLine at made
  dsimp only at made
  rw [drop_takeWhile] at made
  split at made
  · cases made
    exact ⟨rfl, fun _ mem => nomatch mem⟩
  · rename_i c body shown
    have blank := blank c (by rw [shown]; rfl)
    rw [if_pos (by simpa [or_assoc] using blank)] at made
    cases made
    refine ⟨rfl, fun t mem => ?_⟩
    rcases List.mem_append.1 mem with mem | mem
    · split at mem
      · rw [List.mem_singleton.1 mem]
        exact LooseKind.noConfusion
      · cases mem
    · rw [List.mem_singleton.1 mem]
      exact LooseKind.noConfusion

/-! ## Lines -/

/-- A line in which marked tokens are exchanged. -/
structure LineExchange (marks : List Mark) (line : Nat) (s s₁ : LooseState) (text text' : Text) : Prop where
  rows : ∀ edit ∈ edits marks, edit.line = line - 1
  ascending : (edits marks).Pairwise fun a b => a.start < b.start
  edited : (edits marks).foldr Text.Edit.inLine text = text'
  texts : Text.Exchanged text text'
  tokens : ∀ line' column', ∃ tokens line₁ column₁,
    looseLine line text' (s.moved line' column') = .ok (tokens, s₁.moved line₁ column₁) ∧
      shapes tokens = marks.flatMap Mark.tokens
  unnamed : s₁.Unnamed

variable {line : Nat} {text : Text} {s s₁ : LooseState} {marks more : List Mark}

theorem LineExchange.unmarked (unmarked : ∀ m ∈ marks, m.2 = none) (unnamed : s₁.Unnamed)
    (made : ∀ line' column', ∃ tokens line₁ column₁,
      looseLine line text (s.moved line' column') = .ok (tokens, s₁.moved line₁ column₁) ∧
        shapes tokens = shapes (marks.map Prod.fst)) :
    LineExchange marks line s s₁ text text where
  rows := by simp [edits_unmarked unmarked]
  ascending := by simp [edits_unmarked unmarked]
  edited := by simp [edits_unmarked unmarked]
  texts := .refl text
  tokens := by
    rw [tokens_unmarked unmarked]
    exact made
  unnamed := unnamed

theorem LooseState.moved_of_closed (closed : s.literal = none) (line column : Nat) : s.moved line column = s := by
  cases s
  cases closed
  rfl

theorem LooseState.unnamed_of_closed (closed : s.literal = none) : s.Unnamed := by
  intro o opened
  cases closed.symm.trans opened

theorem exchanged_head? {text text' : Text} (exchanged : Text.Exchanged text text') {c : Char}
    (head : text.head? = some c) (visible : isInnerSpace c = false) (other : c ∉ ['#', '\r', '\n']) :
    ∃ c' rest, text' = c' :: rest ∧ isInnerSpace c' = false ∧ c' ∉ ['#', '\r', '\n'] := by
  cases exchanged with
  | done => cases head
  | keep d _ =>
    cases head
    exact ⟨c, _, rfl, visible, other⟩
  | swap _ solid _ =>
    obtain ⟨c', rest, rfl, shown, comment⟩ := solid.begins
    refine ⟨c', _, rfl, not_innerSpace shown, ?_⟩
    have inLine := solid.inLine c' List.mem_cons_self
    simp [comment, inLine]

theorem RestExchange.literalEnd? {column : Nat} {taken rest rest' : Text} {mark : Char} {long : Bool}
    (change : RestExchange marks line column s s₁ rest rest') (first : ∀ m ∈ marks.head?, m.2 = none)
    (ends : literalEnd? mark long (taken ++ rest) = some (taken, rest)) :
    literalEnd? mark long (taken ++ rest') = some (taken, rest') := by
  rcases change.begins first with rfl | ⟨x, v, v', rfl, rfl⟩
  · exact ends
  · rw [← List.append_assoc] at ends
    obtain ⟨others, ends'⟩ := literalEnd?_before v v' (by decide) _ taken _ ends (by simp)
    have whole := (literalEnd?_eq ends').1
    rw [List.append_assoc] at whole
    rw [← List.append_assoc, ends', ← List.append_cancel_left whole]

theorem RestExchange.wholeLine {lead : List Mark} {front rest rest' : Text} {s' : LooseState}
    (unmarked : ∀ m ∈ lead, m.2 = none) (change : RestExchange marks line front.length s' s₁ rest rest')
    (made : ∀ line' column' tokens s₂,
      lineTokens line ((front ++ rest').length + 1) front.length rest' s' = (tokens, s₂) →
        ∃ lead', shapes lead' = shapes (lead.map Prod.fst) ∧
          looseLine line (front ++ rest') (s.moved line' column') = .ok (lead' ++ tokens, s₂)) :
    LineExchange (lead ++ marks) line s s₁ (front ++ rest) (front ++ rest') := by
  have same : edits (lead ++ marks) = edits marks := by rw [edits_append, edits_unmarked unmarked, List.nil_append]
  exact {
    rows := same ▸ change.rows
    ascending := same ▸ change.ascending
    edited := by rw [same, change.edited front rfl]
    texts := (Text.Exchanged.refl front).append change.texts
    tokens := by
      intro line' column'
      obtain ⟨tokens, line₁, column₁, cut, shown⟩ :=
        change.tokens line ((front ++ rest').length + 1) front.length (Nat.lt_succ_of_le (by simp))
      obtain ⟨lead', shown', whole⟩ := made line' column' tokens _ cut
      refine ⟨_, line₁, column₁, whole, ?_⟩
      rw [shapes_append, shown, shown', List.flatMap_append, tokens_unmarked unmarked]
    unnamed := change.unnamed
  }

theorem exists_statementLine (made : statementLine line text s = .ok (marks.map Prod.fst, s₁))
    (clean : ∀ m ∈ marks, m.1.kind ≠ .stray) (sound : Sound (marks ++ more)) (closed : s.literal = none)
    (begins : s.depth = 0) (fresh : s.continued = false)
    (next : s₁.Unnamed → s₁.literal.isSome → ∃ m ∈ more.head?, ¬EndsStatement m.1.kind m.1.text) :
    ∃ text', LineExchange marks line s s₁ text text' := by
  have first (text : Text) (line' column' : Nat) :
      looseLine line text (s.moved line' column') = statementLine line text s := by
    rw [LooseState.moved_of_closed closed, looseLine, closed]
    simp [begins, fresh]
  have inner : (text.takeWhile isInnerSpace).all isInnerSpace := List.all_takeWhile
  have whole := List.takeWhile_append_dropWhile (p := isInnerSpace) (l := text)
  by_cases blank : ∀ c ∈ (text.dropWhile isInnerSpace).head?, c ∈ ['#', '\r', '\n']
  · -- There is no statement in the line.
    obtain ⟨rfl, other⟩ := statementLine_blank blank made
    have other : ∀ m ∈ marks, m.1.kind ≠ .literal := fun m mem => other m.1 (List.mem_map_of_mem mem)
    refine ⟨text, .unmarked (sound.unmarked other) (LooseState.unnamed_of_closed closed) fun line' column' => ?_⟩
    refine ⟨_, line', column', ?_, rfl⟩
    rw [first, made, LooseState.moved_of_closed closed]
  · push Not at blank
    obtain ⟨c, head, other⟩ := blank
    have visible : isInnerSpace c = false := by
      have after := List.head?_dropWhile_not isInnerSpace text
      rw [head] at after
      simpa using after
    obtain ⟨body, shown⟩ := List.head?_eq_some_iff.1 head
    rw [shown] at whole
    generalize text.takeWhile isInnerSpace = space at inner whole
    obtain rfl := whole
    rw [statementLine_visible inner visible other] at made
    cases leads : leadTokens line space s.indents with
    | error failure =>
      rw [leads] at made
      cases made
    | ok lead =>
      rw [leads] at made
      generalize found : lineTokens line _ _ (c :: body) _ = result at made
      obtain ⟨tokens, s₂⟩ := result
      obtain ⟨same, rfl⟩ := Prod.mk.inj (Except.ok.inj made)
      obtain ⟨leadMarks, marks, rfl, rfl, rfl⟩ := List.map_eq_append_iff.1 same.symm
      rw [List.append_assoc] at sound
      have unmarked := sound.unmarked fun m mem => leadTokens_kind leads m.1 (List.mem_map_of_mem mem)
      have none := edits_unmarked unmarked
      obtain ⟨rest, change⟩ := exists_restExchange found (Nat.lt_succ_of_le (by simp))
        (fun m mem => clean m (List.mem_append_right _ mem)) sound.of_append closed next
      obtain ⟨c', body', rfl, visible', other'⟩ := exchanged_head? change.texts rfl visible other
      refine ⟨space ++ c' :: body', change.wholeLine unmarked fun line' column' tokens s₂ cut => ⟨_, rfl, ?_⟩⟩
      rw [first, statementLine_visible inner visible' other', leads]
      simp only [Except.map, cut]

theorem LooseState.literal_moved {o : OpenLiteral} (opened : s.literal = some o) (line column : Nat) :
    (s.moved line column).literal = some { o with line := line, column := column } := by
  rw [LooseState.moved, opened]
  rfl

theorem looseLine_opened {o : OpenLiteral} {tokens : List LooseToken} (opened : s.literal = some o)
    (made : looseLine line text s = .ok (tokens, s₁)) :
    (∃ taken rest more, literalEnd? o.mark o.long text = some (taken, rest) ∧
      lineTokens line (text.length + 1) taken.length rest { s with literal := none } = (more, s₁) ∧
      tokens = ⟨.literal, o.taken ++ taken, o.line, o.column, line, taken.length⟩ :: more) ∨
    (tokens = [] ∧ s₁ = { s with literal := some { o with taken := o.taken ++ text } } ∧
      ∀ line' column', looseLine line text (s.moved line' column') = .ok ([], s₁.moved line' column')) ∨
    ∃ t ∈ tokens, t.kind = .stray := by
  rw [looseLine, opened] at made
  dsimp only at made
  cases ends : literalEnd? o.mark o.long text with
  | some found =>
    obtain ⟨taken, rest⟩ := found
    rw [ends] at made
    obtain ⟨rfl, rfl⟩ := Prod.mk.inj (Except.ok.inj made)
    exact .inl ⟨taken, rest, _, rfl, rfl, rfl⟩
  | none =>
    rw [ends] at made
    dsimp only at made
    split at made
    · rename_i goesOn
      obtain ⟨rfl, rfl⟩ := Prod.mk.inj (Except.ok.inj made)
      refine .inr (.inl ⟨rfl, rfl, fun line' column' => ?_⟩)
      rw [looseLine, LooseState.literal_moved opened]
      dsimp only
      rw [ends]
      exact if_pos goesOn
    · obtain ⟨rfl, -⟩ := Prod.mk.inj (Except.ok.inj made)
      exact .inr (.inr ⟨_, List.mem_singleton_self _, rfl⟩)

theorem LooseState.Unnamed.goesOn {o : OpenLiteral} (unnamed : s.Unnamed) (opened : s.literal = some o) (text : Text) :
    ({ s with literal := some { o with taken := o.taken ++ text } } : LooseState).Unnamed := by
  obtain ⟨some, unnamed⟩ := unnamed o opened
  rintro _ ⟨⟩
  refine ⟨List.append_ne_nil_of_left_ne_nil some text, fun more => ?_⟩
  rw [List.append_assoc]
  exact unnamed (text ++ more)

theorem exists_openLine {o : OpenLiteral} (opened : s.literal = some o)
    (made : looseLine line text s = .ok (marks.map Prod.fst, s₁))
    (clean : ∀ m ∈ marks, m.1.kind ≠ .stray) (sound : Sound (marks ++ more)) (unnamed : s.Unnamed)
    (next : s₁.Unnamed → s₁.literal.isSome → ∃ m ∈ more.head?, ¬EndsStatement m.1.kind m.1.text) :
    ∃ text', LineExchange marks line s s₁ text text' := by
  rcases looseLine_opened opened made with
    ⟨taken, rest, tokens, ends, cut, same⟩ | ⟨none, rfl, goesOn⟩ | ⟨t, mem, isStray⟩
  · obtain ⟨rfl, -⟩ := literalEnd?_eq ends
    obtain ⟨⟨t, put?⟩, marks, rfl, isLiteral, rfl⟩ := List.map_eq_cons_iff.1 same
    dsimp only at isLiteral
    obtain ⟨chosen, following, sound⟩ := sound
    -- The first token behind the literal stays, since there is no `return` before it.
    have first : ∀ m ∈ marks.head?, m.2 = none := by
      intro m head
      rw [← Option.not_isSome_iff_eq_none]
      intro marked
      obtain ⟨put, isPut⟩ := Option.isSome_iff_exists.1 marked
      have followed : m ∈ (marks ++ more).head? := by
        rw [List.head?_append, head]
        rfl
      have isName := (following m followed put isPut).1
      rw [isLiteral] at isName
      cases isName
    have unmarked : ∀ m ∈ [(t, put?)], m.2 = none := by
      rw [List.forall_mem_singleton, ← Option.not_isSome_iff_eq_none]
      intro marked
      have isName := (chosen marked).2.1
      rw [isLiteral] at isName
      exact (unnamed o opened).2 taken isName
    obtain ⟨rest', change⟩ := exists_restExchange cut (Nat.lt_succ_of_le (by simp))
      (fun m mem => clean m (List.mem_cons_of_mem _ mem)) sound rfl next
    refine ⟨taken ++ rest', change.wholeLine unmarked fun line' column' tokens s₂ cut' => ?_⟩
    refine ⟨[⟨.literal, o.taken ++ taken, line', column', line, taken.length⟩], by rw [isLiteral]; rfl, ?_⟩
    rw [looseLine, LooseState.literal_moved opened]
    dsimp only
    rw [change.literalEnd? first ends]
    exact congrArg (fun found => Except.ok (_ :: found.1, found.2)) cut'
  · obtain rfl := List.map_eq_nil_iff.1 none
    exact ⟨text, .unmarked (fun _ mem => nomatch mem) (unnamed.goesOn opened text) fun line' column' =>
      ⟨[], line', column', goesOn line' column', rfl⟩⟩
  · obtain ⟨m, held, rfl⟩ := List.mem_map.1 mem
    exact absurd isStray (clean m held)

theorem exists_lineExchange (made : looseLine line text s = .ok (marks.map Prod.fst, s₁))
    (clean : ∀ m ∈ marks, m.1.kind ≠ .stray) (sound : Sound (marks ++ more)) (unnamed : s.Unnamed)
    (next : s₁.Unnamed → s₁.literal.isSome → ∃ m ∈ more.head?, ¬EndsStatement m.1.kind m.1.text) :
    ∃ text', LineExchange marks line s s₁ text text' := by
  cases opened : s.literal with
  | some o => exact exists_openLine opened made clean sound unnamed next
  | none =>
    by_cases begins : s.depth = 0 ∧ s.continued = false
    · rw [looseLine, opened] at made
      simp only [begins.1, begins.2, decide_true, Bool.not_false, Bool.and_self, if_true] at made
      exact exists_statementLine made clean sound opened begins.1 begins.2 next
    · have goesOn : ¬(decide (s.depth = 0) && !s.continued) := by simpa using begins
      have first (text : Text) (line' column' : Nat) : looseLine line text (s.moved line' column') =
          .ok (lineTokens line (text.length + 1) 0 text { s with continued := false }) := by
        rw [LooseState.moved_of_closed opened, looseLine, opened]
        simp only [if_neg goesOn]
      have made := (first text 0 0).symm.trans ((LooseState.moved_of_closed opened 0 0).symm ▸ made)
      obtain ⟨text', change⟩ := exists_restExchange (Except.ok.inj made) (Nat.lt_succ_self _) clean sound opened next
      have whole : LineExchange ([] ++ marks) line s s₁ ([] ++ text) ([] ++ text') :=
        change.wholeLine (fun _ mem => nomatch mem) fun line' column' tokens s₂ cut =>
          ⟨[], rfl, by rw [first]; exact congrArg Except.ok cut⟩
      exact ⟨text', whole⟩

/-! ## Code -/

def endsCode (last : Text) : Bool :=
  match last.getLast? with
  | some c => c = '\n' || c = '\r' || (Text.trim last).head? = some '#' || last.all isInnerSpace
  | none => true

def endTokens (line : Nat) (last : Text) (indents : List Nat) : List LooseToken :=
  (if endsCode last then [] else [⟨.lineEnd, [], line - 1, last.length, line - 1, last.length + 1⟩]) ++
    ((indents.filter (· != 0)).map fun _ => ⟨.dedent, [], line, 0, line, 0⟩) ++ [⟨.codeEnd, [], line, 0, line, 0⟩]

theorem looseLines_nil_iff {line : Nat} {last : Text} {s : LooseState} {tokens : List LooseToken} :
    looseLines line last [] s = (tokens, none) ↔
      s.literal = none ∧ s.depth = 0 ∧ s.continued = false ∧ tokens = endTokens line last s.indents := by
  have whole : looseLines line last [] s =
      if s.literal.isSome || s.depth != 0 || s.continued then ([], some .openEnd)
      else (endTokens line last s.indents, none) := rfl
  rw [whole]
  split
  · rename_i isOpen
    refine iff_of_false (fun same => nomatch congrArg Prod.snd same) ?_
    rintro ⟨closed, level, fresh, -⟩
    simp [closed, level, fresh] at isOpen
  · rename_i closed
    simp only [Bool.or_eq_true, bne_iff_ne, not_or, not_not, Option.isSome_eq_false_iff, Bool.not_eq_true,
      Option.isNone_iff_eq_none] at closed
    simp [closed, eq_comm]

theorem looseLines_cons_iff {line : Nat} {last text : Text} {lines : List Text} {s : LooseState}
    {tokens : List LooseToken} :
    looseLines line last (text :: lines) s = (tokens, none) ↔
      ∃ here s₁ more, looseLine line text s = .ok (here, s₁) ∧ looseLines (line + 1) text lines s₁ = (more, none) ∧
        tokens = here ++ more := by
  rw [looseLines]
  cases looseLine line text s with
  | error failure => simp
  | ok found =>
    dsimp only
    constructor
    · intro made
      obtain ⟨rfl, closed⟩ := Prod.mk.inj made
      exact ⟨found.1, found.2, _, rfl, Prod.ext rfl closed, rfl⟩
    · rintro ⟨here, s₁, more, same, made, rfl⟩
      cases same
      rw [made]

theorem endsCode_exchanged {last last' : Text} (exchanged : Text.Exchanged last last') :
    endsCode last = endsCode last' := by
  have space (c : Char) (inner : isInnerSpace c = true) : Unicode.isSpace c = true := by
    by_contra visible
    rw [not_innerSpace (by simpa using visible)] at inner
    cases inner
  unfold endsCode
  cases ends : last.getLast? with
  | none =>
    rw [exchanged.eq_nil_iff.1 (List.getLast?_eq_none_iff.1 ends)]
    rfl
  | some c =>
    cases ends' : last'.getLast? with
    | none =>
      rw [exchanged.eq_nil_iff.2 (List.getLast?_eq_none_iff.1 ends')] at ends
      cases ends
    | some c' =>
      have breaks {d : Char} (isBreak : d = '\n' ∨ d = '\r') : decide (c = d) = decide (c' = d) := by
        have same := exchanged.getLast?_iff isBreak
        rw [ends, ends', Option.some_inj, Option.some_inj] at same
        exact decide_eq_decide.2 same
      dsimp only
      rw [breaks (.inl rfl), breaks (.inr rfl), exchanged.all_eq space, decide_eq_decide.2 exchanged.head?_trim_iff]

theorem shapes_endTokens {last last' : Text} (exchanged : Text.Exchanged last last') (line : Nat) (indents : List Nat) :
    shapes (endTokens line last' indents) = shapes (endTokens line last indents) := by
  rw [endTokens, endTokens, endsCode_exchanged exchanged]
  split <;> simp [shapes]

theorem endTokens_kind {line : Nat} {last : Text} {indents : List Nat} :
    ∀ t ∈ endTokens line last indents, t.kind ≠ .literal := by
  simp only [endTokens, List.mem_append, List.mem_map, List.mem_singleton]
  rintro t ((mem | ⟨_, -, rfl⟩) | rfl)
  · split at mem
    · cases mem
    · rw [List.mem_singleton.1 mem]
      exact LooseKind.noConfusion
  · exact LooseKind.noConfusion
  · exact LooseKind.noConfusion

/-- What is behind an open literal is the rest of it, and ends no statement before it. -/
theorem exists_head_of_opened {line : Nat} {last : Text} {lines : List Text} {s : LooseState} {marks : List Mark}
    (made : looseLines line last lines s = (marks.map Prod.fst, none)) (clean : ∀ m ∈ marks, m.1.kind ≠ .stray)
    (unnamed : s.Unnamed) (opened : s.literal.isSome) :
    ∃ m ∈ marks.head?, ¬EndsStatement m.1.kind m.1.text := by
  induction lines generalizing line last s with
  | nil =>
    rw [(looseLines_nil_iff.1 made).1] at opened
    cases opened
  | cons text lines ih =>
    obtain ⟨here, s₁, more, first, others, same⟩ := looseLines_cons_iff.1 made
    obtain ⟨o, isOpen⟩ := Option.isSome_iff_exists.1 opened
    rcases looseLine_opened isOpen first with
      ⟨taken, rest, tokens, ends, -, rfl⟩ | ⟨rfl, rfl, -⟩ | ⟨t, mem, isStray⟩
    · obtain ⟨m, marks, rfl, isLiteral, -⟩ := List.map_eq_cons_iff.1 same
      refine ⟨m, rfl, ?_⟩
      rw [isLiteral]
      rintro (isEnd | isEnd | isEnd | isEnd)
      · cases isEnd
      · cases isEnd
      · cases isEnd
      · have long := congrArg List.length isEnd
        have some := List.length_pos_of_ne_nil (unnamed o isOpen).1
        have more := List.length_pos_of_ne_nil (literalEnd?_eq ends).2
        rw [List.length_append, List.length_singleton] at long
        omega
    · exact ih (by rw [others, same]; rfl) (unnamed.goesOn isOpen text) rfl
    · obtain ⟨m, held, rfl⟩ := List.mem_map.1 (same ▸ List.mem_append_left _ mem)
      exact absurd isStray (clean m held)

theorem apply_row {above lines : List Text} {text : Text} {edit : Text.Edit} (row : edit.line = above.length) :
    Text.Edit.apply (above ++ text :: lines) edit = above ++ edit.inLine text :: lines := by
  rw [Text.Edit.apply, row, List.modify_eq_take_cons_drop (by simp)]
  simp

theorem foldr_apply_row {above lines : List Text} {text : Text} {edits : List Text.Edit}
    (rows : ∀ edit ∈ edits, edit.line = above.length) :
    edits.foldr (fun edit lines => Text.Edit.apply lines edit) (above ++ text :: lines) =
      above ++ edits.foldr Text.Edit.inLine text :: lines := by
  induction edits with
  | nil => rfl
  | cons edit edits ih =>
    obtain ⟨row, rows⟩ := List.forall_mem_cons.1 rows
    rw [List.foldr_cons, ih rows, apply_row row]
    rfl

/-- Lines in which marked tokens are exchanged. -/
structure LinesExchange (marks : List Mark) (line : Nat) (last : Text) (s : LooseState) (lines lines' : List Text) :
    Prop where
  rows : ∀ edit ∈ edits marks, line ≤ edit.line + 1
  ascending : (edits marks).Pairwise Text.Edit.Begins
  edited : ∀ above : List Text, above.length + 1 = line →
    (edits marks).foldr (fun edit lines => Text.Edit.apply lines edit) (above ++ lines) = above ++ lines'
  texts : List.Forall₂ Text.Exchanged lines lines'
  tokens : ∀ last', Text.Exchanged last last' → ∀ line' column', ∃ tokens,
    looseLines line last' lines' (s.moved line' column') = (tokens, none) ∧ shapes tokens = marks.flatMap Mark.tokens

theorem LinesExchange.nil {line : Nat} {last : Text} {s : LooseState} {marks : List Mark}
    (made : looseLines line last [] s = (marks.map Prod.fst, none)) (sound : Sound marks) :
    LinesExchange marks line last s [] [] := by
  obtain ⟨closed, level, fresh, same⟩ := looseLines_nil_iff.1 made
  have sound : Sound (marks ++ []) := by rwa [List.append_nil]
  have unmarked := sound.unmarked fun m mem => endTokens_kind m.1 (same ▸ List.mem_map_of_mem mem)
  have none := edits_unmarked unmarked
  exact {
    rows := by simp [none]
    ascending := by simp [none]
    edited := by simp [none]
    texts := .nil
    tokens := by
      intro last' exchanged line' column'
      rw [LooseState.moved_of_closed closed]
      refine ⟨_, looseLines_nil_iff.2 ⟨closed, level, fresh, rfl⟩, ?_⟩
      rw [shapes_endTokens exchanged, tokens_unmarked unmarked, same]
  }

theorem LinesExchange.cons {line : Nat} {last text text' : Text} {lines lines' : List Text} {s s₁ : LooseState}
    {here marks : List Mark} (change : LineExchange here line s s₁ text text')
    (changes : LinesExchange marks (line + 1) text s₁ lines lines') (positive : 0 < line) :
    LinesExchange (here ++ marks) line last s (text :: lines) (text' :: lines') where
  rows := by
    intro edit mem
    rw [edits_append] at mem
    rcases List.mem_append.1 mem with mem | mem
    · rw [change.rows edit mem, Nat.sub_add_cancel positive]
    · exact Nat.le_of_succ_le (changes.rows edit mem)
  ascending := by
    rw [edits_append]
    refine List.pairwise_append.2 ⟨change.ascending.imp_of_mem fun mem mem' start => ?_, changes.ascending, ?_⟩
    · exact .inr ⟨by rw [change.rows _ mem, change.rows _ mem'], start⟩
    · intro edit mem edit' mem'
      have row := change.rows edit mem
      have below := changes.rows edit' mem'
      exact .inl (by omega)
  edited := by
    rintro above rfl
    have later := changes.edited (above ++ [text]) (by simp)
    rw [List.append_assoc, List.append_assoc, List.singleton_append, List.singleton_append] at later
    rw [edits_append, List.foldr_append, later, foldr_apply_row change.rows, change.edited]
  texts := .cons change.texts changes.texts
  tokens := by
    intro last' _ line' column'
    obtain ⟨tokens, line₁, column₁, made, shown⟩ := change.tokens line' column'
    obtain ⟨more, made', shown'⟩ := changes.tokens text' change.texts line₁ column₁
    refine ⟨_, looseLines_cons_iff.2 ⟨_, _, _, made, made', rfl⟩, ?_⟩
    rw [shapes_append, shown, shown', List.flatMap_append]

theorem exists_linesExchange {line : Nat} {last : Text} {lines : List Text} {s : LooseState} {marks : List Mark}
    (made : looseLines line last lines s = (marks.map Prod.fst, none)) (clean : ∀ m ∈ marks, m.1.kind ≠ .stray)
    (sound : Sound marks) (unnamed : s.Unnamed) (positive : 0 < line) :
    ∃ lines', LinesExchange marks line last s lines lines' := by
  induction lines generalizing line last s marks with
  | nil => exact ⟨[], .nil made sound⟩
  | cons text lines ih =>
    obtain ⟨here, s₁, more, first, others, same⟩ := looseLines_cons_iff.1 made
    obtain ⟨here, marks, rfl, rfl, rfl⟩ := List.map_eq_append_iff.1 same
    have clean' : ∀ m ∈ marks, m.1.kind ≠ .stray := fun m mem => clean m (List.mem_append_right _ mem)
    obtain ⟨text', change⟩ := exists_lineExchange first (fun m mem => clean m (List.mem_append_left _ mem)) sound
      unnamed (exists_head_of_opened others clean')
    obtain ⟨lines', changes⟩ := ih others clean' sound.of_append change.unnamed (Nat.succ_pos line)
    exact ⟨text' :: lines', LinesExchange.cons change changes positive⟩

theorem looseTokens_exchange {code : Text} {marks : List Mark}
    (made : looseTokens code = (marks.map Prod.fst, none)) (clean : ∀ m ∈ marks, m.1.kind ≠ .stray)
    (sound : Sound marks) :
    ∃ tokens, looseTokens (Text.Edit.applyAll (Text.feedLines code) (edits marks)) = (tokens, none) ∧
      shapes tokens = marks.flatMap Mark.tokens := by
  obtain ⟨lines', change⟩ := exists_linesExchange made clean sound (LooseState.unnamed_of_closed rfl) Nat.one_pos
  have lines : (edits marks).foldr (fun edit lines => Text.Edit.apply lines edit) (Text.feedLines code) = lines' :=
    change.edited [] rfl
  have feeds := (Text.feedLines_feedLines code).exchanged change.texts
  rw [Text.Edit.applyAll_ascending change.ascending, lines, looseTokens, feeds.feedLines_flatten]
  exact change.tokens [] (.refl []) 0 0

end LexGen.Code
