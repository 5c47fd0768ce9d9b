import LexGen.Proofs.Code.Exchanging
import LexGen.Proofs.Text.Edits

/-!
# Exchanging tokens of a line

Tokens of a line are marked with what is put in for them, and edits of the line put it in. What is behind such an edit
moves, so tokens are compared without their places.

* `Mark` and `edits`: marked tokens, and the edits of lines that they stand for.
* `Sound`: only returned literals are marked.
* `RestExchange`: the edited rest of a line has the tokens that stay and those that are put in.
* `exists_restExchange`: the marked tokens of a line can be exchanged.
-/

namespace LexGen.Code

/-! ## Marked tokens -/

abbrev Mark := LooseToken × Option Put

def Mark.tokens : Mark → List (LooseKind × Text)
  | (t, none) => [(t.kind, t.text)]
  | (_, some put) => put.tokens

def edits (marks : List Mark) : List Text.Edit :=
  marks.filterMap fun (t, put?) => put?.map fun put => ⟨t.line - 1, t.column, t.lastColumn, put.text⟩

def IsName (text : Text) : Prop :=
  ∃ mark name, text = mark :: name ++ [mark] ∧ (mark = '\'' ∨ mark = '"') ∧ name ≠ [] ∧
    ∀ c ∈ name, c ∉ ['\'', '"', '\n', '\r']

/-- Only literals of names between the word `return` and the end of the statement are marked. What is put in next to
that word does not run together with it. -/
def Sound : List Mark → Prop
  | [] => True
  | (t, put?) :: marks =>
    (put?.isSome → t.kind = .literal ∧ IsName t.text ∧ ∀ m ∈ marks.head?, EndsStatement m.1.kind m.1.text) ∧
    (∀ m ∈ marks.head?, ∀ put ∈ m.2, t.kind = .name ∧ t.text = returnKeyword ∧
      (t.lastLine = m.1.line → t.lastColumn = m.1.column → ∀ c ∈ put.text.head?, Unicode.isWord c = false)) ∧
    Sound marks

theorem Sound.of_append {marks others : List Mark} (sound : Sound (marks ++ others)) : Sound others := by
  induction marks with
  | nil => exact sound
  | cons m marks ih => exact ih sound.2.2

def placed (line : Nat) : (column : Nat) → List Exchange → List Mark
  | _, [] => []
  | column, (p, put?) :: es =>
    let start := column + p.space.length
    let stop := start + p.text.length
    (⟨p.kind, p.text, line, start, line, stop⟩, put?) :: placed line stop es

theorem exists_placed {line column : Nat} {ps : List SpacedToken} {marks : List Mark}
    (whole : marks.map Prod.fst = layout line column ps) :
    ∃ es, es.map Prod.fst = ps ∧ marks = placed line column es := by
  induction ps generalizing column marks with
  | nil => exact ⟨[], rfl, List.map_eq_nil_iff.1 whole⟩
  | cons p ps ih =>
    obtain ⟨⟨t, put?⟩, marks, rfl, same, others⟩ := List.map_eq_cons_iff.1 whole
    obtain ⟨es, rfl, rfl⟩ := ih others
    obtain rfl : t = _ := same
    exact ⟨(p, put?) :: es, rfl, rfl⟩

theorem tokens_placed (line column : Nat) (es : List Exchange) :
    (placed line column es).flatMap Mark.tokens = (es.flatMap exchanged).map fun p => (p.kind, p.text) := by
  induction es generalizing column with
  | nil => rfl
  | cons e es ih =>
    obtain ⟨p, put?⟩ := e
    rw [placed, List.flatMap_cons, List.flatMap_cons, List.map_append, ih]
    congr 1
    cases put? with
    | none => rfl
    | some put => obtain ⟨put, tokens, stands⟩ := put; cases stands <;> rfl

theorem shapes_layout (line column : Nat) (ps : List SpacedToken) :
    (layout line column ps).map (fun t => (t.kind, t.text)) = ps.map fun p => (p.kind, p.text) := by
  induction ps generalizing column with
  | nil => rfl
  | cons p ps ih => rw [layout, List.map_cons, List.map_cons, ih]

/-! ## Edits of a line -/

theorem inLine_put (front space text put rest : Text) (line : Nat) :
    Text.Edit.inLine ⟨line, ↑(front.length + space.length), ↑(front.length + space.length + text.length), put⟩
      (front ++ (space ++ text ++ rest)) = front ++ (space ++ put ++ rest) := by
  have start : front.length + space.length = (front ++ space).length := List.length_append.symm
  have stop : (front ++ space).length + text.length = (front ++ space ++ text).length := List.length_append.symm
  have whole : front ++ (space ++ text ++ rest) = front ++ space ++ (text ++ rest) := by simp
  have whole' : front ++ space ++ (text ++ rest) = front ++ space ++ text ++ rest := by simp
  rw [Text.Edit.inLine_of_fits]
  · dsimp only
    rw [Int.toNat_natCast, Int.toNat_natCast, start, stop, whole, List.take_left, whole', List.drop_left]
    simp
  · exact Int.natCast_nonneg _
  · exact Int.ofNat_le.2 (Nat.le_add_right _ _)
  · refine Int.ofNat_le.2 ?_
    simp only [List.length_append]
    omega

/-- The edits that put in what is marked in a line, made from the last one to the first. -/
theorem foldr_inLine (line : Nat) (es : List Exchange) (left front : Text) :
    (edits (placed line front.length es)).foldr Text.Edit.inLine (front ++ render (es.map Prod.fst) left) =
      front ++ render (es.flatMap exchanged) left := by
  induction es generalizing front with
  | nil => rfl
  | cons e es ih =>
    obtain ⟨p, put?⟩ := e
    have rest := ih (front ++ p.space ++ p.text)
    have size : (front ++ p.space ++ p.text).length = front.length + p.space.length + p.text.length := by
      rw [List.length_append, List.length_append]
    have joined (rest : Text) : front ++ (p.space ++ p.text ++ rest) = front ++ p.space ++ p.text ++ rest := by simp
    rw [size] at rest
    cases put? with
    | none =>
      change (edits (placed line _ es)).foldr _ (front ++ (p.space ++ p.text ++ render (es.map Prod.fst) left)) =
        front ++ (p.space ++ p.text ++ render (es.flatMap exchanged) left)
      rw [joined, rest, joined]
    | some put =>
      change Text.Edit.inLine ⟨line - 1, _, _, put.text⟩ ((edits (placed line _ es)).foldr _
        (front ++ (p.space ++ p.text ++ render (es.map Prod.fst) left))) = _
      rw [joined, rest, ← joined, inLine_put, List.flatMap_cons, exchanged, render_pieces put.stands]

theorem line_of_placed {line column : Nat} {es : List Exchange} {edit : Text.Edit}
    (mem : edit ∈ edits (placed line column es)) : edit.line = line - 1 ∧ column ≤ edit.start := by
  induction es generalizing column with
  | nil => cases mem
  | cons e es ih =>
    obtain ⟨p, put?⟩ := e
    have later (mem : edit ∈ edits (placed line (column + p.space.length + p.text.length) es)) :
        edit.line = line - 1 ∧ column ≤ edit.start := by
      obtain ⟨row, start⟩ := ih mem
      exact ⟨row, by omega⟩
    cases put? with
    | none => exact later mem
    | some put =>
      rcases List.mem_cons.1 mem with rfl | mem
      · exact ⟨rfl, Int.ofNat_le.2 (Nat.le_add_right _ _)⟩
      · exact later mem

theorem pairwise_placed {line column : Nat} {es : List Exchange} (nonempty : ∀ e ∈ es, e.1.text ≠ []) :
    (edits (placed line column es)).Pairwise fun a b => a.start < b.start := by
  induction es generalizing column with
  | nil => exact .nil
  | cons e es ih =>
    obtain ⟨p, put?⟩ := e
    obtain ⟨some, others⟩ := List.forall_mem_cons.1 nonempty
    cases put? with
    | none => exact ih others
    | some put =>
      refine List.pairwise_cons.2 ⟨fun edit mem => ?_, ih others⟩
      have start := (line_of_placed mem).2
      have size := List.length_pos_of_ne_nil some
      dsimp only at size ⊢
      omega

/-! ## What may be exchanged in a line -/

theorem IsName.solid {text : Text} (isName : IsName text) : Text.Solid text := by
  obtain ⟨mark, name, rfl, quotes, -, inner⟩ := isName
  have plain : Unicode.isSpace mark = false ∧ mark ≠ '#' ∧ mark ≠ '\n' ∧ mark ≠ '\r' := by
    rcases quotes with rfl | rfl <;> decide
  refine ⟨⟨mark, _, rfl, plain.1, plain.2.1⟩, fun c mem => ?_⟩
  rcases List.mem_append.1 mem with mem | mem
  · rcases List.mem_cons.1 mem with rfl | mem
    · exact plain.2.2
    · constructor <;> rintro rfl <;> exact inner _ mem (by decide)
  · rw [List.mem_singleton.1 mem]
    exact plain.2.2

theorem Sound.exchangeable {line column : Nat} {es : List Exchange} {more : List Mark} {ending : Ending}
    (sound : Sound (placed line column es ++ more))
    (next : (∃ mark long taken, ending = .opens mark long taken) →
      ∃ m ∈ more.head?, ¬EndsStatement m.1.kind m.1.text) : Exchangeable ending es := by
  induction es generalizing column with
  | nil => trivial
  | cons e es ih =>
    obtain ⟨p, put?⟩ := e
    obtain ⟨chosen, following, sound⟩ := sound
    refine ⟨fun some => ?_, ?_, ih sound⟩
    · obtain ⟨literal, ⟨mark, name, whole, quotes, -⟩, ends⟩ := chosen some
      have whole : p.text = mark :: (name ++ [mark]) := whole
      refine ⟨literal, ?_, ?_, ?_⟩
      · rw [whole]
        rintro c ⟨⟩
        rcases quotes with rfl | rfl <;> decide
      · cases es with
        | nil => exact fun _ none => nomatch none
        | cons e es =>
          rintro _ ⟨⟩
          exact ends _ rfl
      · rintro rfl mark long taken opens
        obtain ⟨m, head, goesOn⟩ := next ⟨mark, long, taken, opens⟩
        exact goesOn (ends m head)
    · cases es with
      | nil => exact fun _ none => nomatch none
      | cons e es =>
        rintro _ ⟨⟩ put chosen
        obtain ⟨isName, isReturn, apart⟩ := following _ rfl put chosen
        refine ⟨isName, isReturn, fun none => apart rfl ?_⟩
        rw [none]
        rfl

theorem Sound.solid {line column : Nat} {es : List Exchange} {more : List Mark}
    (sound : Sound (placed line column es ++ more)) {e : Exchange} (mem : e ∈ es) (chosen : e.2.isSome) :
    Text.Solid e.1.text := by
  induction es generalizing column with
  | nil => cases mem
  | cons e es ih =>
    rcases List.mem_cons.1 mem with rfl | mem
    · exact (sound.1 chosen).2.1.solid
    · exact ih sound.2.2 mem

theorem render_exchanged {es : List Exchange} (solid : ∀ e ∈ es, e.2.isSome → Text.Solid e.1.text) (left : Text) :
    Text.Exchanged (render (es.map Prod.fst) left) (render (es.flatMap exchanged) left) := by
  induction es with
  | nil => exact .refl left
  | cons e es ih =>
    obtain ⟨p, put?⟩ := e
    obtain ⟨first, solid⟩ := List.forall_mem_cons.1 solid
    have rest := ih solid
    cases put? with
    | none => exact (Text.Exchanged.refl (p.space ++ p.text)).append rest
    | some put =>
      rw [List.flatMap_cons, exchanged, render_pieces put.stands, List.append_assoc]
      change Text.Exchanged (p.space ++ p.text ++ render (es.map Prod.fst) left) _
      rw [List.append_assoc]
      exact (Text.Exchanged.refl p.space).append (.swap (first rfl) put.stands.solid rest)

theorem depthAfter_exchanged {es : List Exchange} {depth : Int} {left : Text} {ending : Ending}
    (reads : Reads depth (es.map Prod.fst) left ending) (fits : Exchangeable ending es) (start : Int) :
    depthAfter start (es.flatMap exchanged) = depthAfter start (es.map Prod.fst) := by
  induction es generalizing depth start with
  | nil => rfl
  | cons e es ih =>
    obtain ⟨p, put?⟩ := e
    obtain ⟨-, -, found, reads⟩ := reads
    have rest := ih reads fits.2.2 (start + p.change)
    cases put? with
    | none => exact rest
    | some put =>
      have unchanged : p.change = 0 := by
        refine cut_change found ?_
        rw [(fits.1 rfl).1]
        decide
      obtain ⟨text, tokens, stands⟩ := put
      rw [List.flatMap_cons, List.map_cons, depthAfter, ← rest, unchanged]
      cases stands <;> simp [exchanged, pieces, depthAfter]

/-! ## The rest of a line -/

def LooseState.moved (line column : Nat) (s : LooseState) : LooseState :=
  { s with literal := s.literal.map fun o => { o with line := line, column := column } }

def LooseState.Unnamed (s : LooseState) : Prop :=
  ∀ o ∈ s.literal, o.taken ≠ [] ∧ ∀ more, ¬IsName (o.taken ++ more)

def shapes (tokens : List LooseToken) : List (LooseKind × Text) := tokens.map fun t => (t.kind, t.text)

theorem cutLiteral_opens {c quote mark : Char} {letters rest taken : Text} {long : Bool}
    (quotes : quote = '\'' ∨ quote = '"') (all : ∀ d ∈ letters, d ∈ ['b', 'u', 'r', 'f', 'B', 'U', 'R', 'F'])
    (found : cutLiteral c letters quote rest = .last (.opens mark long taken)) :
    taken ≠ [] ∧ ∀ more, ¬IsName (taken ++ more) := by
  unfold cutLiteral at found
  split at found
  · rename_i three
    split at found <;> cases found
    refine ⟨by simp, ?_⟩
    rintro more ⟨mark, name, same, quotes', some, inner⟩
    -- A quotation mark is second, or else a letter is first.
    cases letters with
    | nil =>
      obtain ⟨d, others, rfl⟩ := List.exists_cons_of_ne_nil some
      obtain ⟨e, rest, rfl⟩ : ∃ e others, rest = e :: others := by
        cases rest with
        | nil => cases three
        | cons e rest => exact ⟨e, rest, rfl⟩
      obtain ⟨rfl, -⟩ := List.cons.inj three
      obtain ⟨-, same⟩ := List.cons.inj same
      obtain ⟨rfl, -⟩ := List.cons.inj same
      refine inner _ List.mem_cons_self ?_
      rcases quotes with rfl | rfl <;> decide
    | cons d letters =>
      obtain ⟨rfl, -⟩ := List.cons.inj same
      have letter := all d List.mem_cons_self
      rcases quotes' with rfl | rfl <;> exact absurd letter (by decide)
  · split at found
    · split at found <;> cases found
      rename_i feed
      refine ⟨by simp, fun more isName => ?_⟩
      exact (isName.solid.inLine '\n' (by simp [List.mem_of_getLast? feed])).1 rfl
    · split at found
      · cases found
      · exact absurd found cutWord_ne_last

theorem cutText_opens {c mark : Char} {body taken : Text} {long : Bool}
    (found : cutText c body = .last (.opens mark long taken)) : taken ≠ [] ∧ ∀ more, ¬IsName (taken ++ more) := by
  cases marked : literalMark? body with
  | none =>
    rw [cutText, marked] at found
    exact absurd found cutWord_ne_last
  | some n =>
    obtain ⟨letters, quote, rest, rfl, rfl, quotes, all⟩ := literalMark?_spec marked
    rw [cutText_marked c marked] at found
    exact cutLiteral_opens quotes all found

theorem cut_opens {inner : Bool} {body taken : Text} {mark : Char} {long : Bool}
    (found : cut inner body = .last (.opens mark long taken)) : taken ≠ [] ∧ ∀ more, ¬IsName (taken ++ more) := by
  unfold cut at found
  split at found
  case h_1 | h_2 | h_3 | h_4 | h_5 | h_6 => cases found
  case h_7 => exact cutText_opens found

/-- The rest of a line in which marked tokens are exchanged. -/
structure RestExchange (marks : List Mark) (line column : Nat) (s s₁ : LooseState) (rest rest' : Text) : Prop where
  rows : ∀ edit ∈ edits marks, edit.line = line - 1
  ascending : (edits marks).Pairwise fun a b => a.start < b.start
  edited : ∀ front : Text, front.length = column →
    (edits marks).foldr Text.Edit.inLine (front ++ rest) = front ++ rest'
  texts : Text.Exchanged rest rest'
  tokens : ∀ line fuel column, rest'.length < fuel → ∃ tokens line₁ column₁,
    lineTokens line fuel column rest' s = (tokens, s₁.moved line₁ column₁) ∧ shapes tokens = marks.flatMap Mark.tokens
  begins : (∀ m ∈ marks.head?, m.2 = none) → rest' = rest ∨
    ∃ x v v', rest = x ++ (returnKeyword ++ v) ∧ rest' = x ++ (returnKeyword ++ v')
  unnamed : s₁.Unnamed

theorem Reads.text_ne_nil {depth : Int} {ps : List SpacedToken} {left : Text} {ending : Ending}
    (reads : Reads depth ps left ending) {p : SpacedToken} (mem : p ∈ ps) : p.text ≠ [] := by
  induction ps generalizing depth with
  | nil => cases mem
  | cons q ps ih =>
    obtain ⟨-, -, found, reads⟩ := reads
    rcases List.mem_cons.1 mem with rfl | mem
    · exact (cut_isPrefix found).2
    · exact ih reads mem

theorem Reads.length_le {depth : Int} {ps : List SpacedToken} {left : Text} {ending : Ending}
    (reads : Reads depth ps left ending) : ps.length ≤ (render ps left).length := by
  induction ps generalizing depth with
  | nil => exact Nat.zero_le _
  | cons p ps ih =>
    obtain ⟨-, -, found, reads⟩ := reads
    have size := List.length_pos_of_ne_nil (cut_isPrefix found).2
    have rest := ih reads
    rw [render, List.length_cons, List.length_append, List.length_append]
    omega

theorem Reads.last {depth : Int} {ps : List SpacedToken} {left : Text} {ending : Ending}
    (reads : Reads depth ps left ending) : ∃ inner body, cut inner body = .last ending := by
  induction ps generalizing depth with
  | nil => exact ⟨_, _, reads⟩
  | cons p ps ih => exact ih reads.2.2.2

theorem Ending.after_moved {s : LooseState} (closed : s.literal = none) (ending : Ending)
    (line column line' column' : Nat) :
    ending.after line column s = (ending.after line' column' s).moved line column := by
  cases ending <;> simp [Ending.after, LooseState.moved, closed]
  cases s
  cases closed
  rfl

theorem Ending.after_unnamed {s : LooseState} (closed : s.literal = none) (ending : Ending) {inner : Bool} {body : Text}
    (found : cut inner body = .last ending) (line column : Nat) : (ending.after line column s).Unnamed := by
  intro o opened
  cases ending with
  | ended | goesOn => cases closed.symm.trans opened
  | opens mark long taken =>
    cases opened
    exact cut_opens found

theorem exists_restExchange {line fuel column : Nat} {rest : Text} {s s₁ : LooseState} {marks more : List Mark}
    (made : lineTokens line fuel column rest s = (marks.map Prod.fst, s₁)) (enough : rest.length < fuel)
    (clean : ∀ m ∈ marks, m.1.kind ≠ .stray) (sound : Sound (marks ++ more)) (closed : s.literal = none)
    (next : s₁.Unnamed → s₁.literal.isSome → ∃ m ∈ more.head?, ¬EndsStatement m.1.kind m.1.text) :
    ∃ rest', RestExchange marks line column s s₁ rest rest' := by
  obtain ⟨ps, left, ending, rfl, reads⟩ := exists_reads made enough (by simpa using clean)
  rw [lineTokens_reads reads (reads.length_le.trans_lt enough)] at made
  obtain ⟨same, rfl⟩ := Prod.mk.inj made
  obtain ⟨es, rfl, rfl⟩ := exists_placed same.symm
  obtain ⟨inner, body, last⟩ := reads.last
  have closed : ({ s with depth := depthAfter s.depth (es.map Prod.fst) } : LooseState).literal = none := closed
  have unnamed := ending.after_unnamed closed last line (leftColumn column (es.map Prod.fst) left)
  have fits : Exchangeable ending es :=
    sound.exchangeable (by rintro ⟨mark, long, taken, rfl⟩; exact next unnamed rfl)
  have reads' := reads.exchange fits
  refine ⟨render (es.flatMap exchanged) left, ?_⟩
  exact {
    rows := fun edit mem => (line_of_placed mem).1
    ascending := pairwise_placed fun e mem => reads.text_ne_nil (List.mem_map_of_mem mem)
    edited := by
      rintro front rfl
      exact foldr_inLine line es left front
    texts := render_exchanged (fun e mem chosen => sound.solid mem chosen) left
    tokens := by
      intro line' fuel' column' enough'
      refine ⟨layout line' column' (es.flatMap exchanged), line', leftColumn column' (es.flatMap exchanged) left,
        ?_, ?_⟩
      · rw [lineTokens_reads reads' (reads'.length_le.trans_lt enough'), depthAfter_exchanged reads fits]
        exact congrArg (Prod.mk _) (ending.after_moved closed _ _ _ _)
      · rw [shapes, shapes_layout, tokens_placed]
    begins := by
      intro first
      by_cases none : ∀ e ∈ es, e.2 = none
      · rw [exchanged_of_none none]
        exact .inl rfl
      · push Not at none
        refine .inr (exists_returnKeyword left fits ?_ none)
        cases es with
        | nil => exact fun _ none => nomatch none
        | cons e es =>
          rintro _ ⟨⟩
          exact first _ rfl
    unnamed := unnamed
  }

end LexGen.Code
