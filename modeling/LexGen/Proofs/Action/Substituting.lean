import LexGen.Action.TokenNames
import LexGen.Proofs.Code.ExchangedCode
import LexGen.Proofs.Failure
import LexGen.Proofs.Value.Lookup

/-!
# Putting in mapped tokens

The literal of a returned name makes place for the literal of what the name is mapped to. All other tokens of the action
stay as they are, wherever they stand. The literal may follow the word `return` immediately, and then a number in its
place becomes a part of that word.

* `returnedMarks`: the tokens of an action with what is put in for them.
* `Apart`: no number is put in right behind the word.
* `substitutes_returned`: the tokens of the action after the substitution.
-/

namespace LexGen.Action

open Code

/-! ## What is put in -/

def numberPut : Int → Put
  | .ofNat n => ⟨_, _, .number n⟩
  | .negSucc n => ⟨_, _, .negative (n + 1)⟩

def literalPut (text : Text) : Put := ⟨_, _, .quoted text⟩

/-- What is put in for a name: the literal of what it is mapped to, or else of its own. -/
def tokenPut (entries : List (Value × Value)) (name : Text) : Put :=
  match Value.get? entries (String.ofList name) with
  | some (.int i) => numberPut i
  | some (.str s) => literalPut s.toList
  | _ => literalPut name

def IsToken (value : Value) : Prop := value.holdsLong = false ∧ ((∃ i, value = .int i) ∨ ∃ s, value = .str s)

theorem numberPut_text (i : Int) : (toString i).toList = (numberPut i).text := by
  cases i with
  | ofNat n => simp [numberPut, Text.decimal, Int.toString_eq_repr, Int.repr]
  | negSucc n => simp [numberPut, Text.decimal, Int.toString_eq_repr, Int.repr]

theorem tokenText_eq {entries : List (Value × Value)} (values : ∀ entry ∈ entries, IsToken entry.2) (name : Text) :
    tokenText (.dict entries) name = .ok (tokenPut entries name).text := by
  rw [tokenText, tokenOf?, tokenPut]
  cases found : Value.get? entries (String.ofList name) with
  | none => rfl
  | some value =>
    obtain ⟨short, isNumber⟩ := values _ (Value.mem_of_get? found)
    change (do return (← (liftM value.shown : Except Error String)).toList) = _
    rw [Value.shown_eq short]
    rcases isNumber with ⟨i, rfl⟩ | ⟨s, rfl⟩
    · exact congrArg Except.ok (numberPut_text i)
    · exact congrArg Except.ok String.toList_ofList

/-! ## Where it is put in -/

def isReturn (t : LooseToken) : Bool := t.kind = .name && t.text = "return".toList

/-- Tokens with what is put in for them: for the literal of a name between the word `return` and the end of the
statement, and for nothing else. -/
def returnedMarks (entries : List (Value × Value)) : (returns : Bool) → List LooseToken → List Mark
  | _, [] => []
  | returns, t :: tokens =>
    let put? :=
      if returns && t.kind = .literal && tokens.head?.any endsStatement then (tokenName? t.text).map (tokenPut entries)
      else none
    (t, put?) :: returnedMarks entries (isReturn t) tokens

def IsNumbered (entries : List (Value × Value)) (name : Text) : Prop :=
  ∃ n : Nat, Value.get? entries (String.ofList name) = some (.int n)

instance (entries : List (Value × Value)) (name : Text) : Decidable (IsNumbered entries name) :=
  decidable_of_iff (((Value.get? entries (String.ofList name)).bind fun
    | .int i => some i
    | _ => none).any (0 ≤ ·)) <| by
    unfold IsNumbered
    cases Value.get? entries (String.ofList name) with
    | none => simp
    | some value =>
      cases value with
      | int i => simpa using ⟨Int.eq_ofNat_of_zero_le, fun ⟨_, same⟩ => same ▸ Int.natCast_nonneg _⟩
      | _ => exact iff_of_false Bool.false_ne_true (by rintro ⟨_, ⟨⟩⟩)

/-- No such number is put in for a literal right behind the word `return`. -/
def Apart (entries : List (Value × Value)) (keyword literal : LooseToken) : Prop :=
  isReturn keyword → keyword.lastLine = literal.line → keyword.lastColumn = literal.column →
    ∀ name ∈ tokenName? literal.text, ¬IsNumbered entries name

instance (entries : List (Value × Value)) (keyword literal : LooseToken) :
    Decidable (Apart entries keyword literal) := by
  unfold Apart
  infer_instance

theorem returnedMarks_tokens (entries : List (Value × Value)) (returns : Bool) (tokens : List LooseToken) :
    (returnedMarks entries returns tokens).map Prod.fst = tokens := by
  induction tokens generalizing returns with
  | nil => rfl
  | cons t tokens ih => rw [returnedMarks, List.map_cons, ih]

theorem endsStatement_iff (t : LooseToken) : endsStatement t = true ↔ EndsStatement t.kind t.text := by
  obtain ⟨kind, text, _, _, _, _⟩ := t
  cases kind <;> simp [endsStatement, EndsStatement]

theorem isName_of_tokenName? {text name : Text} (named : tokenName? text = some name) : IsName text := by
  unfold tokenName? at named
  split at named
  · rename_i mark rest
    dsimp only at named
    split at named
    · rename_i plain
      simp only [Bool.and_eq_true, Bool.or_eq_true, decide_eq_true_eq, Bool.not_eq_true', List.isEmpty_eq_false_iff,
        List.all_eq_true, bne_iff_ne] at plain
      obtain ⟨⟨⟨quotes, last⟩, some⟩, inner⟩ := plain
      obtain ⟨start, rfl⟩ := List.getLast?_eq_some_iff.1 last
      rw [List.dropLast_concat] at some inner
      refine ⟨mark, start, rfl, quotes, some, fun c mem => ?_⟩
      have plain := inner c mem
      simp [plain]
    · cases named
  · cases named

theorem literalPut_begins (text : Text) : ∀ c ∈ (literalPut text).text.head?, Unicode.isWord c = false := by
  rintro c ⟨⟩
  rcases quoteMark_cases text with mark | mark <;> rw [mark] <;> decide

theorem tokenPut_begins {entries : List (Value × Value)} {name : Text} (other : ¬IsNumbered entries name) :
    ∀ c ∈ (tokenPut entries name).text.head?, Unicode.isWord c = false := by
  unfold tokenPut
  split
  · rename_i i found
    cases i with
    | ofNat n => exact absurd ⟨n, found⟩ other
    | negSucc n =>
      rintro c ⟨⟩
      decide
  · exact literalPut_begins _
  · exact literalPut_begins _

theorem sound_returnedMarks {entries : List (Value × Value)} {tokens : List LooseToken}
    (apart : tokens.IsChain (Apart entries)) (returns : Bool) : Sound (returnedMarks entries returns tokens) := by
  induction tokens generalizing returns with
  | nil => trivial
  | cons t tokens ih =>
    cases tokens with
    | nil =>
      refine ⟨fun chosen => ?_, by rintro _ ⟨⟩, trivial⟩
      rw [List.head?_nil, Option.any_none, Bool.and_false] at chosen
      cases chosen
    | cons t' tokens =>
      obtain ⟨first, apart⟩ := List.isChain_cons_cons.1 apart
      refine ⟨fun chosen => ?_, ?_, ih apart _⟩
      · split at chosen
        · rename_i isLiteral
          simp only [Bool.and_eq_true, decide_eq_true_eq] at isLiteral
          obtain ⟨name, named⟩ := Option.isSome_iff_exists.1 (Option.isSome_map ▸ chosen)
          refine ⟨isLiteral.1.2, isName_of_tokenName? named, ?_⟩
          rintro _ ⟨⟩
          exact (endsStatement_iff t').1 isLiteral.2
        · cases chosen
      · rintro _ ⟨⟩ put chosen
        dsimp only at chosen
        split at chosen
        · rename_i isLiteral
          simp only [Bool.and_eq_true, decide_eq_true_eq] at isLiteral
          obtain ⟨name, named, rfl⟩ := Option.map_eq_some_iff.1 chosen
          have keyword := isLiteral.1.1
          have isWord : t.kind = .name ∧ t.text = returnKeyword := by
            rw [isReturn, Bool.and_eq_true, decide_eq_true_eq, decide_eq_true_eq] at keyword
            exact keyword
          exact ⟨isWord.1, isWord.2, fun line column => tokenPut_begins (first keyword line column name named)⟩
        · cases chosen

def tokenEdit (entries : List (Value × Value)) : LooseToken × Text → Text.Edit
  | (literal, name) => ⟨literal.line - 1, literal.column, literal.lastColumn, (tokenPut entries name).text⟩

theorem edits_behind (entries : List (Value × Value)) (keyword : LooseToken) (tokens : List LooseToken) :
    edits (returnedMarks entries (isReturn keyword) tokens) =
      (returnedNames (keyword :: tokens)).map (tokenEdit entries) := by
  induction tokens generalizing keyword with
  | nil => rfl
  | cons t tokens ih =>
    cases tokens with
    | nil => simp [returnedMarks, returnedNames, edits]
    | cons after tokens =>
      have rest := ih t
      have same : (isReturn keyword && t.kind = .literal && (after :: tokens).head?.any endsStatement) =
        (keyword.kind = .name && keyword.text = "return".toList && t.kind = .literal && endsStatement after) := rfl
      rw [returnedNames, returnedMarks, same]
      split
      · cases tokenName? t.text with
        | none => exact rest
        | some name => exact congrArg (List.cons _) rest
      · exact rest

theorem edits_returnedMarks (entries : List (Value × Value)) (tokens : List LooseToken) :
    edits (returnedMarks entries false tokens) = (returnedNames tokens).map (tokenEdit entries) := by
  cases tokens with
  | nil => rfl
  | cons t tokens => exact edits_behind entries t tokens

theorem mapM_tokenEdit {entries : List (Value × Value)} (values : ∀ entry ∈ entries, IsToken entry.2)
    (names : List (LooseToken × Text)) :
    (names.mapM fun (literal, name) => do
      return ({ line := literal.line - 1, start := literal.column, stop := literal.lastColumn,
                text := ← tokenText (.dict entries) name } : Text.Edit)) = .ok (names.map (tokenEdit entries)) := by
  induction names with
  | nil => rfl
  | cons found names ih =>
    obtain ⟨literal, name⟩ := found
    rw [List.mapM_cons, ih]
    dsimp only
    rw [tokenText_eq values]
    rfl

theorem substituteTokens_eq {body : Text} {entries : List (Value × Value)}
    (values : ∀ entry ∈ entries, IsToken entry.2) (readable : (looseTokens body).2 = none) :
    substituteTokens body (.dict entries) =
      .ok (Text.Edit.applyAll (Text.feedLines body) (edits (returnedMarks entries false (looseTokens body).1))) := by
  unfold substituteTokens
  generalize looseTokens body = result at readable
  obtain ⟨found, failure⟩ := result
  obtain rfl := readable
  rw [edits_returnedMarks]
  simp only [mapM_tokenEdit values]
  rfl

/-- The tokens of an action after the substitution are those of the action, but for the literals of returned names: in
their places are the tokens of what the names are mapped to. -/
theorem substitutes_returned {body : Text} {entries : List (Value × Value)}
    (values : ∀ entry ∈ entries, IsToken entry.2) (readable : (looseTokens body).2 = none)
    (clean : ∀ t ∈ (looseTokens body).1, t.kind ≠ .stray) (apart : (looseTokens body).1.IsChain (Apart entries)) :
    ∃ result tokens, substituteTokens body (.dict entries) = .ok result ∧ looseTokens result = (tokens, none) ∧
      shapes tokens = (returnedMarks entries false (looseTokens body).1).flatMap Mark.tokens := by
  have made : looseTokens body = ((returnedMarks entries false (looseTokens body).1).map Prod.fst, none) := by
    rw [returnedMarks_tokens, ← readable]
  have clean' : ∀ m ∈ returnedMarks entries false (looseTokens body).1, m.1.kind ≠ .stray := by
    intro m mem
    refine clean m.1 ?_
    rw [← returnedMarks_tokens entries false (looseTokens body).1]
    exact List.mem_map_of_mem mem
  obtain ⟨tokens, cut, same⟩ := looseTokens_exchange made clean' (sound_returnedMarks apart false)
  exact ⟨_, tokens, substituteTokens_eq values readable, cut, same⟩

theorem substitutes_returned_touching :
    ∃ result tokens, substituteTokens "if x: return'B'; return 'A'# 'A'".toList
        (.dict [(.str "A", .int 5), (.str "B", .str "b")]) = .ok result ∧ looseTokens result = (tokens, none) ∧
      shapes tokens = [(.name, "if".toList), (.name, "x".toList), (.operator, ":".toList), (.name, "return".toList),
        (.literal, "'b'".toList), (.operator, ";".toList), (.name, "return".toList), (.number, "5".toList),
        (.comment, "# 'A'".toList), (.lineEnd, []), (.codeEnd, [])] := by
  have values : ∀ entry ∈ [(Value.str "A", Value.int 5), (Value.str "B", Value.str "b")], IsToken entry.2 := by
    rintro entry (_ | ⟨_, _ | ⟨_, ⟨⟩⟩⟩)
    · exact ⟨by decide, .inl ⟨5, rfl⟩⟩
    · exact ⟨rfl, .inr ⟨"b", rfl⟩⟩
  have readable : (looseTokens "if x: return'B'; return 'A'# 'A'".toList).2 = none := by decide +kernel
  obtain ⟨result, tokens, put, cut, same⟩ :=
    substitutes_returned values readable (by decide +kernel) (by decide +kernel)
  exact ⟨result, tokens, put, cut, same.trans (by decide +kernel)⟩

/-- A number right behind the word `return` becomes a part of it. -/
theorem number_joins_return :
    substituteTokens "return'A'".toList (.dict [(.str "A", .int 5)]) = .ok "return5".toList ∧
      shapes (looseTokens "return5".toList).1 = [(.name, "return5".toList), (.lineEnd, []), (.codeEnd, [])] ∧
      (returnedMarks [(.str "A", .int 5)] false (looseTokens "return'A'".toList).1).flatMap Mark.tokens =
        [(.name, "return".toList), (.number, "5".toList), (.lineEnd, []), (.codeEnd, [])] := by
  refine ⟨?_, by decide +kernel, by decide +kernel⟩
  have values : ∀ entry ∈ [(Value.str "A", Value.int 5)], IsToken entry.2 := by
    rintro entry (_ | ⟨_, ⟨⟩⟩)
    exact ⟨by decide, .inl ⟨5, rfl⟩⟩
  have made : edits (returnedMarks [(.str "A", .int 5)] false (looseTokens "return'A'".toList).1) =
      [⟨0, 6, 9, ['5']⟩] := by
    decide +kernel
  rw [substituteTokens_eq values (by decide +kernel), made, Text.Edit.applyAll_ascending (List.pairwise_singleton _ _)]
  exact congrArg Except.ok (by decide +kernel)

end LexGen.Action
