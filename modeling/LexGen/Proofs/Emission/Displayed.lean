import LexGen.Emission.Module
import LexGen.Proofs.Code.Collections
import LexGen.Proofs.Code.NumberTokens
import LexGen.Proofs.Program.LiteralValues

/-!
# Displayed values

The text that shows a literal value is read as an expression that has this value, on one line and laid out on several.

* `Literal`: the values that have a literal, with brackets nested to a bounded depth.
* `Shown`: a text is read as something wherever there is room for its brackets and a value may end behind it.
* `shown_display`, `shown_laidOut`: literal values are shown by texts that are read as them.
-/

namespace LexGen.Emission

open Code Program

/-! ## Reading texts -/

section

variable {α β : Type}

def Reads (Y : β → α → Prop) (T : Code.Level → List Token → β → Prop) (a : α) (tokens : List Token) : Prop :=
  ∃ x, Y x a ∧ ∀ depth, tokens.length ≤ depth → T (Code.Level.ofDepth depth) tokens x

abbrev ReadsValue : Value → List Token → Prop := Reads Evaluates Code.Level.Takes

abbrev ReadsEntry : Value × Value → List Token → Prop := Reads EvaluatesEntry Code.Level.TakesEntry

/-- A text is cut into certain tokens wherever there is room for its brackets and a value may end behind it. -/
structure Shown (P : List Token → Prop) (room : Nat) (text : Text) : Prop where
  opens : ∃ c others, text = c :: others ∧ isVisible c = true
  clean : ∀ c ∈ text, c ∉ ['\r', '\x00']
  inLine : text.getLast? ≠ some '\n'
  cuts : ∀ brackets rest, brackets.length + room ≤ mostBrackets → Closed rest →
    Cuts P brackets (text ++ rest) brackets rest

theorem Shown.mono {P Q : List Token → Prop} {room : Nat} {text : Text} (h : Shown P room text)
    (le : ∀ tokens, P tokens → Q tokens) : Shown Q room text :=
  ⟨h.opens, h.clean, h.inLine, fun brackets rest fits closed => (h.cuts brackets rest fits closed).mono le⟩

theorem exists_depth {tokens : List Token} {t : Token} {others : List Token} (same : tokens = t :: others) {depth : Nat}
    (deep : tokens.length ≤ depth) : ∃ less, depth = less + 1 ∧ others.length ≤ less := by
  subst same
  exact ⟨depth - 1, by simp at deep; omega, by simp at deep; omega⟩

/-! ## Single tokens -/

theorem shown_token {P : List Token → Prop} {room : Nat} {kind : TokenKind} {text : Text}
    (opens : ∃ c others, text = c :: others ∧ isVisible c = true) (clean : ∀ c ∈ text, c ∉ ['\n', '\r', '\x00'])
    (cuts : ∀ brackets rest, Closed rest → Cuts (IsToken kind text) brackets (text ++ rest) brackets rest)
    (reads : ∀ t : Token, t.kind = kind → t.text = String.ofList text → P [t]) : Shown P room text where
  opens := opens
  clean c mem other := clean c mem (List.mem_cons_of_mem _ other)
  inLine last := clean '\n' (List.mem_of_getLast? last) List.mem_cons_self
  cuts brackets rest _ closed := (cuts brackets rest closed).mono fun tokens isToken => by
    obtain ⟨t, rfl, same, shown⟩ := isToken
    exact reads t same shown

theorem reads_token {v : Value} {x : Expr} {t : Token} (yields : Evaluates x v)
    (takes : ∀ e : Code.Level, e.around.Takes [t] x) : ReadsValue v [t] := by
  refine ⟨x, yields, fun depth deep => ?_⟩
  obtain ⟨less, rfl, -⟩ := exists_depth rfl deep
  exact takes (Code.Level.ofDepth less)

theorem shown_word (room : Nat) {word : String} {c : Constant} (known : (word, c) ∈ Code.Level.constantWords) :
    Shown (ReadsValue c.value) room word.toList := by
  have words : ∀ entry ∈ Code.Level.constantWords, ∃ first others, entry.1.toList = first :: others ∧
      first.isDigit = false ∧ ((first :: others).all fun d => isNameChar d && d.toNat < 128) = true ∧
      ∀ rest, literalMark? (first :: others ++ rest) = none := by
    intro entry mem
    simp only [Code.Level.constantWords, List.mem_cons, List.not_mem_nil, or_false] at mem
    rcases mem with rfl | rfl | rfl
    · exact ⟨'N', ['o', 'n', 'e'], rfl, rfl, rfl, fun _ => rfl⟩
    · exact ⟨'T', ['r', 'u', 'e'], rfl, rfl, rfl, fun _ => rfl⟩
    · exact ⟨'F', ['a', 'l', 's', 'e'], rfl, rfl, rfl, fun _ => rfl⟩
  obtain ⟨first, others, written, digit, all, unmarked⟩ := words _ known
  have letters (d : Char) (mem : d ∈ first :: others) : isNameChar d = true ∧ d.toNat < 128 := by
    simpa using List.all_eq_true.1 all d mem
  rw [show word.toList = first :: others from written]
  refine shown_token ⟨first, others, rfl, isVisible_of_isNameChar (letters first List.mem_cons_self).1⟩
    (fun d mem control => ?_) (fun brackets rest closed => cuts_name brackets all digit (unmarked rest) ?_)
    fun t name text => ?_
  · have plain : (['\n', '\r', '\x00'].all fun d => !isNameChar d) = true := rfl
    have other := List.all_eq_true.1 plain d control
    rw [(letters d mem).1] at other
    cases other
  · have plain := closed.head (p := fun d => !isNameChar d) rfl
    exact fun d head => by simpa using plain d head
  · refine reads_token (evaluates_constant c) fun e => Code.Level.takes_constant name ?_ known
    rw [text, ← written, String.ofList_toList]

def literalValue (isBytes : Bool) (text : Text) : Value :=
  if isBytes then .bytes (String.ofList text) else .str (String.ofList text)

theorem shown_literal (room : Nat) {isBytes : Bool} {text token : Text} (literal : LiteralToken isBytes text token) :
    Shown (ReadsValue (literalValue isBytes text)) room token := by
  obtain ⟨c, others, same, quote⟩ := literal.opens
  have visible : (['\'', '"', 'b'].all isVisible) = true := rfl
  refine shown_token ⟨c, others, same, List.all_eq_true.1 visible c quote⟩ literal.chars
    (fun brackets rest closed => cuts_literalToken brackets literal (fun same => ?_) fun same => ?_)
    fun t kind written => ?_
  · cases closed.head (p := fun d => d != '\'' && d != '"') rfl _ same
  · cases closed.head (p := fun d => d != '\'' && d != '"') rfl _ same
  · obtain ⟨formatted, marked, sort⟩ := literal.part
    have value := evaluates_constant (Code.Level.stringConstant (StringToken.ofText token) text)
    have stands : Constant.value (Code.Level.stringConstant (StringToken.ofText token) text) = literalValue isBytes text := by
      rw [Code.Level.stringConstant, literalValue, sort]
      cases isBytes <;> rfl
    rw [stands] at value
    refine reads_token value fun e => Code.Level.takes_literal kind ?_ formatted marked literal.value
    rw [written, String.toList_ofList]

theorem shown_number (room : Nat) {token : Text} {c : Constant} (number : NumberToken token c) :
    Shown (ReadsValue c.value) room token := by
  obtain ⟨first, others, same, digit⟩ := number.first
  have letter : isNameChar first = true := by simp [isNameChar, Char.isAlphanum, digit]
  refine shown_token ⟨first, others, same, isVisible_of_isNameChar letter⟩ number.chars number.cuts fun t kind written => ?_
  refine reads_token (evaluates_constant c) fun e => Code.Level.takes_number kind ?_
  rw [written, String.toList_ofList]
  exact number.value

theorem shown_negative {room : Nat} {token : Text} {c : Constant} (number : NumberToken token c) {v : Value}
    (value : Value.unary .minus c.value = .ok v) : Shown (ReadsValue v) room ('-' :: token) where
  opens := ⟨'-', token, rfl, rfl⟩
  clean d mem control := by
    rcases List.mem_cons.1 mem with rfl | mem
    · cases List.contains_iff_mem.2 control
    · exact number.chars d mem (List.mem_cons_of_mem _ control)
  inLine last := by
    obtain ⟨first, others, same, -⟩ := number.first
    rw [same, List.getLast?_cons_cons, ← same] at last
    exact number.chars '\n' (List.mem_of_getLast? last) List.mem_cons_self
  cuts brackets rest room closed := by
    obtain ⟨first, others, same, digit⟩ := number.first
    have sign : Cuts (IsToken .operator ['-']) brackets ('-' :: (token ++ rest)) brackets (token ++ rest) := by
      rw [same]
      exact cuts_minus brackets digit _
    refine (sign.cons (number.cuts brackets rest closed)).mono ?_
    rintro _ ⟨s, _, rfl, minus, t, rfl, kind, shown⟩
    refine ⟨.unary .minus (.constant c), evaluates_minus value, fun depth deep => ?_⟩
    obtain ⟨less, rfl, inside⟩ := exists_depth rfl deep
    obtain ⟨least, rfl, -⟩ := exists_depth (show [t] = t :: [] from rfl) inside
    refine Code.Level.takes_minus minus kind ?_
    rw [shown, String.toList_ofList]
    exact number.value

/-! ## Rows -/

/-- Texts with a comma and a gap before each. -/
inductive TailText (Item : Text → α → Prop) : Text → List α → Prop
  | nil : TailText Item [] []
  | cons {gap text others : Text} {a : α} {items : List α} (isGap : IsGap gap) (item : Item text a)
    (more : TailText Item others items) : TailText Item (',' :: (gap ++ (text ++ others))) (a :: items)

/-- Texts with a comma and a gap between them. -/
inductive RowText (Item : Text → α → Prop) : Text → List α → Prop
  | nil : RowText Item [] []
  | cons {text others : Text} {a : α} {items : List α} (item : Item text a) (more : TailText Item others items) :
    RowText Item (text ++ others) (a :: items)

theorem RowText.before {Item : Text → α → Prop} {gap text others : Text} {a b : α} {items : List α} (item : Item text a)
    (isGap : IsGap gap) (row : RowText Item others (b :: items)) :
    RowText Item (text ++ ',' :: (gap ++ others)) (a :: b :: items) := by
  cases row with
  | cons next more => exact .cons item (.cons isGap next more)

variable {Y : β → α → Prop} {T : Code.Level → List Token → β → Prop} {room : Nat} {text rest : Text} {items : List α}

abbrev ReadsTail (Y : β → α → Prop) (T : Code.Level → List Token → β → Prop) : List α → List Token → Prop :=
  Reads (List.Forall₂ Y) fun e => Code.Level.Tail (T e)

abbrev ReadsRow (Y : β → α → Prop) (T : Code.Level → List Token → β → Prop) : List α → List Token → Prop :=
  Reads (List.Forall₂ Y) fun e => Code.Level.Row (T e)

theorem readsTail_nil : ReadsTail Y T [] [] := ⟨[], .nil, fun _ _ => .nil⟩

theorem readsRow_nil : ReadsRow Y T [] [] := ⟨[], .nil, fun _ _ => .nil⟩

theorem readsTail_cons {a : α} {comma : Token} {tokens others : List Token} (mark : Code.Level.IsMark "," comma)
    (item : Reads Y T a tokens) (more : ReadsTail Y T items others) :
    ReadsTail Y T (a :: items) (comma :: (tokens ++ others)) := by
  obtain ⟨x, value, takes⟩ := item
  obtain ⟨xs, values, rest⟩ := more
  refine ⟨x :: xs, .cons value values, fun depth deep => .cons mark (takes depth ?_) (rest depth ?_)⟩
  all_goals
    simp only [List.length_cons, List.length_append] at deep
    omega

theorem readsRow_cons {a : α} {tokens others : List Token} (item : Reads Y T a tokens)
    (more : ReadsTail Y T items others) : ReadsRow Y T (a :: items) (tokens ++ others) := by
  obtain ⟨x, value, takes⟩ := item
  obtain ⟨xs, values, rest⟩ := more
  refine ⟨x :: xs, .cons value values, fun depth deep => .cons (takes depth ?_) (rest depth ?_)⟩
  all_goals
    simp only [List.length_append] at deep
    omega

abbrev ShownAs (Y : β → α → Prop) (T : Code.Level → List Token → β → Prop) (room : Nat) : Text → α → Prop :=
  fun text a => Shown (Reads Y T a) room text

theorem isGap_clean {gap : Text} (isGap : IsGap gap) : ∀ c ∈ gap, c ∉ ['\r', '\x00'] := by
  rcases isGap with rfl | ⟨count, rfl⟩
  · simp
  · refine List.forall_mem_cons.2 ⟨by simp, fun c mem => ?_⟩
    rw [List.eq_of_mem_replicate mem]
    simp

theorem TailText.clean (h : TailText (ShownAs Y T room) text items) : ∀ c ∈ text, c ∉ ['\r', '\x00'] := by
  induction h with
  | nil => exact fun _ mem => absurd mem List.not_mem_nil
  | cons isGap item _ ih =>
    refine List.forall_mem_cons.2 ⟨by simp, List.forall_mem_append.2 ⟨isGap_clean isGap, ?_⟩⟩
    exact List.forall_mem_append.2 ⟨item.clean, ih⟩

theorem RowText.clean (h : RowText (ShownAs Y T room) text items) : ∀ c ∈ text, c ∉ ['\r', '\x00'] := by
  cases h with
  | nil => exact fun _ mem => absurd mem List.not_mem_nil
  | cons item more => exact List.forall_mem_append.2 ⟨item.clean, more.clean⟩

theorem closed_cons {c : Char} (known : c ∈ closers) (rest : Text) : Closed (c :: rest) := ⟨c, rest, rfl, known⟩

theorem TailText.closed {Item : Text → α → Prop} (h : TailText Item text items) (closed : Closed rest) :
    Closed (text ++ rest) := by
  cases h with
  | nil => exact closed
  | cons => exact closed_cons (by simp [closers]) _

variable {brackets : List Char} (nonempty : brackets ≠ []) (fits : brackets.length + room ≤ mostBrackets)
  (closed : Closed rest)

include nonempty fits closed

theorem TailText.cuts (h : TailText (ShownAs Y T room) text items) :
    Cuts (ReadsTail Y T items) brackets (text ++ rest) brackets rest := by
  induction h with
  | nil => exact (cuts_nil brackets rest).mono fun tokens none => by rw [none]; exact readsTail_nil
  | @cons gap text others a items isGap item more ih =>
    obtain ⟨c, word, same, visible⟩ := item.opens
    have space := cuts_gap nonempty isGap visible (word ++ (others ++ rest))
    have value := item.cuts brackets (others ++ rest) fits (more.closed closed)
    have written : ',' :: (gap ++ (text ++ others)) ++ rest = ',' :: (gap ++ (text ++ (others ++ rest))) := by simp
    rw [written]
    rw [← List.cons_append, ← same] at space
    have values : Cuts (fun tokens => ∃ front back, tokens = front ++ back ∧ Reads Y T a front ∧ ReadsTail Y T items back)
        brackets (text ++ (others ++ rest)) brackets rest :=
      value.append ih fun front back one more => ⟨front, back, rfl, one, more⟩
    refine ((cuts_comma brackets _).cons (values.after space)).mono ?_
    rintro _ ⟨t, _, rfl, mark, front, back, rfl, one, more⟩
    exact readsTail_cons mark one more

theorem RowText.cuts (h : RowText (ShownAs Y T room) text items) :
    Cuts (ReadsRow Y T items) brackets (text ++ rest) brackets rest := by
  cases h with
  | nil => exact (cuts_nil brackets rest).mono fun tokens none => by rw [none]; exact readsRow_nil
  | cons item more =>
    rw [List.append_assoc]
    exact (item.cuts brackets _ fits (more.closed closed)).append (more.cuts nonempty fits closed)
      fun _ _ one others => readsRow_cons one others

end

/-! ## Brackets -/

section

variable {room : Nat} {text : Text}

def Bracketed (opening closing : Char) (P : List Token → Prop) (tokens : List Token) : Prop :=
  ∃ first inner last, tokens = first :: (inner ++ [last]) ∧ Code.Level.IsMark (String.ofList [opening]) first ∧
    Code.Level.IsMark (String.ofList [closing]) last ∧ P inner

theorem shown_bracketed {P : List Token → Prop} {opening closing : Char}
    (pair : (opening, closing) ∈ [('(', ')'), ('[', ']'), ('\x7b', '\x7d')]) (clean : ∀ c ∈ text, c ∉ ['\r', '\x00'])
    (cuts : ∀ brackets rest, brackets ≠ [] → brackets.length + room ≤ mostBrackets →
      Cuts P brackets (text ++ closing :: rest) brackets (closing :: rest)) :
    Shown (Bracketed opening closing P) (room + 1) (opening :: (text ++ [closing])) := by
  have facts : opening ∈ ['(', '[', '\x7b'] ∧ opening? closing = some opening ∧
      isVisible opening = true ∧ opening ∉ ['\r', '\x00'] ∧ closing ∉ ['\n', '\r', '\x00'] := by
    simp only [List.mem_cons, Prod.mk.injEq, List.not_mem_nil, or_false] at pair
    rcases pair with ⟨rfl, rfl⟩ | ⟨rfl, rfl⟩ | ⟨rfl, rfl⟩ <;> refine ⟨by simp, rfl, rfl, by simp, by simp⟩
  obtain ⟨opens, closes, visible, plain, control⟩ := facts
  refine ⟨⟨opening, _, rfl, visible⟩, ?_, ?_, fun brackets rest fits closed => ?_⟩
  · refine List.forall_mem_cons.2 ⟨plain, List.forall_mem_append.2 ⟨clean, List.forall_mem_singleton.2 ?_⟩⟩
    exact fun mem => control (List.mem_cons_of_mem _ mem)
  · rw [← List.cons_append, List.getLast?_concat]
    rintro ⟨⟩
    exact control List.mem_cons_self
  · rw [List.cons_append, List.append_assoc]
    have first := cuts_opening opens (show brackets.length < mostBrackets by omega) (text ++ ([closing] ++ rest))
    have inside := cuts (opening :: brackets) rest (by simp) (by simp; omega)
    refine (first.cons (inside.concat (cuts_closing closes rest))).mono ?_
    rintro _ ⟨t, _, rfl, mark, inner, last, rfl, ends, holds⟩
    exact ⟨t, inner, last, rfl, mark, ends, holds⟩

theorem shown_row {α β : Type} {Y : β → α → Prop} {T : Code.Level → List Token → β → Prop} {items : List α}
    {opening closing : Char} (pair : (opening, closing) ∈ [('(', ')'), ('[', ']'), ('\x7b', '\x7d')])
    (row : RowText (ShownAs Y T room) text items) :
    Shown (Bracketed opening closing (ReadsRow Y T items)) (room + 1) (opening :: (text ++ [closing])) := by
  have closer : closing ∈ closers := by
    simp only [List.mem_cons, Prod.mk.injEq, List.not_mem_nil, or_false] at pair
    rcases pair with ⟨-, rfl⟩ | ⟨-, rfl⟩ | ⟨-, rfl⟩ <;> simp [closers]
  exact shown_bracketed pair row.clean fun _ rest nonempty fits => row.cuts nonempty fits (closed_cons closer rest)

theorem reads_bracketed {α β : Type} {Y : β → α → Prop} {T : Code.Level → List Token → β → Prop} {a : α} {v : Value}
    {f : β → Expr} {first last : Token} {tokens : List Token} (inside : Reads Y T a tokens)
    (yields : ∀ x, Y x a → Evaluates (f x) v)
    (takes : ∀ e : Code.Level, ∀ x, Y x a → T e tokens x → e.around.Takes (first :: (tokens ++ [last])) (f x)) :
    ReadsValue v (first :: (tokens ++ [last])) := by
  obtain ⟨x, value, taken⟩ := inside
  refine ⟨f x, yields x value, fun depth deep => ?_⟩
  obtain ⟨less, rfl, inside⟩ := exists_depth rfl deep
  exact takes (Code.Level.ofDepth less) x value (taken less (by simp at inside; omega))

abbrev ShownValue : Nat → Text → Value → Prop := ShownAs Evaluates Code.Level.Takes

abbrev ShownEntry : Nat → Text → Value × Value → Prop := ShownAs EvaluatesEntry Code.Level.TakesEntry

variable {items : List Value}

theorem shown_list (row : RowText (ShownValue room) text items) :
    ShownValue (room + 1) ('[' :: (text ++ [']'])) (.list items) := by
  refine (shown_row (by simp) row).mono ?_
  rintro _ ⟨first, inner, last, rfl, opens, closes, inside⟩
  exact reads_bracketed inside (fun _ values => evaluates_list values) fun _ _ _ taken =>
    Code.Level.takes_list taken opens closes

theorem shown_set (row : RowText (ShownValue room) text items) (nonempty : items ≠ [])
    (hashable : Value.allHashable items = true) (distinct : Value.distinct items = items) :
    ShownValue (room + 1) ('\x7b' :: (text ++ ['\x7d'])) (.set items) := by
  refine (shown_row (by simp) row).mono ?_
  rintro _ ⟨first, inner, last, rfl, opens, closes, inside⟩
  refine reads_bracketed inside (fun _ values => evaluates_set values hashable distinct) fun _ xs values taken => ?_
  have some : xs ≠ [] := by
    rintro rfl
    cases values
    exact nonempty rfl
  exact Code.Level.takes_set taken some opens closes

theorem shown_dict {entries : List (Value × Value)} (row : RowText (ShownEntry room) text entries)
    (hashable : Value.allHashable (entries.map (·.1)) = true) (distinct : Value.dictOf entries = entries) :
    ShownValue (room + 1) ('\x7b' :: (text ++ ['\x7d'])) (.dict entries) := by
  refine (shown_row (by simp) row).mono ?_
  rintro _ ⟨first, inner, last, rfl, opens, closes, inside⟩
  exact reads_bracketed inside (fun _ values => evaluates_dict values hashable distinct) fun _ _ _ taken =>
    Code.Level.takes_dict taken opens closes

/-! ## Tuples -/

theorem shown_unit : ShownValue (room + 1) ['(', ')'] (.tuple []) := by
  have row : RowText (ShownValue room) [] [] := .nil
  refine (shown_row (by simp) row).mono ?_
  rintro _ ⟨first, inner, last, rfl, opens, closes, xs, values, taken⟩
  cases values
  cases taken inner.length (Nat.le_refl _)
  refine ⟨.tuple [], evaluates_tuple .nil, fun depth deep => ?_⟩
  obtain ⟨less, rfl, -⟩ := exists_depth rfl deep
  exact Code.Level.takes_unit opens closes

theorem shown_tuple (row : RowText (ShownValue room) text items) (two : 2 ≤ items.length) :
    ShownValue (room + 1) ('(' :: (text ++ [')'])) (.tuple items) := by
  refine (shown_row (by simp) row).mono ?_
  rintro _ ⟨first, inner, last, rfl, opens, closes, inside⟩
  refine reads_bracketed inside (fun _ values => evaluates_tuple values) fun _ xs values taken => ?_
  exact Code.Level.takes_tuple taken (by rwa [values.length_eq]) opens fun rest => Code.Level.endsTuple_closing closes rest

theorem readsTuple_comma {first comma last : Token} {inner : List Token} (nonempty : items ≠ [])
    (opens : Code.Level.IsMark "(" first) (mark : Code.Level.IsMark "," comma) (closes : Code.Level.IsMark ")" last)
    (inside : ReadsRow Evaluates Code.Level.Takes items inner) :
    ReadsValue (.tuple items) (first :: (inner ++ [comma] ++ [last])) := by
  obtain ⟨xs, values, taken⟩ := inside
  refine ⟨.tuple xs, evaluates_tuple values, fun depth deep => ?_⟩
  obtain ⟨less, rfl, inside⟩ := exists_depth rfl deep
  have row := taken less (by simp at inside; omega)
  rw [List.append_assoc]
  by_cases two : 2 ≤ xs.length
  · exact Code.Level.takes_tuple row two opens fun rest => Code.Level.endsTuple_comma less mark closes rest
  · obtain _ | @⟨tokens, others, x, xs, item, more⟩ := row
    · cases values
      exact absurd rfl nonempty
    · cases more with
      | nil =>
        rw [List.append_nil]
        exact Code.Level.takes_single item opens mark closes
      | cons => exact absurd two (by simp)

def IsBlank (gap : Text) : Prop := gap = [] ∨ IsGap gap

theorem isBlank_clean {gap : Text} (blank : IsBlank gap) : ∀ c ∈ gap, c ∉ ['\r', '\x00'] := by
  rcases blank with rfl | isGap
  · exact fun _ mem => absurd mem List.not_mem_nil
  · exact isGap_clean isGap

theorem cuts_blank {brackets : List Char} (nonempty : brackets ≠ []) {gap : Text} (blank : IsBlank gap) {c : Char}
    (visible : isVisible c = true) (rest : Text) : Cuts (· = []) brackets (gap ++ c :: rest) brackets (c :: rest) := by
  rcases blank with rfl | isGap
  · exact cuts_nil brackets _
  · exact cuts_gap nonempty isGap visible rest

theorem shown_tupleComma {gap gap' : Text} (row : RowText (ShownValue room) text items) (nonempty : items ≠ [])
    (before : IsBlank gap) (after : IsBlank gap') :
    ShownValue (room + 1) ('(' :: (gap ++ (text ++ ',' :: gap') ++ [')'])) (.tuple items) := by
  have clean : ∀ c ∈ gap ++ (text ++ ',' :: gap'), c ∉ ['\r', '\x00'] :=
    List.forall_mem_append.2 ⟨isBlank_clean before, List.forall_mem_append.2 ⟨row.clean,
      List.forall_mem_cons.2 ⟨by simp, isBlank_clean after⟩⟩⟩
  obtain ⟨c, word, same, visible⟩ : ∃ c word, text = c :: word ∧ isVisible c = true := by
    cases row with
    | nil => exact absurd rfl nonempty
    | cons item =>
      obtain ⟨c, word, rfl, visible⟩ := item.opens
      exact ⟨c, _, rfl, visible⟩
  have inside (brackets rest) (enclosed : brackets ≠ []) (fits : brackets.length + room ≤ mostBrackets) :
      Cuts (fun tokens => ∃ inner t, tokens = inner ++ [t] ∧ Code.Level.IsMark "," t ∧
        ReadsRow Evaluates Code.Level.Takes items inner) brackets (gap ++ (text ++ ',' :: gap') ++ ')' :: rest) brackets
          (')' :: rest) := by
    have written : gap ++ (text ++ ',' :: gap') ++ ')' :: rest = gap ++ (text ++ ',' :: (gap' ++ ')' :: rest)) := by simp
    have space := cuts_blank enclosed before visible (word ++ ',' :: (gap' ++ ')' :: rest))
    rw [← List.cons_append, ← same] at space
    have values := row.cuts enclosed fits (closed_cons (c := ',') (by simp [closers]) (gap' ++ ')' :: rest))
    have comma := (values.concat (cuts_comma brackets _)).after space
    rw [written]
    refine comma.append (cuts_blank enclosed after (c := ')') rfl rest) ?_
    rintro tokens _ reads rfl
    rwa [List.append_nil]
  refine (shown_bracketed (by simp) clean inside).mono ?_
  rintro _ ⟨first, _, last, rfl, opens, closes, inner, comma, rfl, mark, reads⟩
  exact readsTuple_comma nonempty opens mark closes reads

/-! ## Calls -/

theorem shown_arguments (row : RowText (ShownValue room) text items) :
    Shown (Bracketed '(' ')' (ReadsRow Evaluates Code.Level.Takes items)) (room + 1) ('(' :: (text ++ [')'])) :=
  shown_row (by simp) row

theorem shown_emptySet : ShownValue (room + 1) ['s', 'e', 't', '(', ')'] (.set []) where
  opens := ⟨'s', _, rfl, rfl⟩
  clean := by simp
  inLine := by simp
  cuts brackets rest fits closed := by
    have name : Cuts (IsToken .name ['s', 'e', 't']) brackets (['s', 'e', 't'] ++ '(' :: ')' :: rest) brackets
        ('(' :: ')' :: rest) :=
      cuts_name brackets rfl rfl rfl fun d head => by obtain rfl := Option.some.inj head; rfl
    have arguments := (shown_arguments (.nil : RowText (ShownValue room) [] [])).cuts brackets rest fits closed
    refine (name.cons arguments).mono ?_
    rintro _ ⟨t, _, rfl, ⟨kind, written⟩, first, inner, last, rfl, opening, closing, xs, values, taken⟩
    cases values
    cases taken inner.length (Nat.le_refl _)
    refine ⟨_, evaluates_emptySet t.place, fun depth deep => ?_⟩
    obtain ⟨less, rfl, -⟩ := exists_depth rfl deep
    exact Code.Level.takes_emptySet ⟨kind, written, rfl, rfl⟩ opening closing

theorem shown_ignoreCase : ShownValue room ['r', 'e', '.', 'I'] (.int PatternFlags.ignoreCase) where
  opens := ⟨'r', _, rfl, rfl⟩
  clean := by simp
  inLine := by simp
  cuts brackets rest _ closed := by
    have plain := closed.head (p := fun d => !isNameChar d) rfl
    have name : Cuts (IsToken .name ['I']) brackets (['I'] ++ rest) brackets rest :=
      cuts_name brackets rfl rfl (literalMark?_plain (c := 'I') (by simp) rest) fun d head => by simpa using plain d head
    have module : Cuts (IsToken .name ['r', 'e']) brackets (['r', 'e'] ++ '.' :: (['I'] ++ rest)) brackets
        ('.' :: (['I'] ++ rest)) :=
      cuts_name brackets rfl rfl rfl fun d head => by obtain rfl := Option.some.inj head; rfl
    refine (module.cons ((cuts_point brackets (c := 'I') rfl (by decide) rest).cons name)).mono ?_
    rintro _ ⟨t, _, rfl, ⟨kind, written⟩, dot, _, rfl, mark, last, rfl, kind', written'⟩
    refine ⟨_, evaluates_ignoreCase t.place, fun depth deep => ?_⟩
    obtain ⟨less, rfl, -⟩ := exists_depth rfl deep
    exact Code.Level.takes_attribute ⟨kind, written, rfl, rfl⟩ mark ⟨kind', written', rfl, rfl⟩

theorem shown_compile (row : RowText (ShownValue room) text items) {v : Value}
    (compiled : Scanner.outcome (compilePattern items []) tableState = (.ok v, tableState)) :
    ShownValue (room + 1) ("re.compile".toList ++ '(' :: (text ++ [')'])) v where
  opens := ⟨'r', _, rfl, rfl⟩
  clean := List.forall_mem_append.2 ⟨by simp, (shown_arguments row).clean⟩
  inLine := by
    rw [List.getLast?_append_of_ne_nil _ (by simp)]
    exact (shown_arguments row).inLine
  cuts brackets rest fits closed := by
    have arguments := (shown_arguments row).cuts brackets rest fits closed
    have function : Cuts (IsToken .name ['c', 'o', 'm', 'p', 'i', 'l', 'e']) brackets
        (['c', 'o', 'm', 'p', 'i', 'l', 'e'] ++ ('(' :: (text ++ [')']) ++ rest)) brackets ('(' :: (text ++ [')']) ++ rest) :=
      cuts_name brackets rfl rfl rfl fun d head => by obtain rfl := Option.some.inj head; rfl
    have point := cuts_point brackets (c := 'c') rfl (by decide)
      (['o', 'm', 'p', 'i', 'l', 'e'] ++ ('(' :: (text ++ [')']) ++ rest))
    have module : Cuts (IsToken .name ['r', 'e']) brackets
        (['r', 'e'] ++ '.' :: (['c', 'o', 'm', 'p', 'i', 'l', 'e'] ++ ('(' :: (text ++ [')']) ++ rest))) brackets
        ('.' :: (['c', 'o', 'm', 'p', 'i', 'l', 'e'] ++ ('(' :: (text ++ [')']) ++ rest))) :=
      cuts_name brackets rfl rfl rfl fun d head => by obtain rfl := Option.some.inj head; rfl
    refine (module.cons (point.cons (function.cons arguments))).mono ?_
    rintro _ ⟨t, _, rfl, ⟨kind, written⟩, dot, _, rfl, mark, name, _, rfl, ⟨kind', written'⟩, first, inner, last, rfl,
      opening, closing, xs, values, taken⟩
    refine ⟨_, evaluates_compile t.place values compiled, fun depth deep => ?_⟩
    obtain ⟨less, rfl, inside⟩ := exists_depth rfl deep
    exact Code.Level.takes_call ⟨kind, written, rfl, rfl⟩ mark ⟨kind', written', rfl, rfl⟩
      (taken less (by simp at inside; omega)) opening closing

end

end LexGen.Emission
