import LexGen.Proofs.Code.Lookahead
import LexGen.Proofs.Json.Numbers
import LexGen.Proofs.Text.Exchanges
import LexGen.Text.Quoted

/-!
# Texts that are put in

Whole numbers and quoted texts are cut into their own tokens wherever something follows that ends a token, be it space,
a comment or the end of a statement.

* `cut_decimal`, `cut_quoted`: the two kinds of texts.
* `Stands`: the texts that are put in, with the tokens that they are.
* `Stands.solid`: they stand within a line and begin with no space.
* `reads_pieces`: in a line they are cut into those tokens.
-/

namespace LexGen.Code

/-! ## What ends a token -/

def partingChars : List Char := [' ', '\t', '\x0c', ';', '#', '\n', '\r', '\\']

def Parted (text : Text) : Prop := ∀ c ∈ text.head?, c ∈ partingChars

theorem Parted.other {text : Text} (parted : Parted text) {d : Char}
    (other : d ∉ partingChars) : text.head? ≠ some d :=
  fun same => other (parted d same)

theorem Parted.forall {text : Text} (parted : Parted text) {p : Char → Prop} (all : partingChars.Forall p) :
    ∀ c ∈ text.head?, p c :=
  fun c head => List.forall_iff_forall_mem.1 all c (parted c head)

/-! ## Whole numbers -/

theorem more_stops {p : Char → Bool} {rest : Text} (low : p '_' = false) (parted : Parted rest)
    (no : ∀ c ∈ rest.head?, p c = false) {digits : Text} (all : ∀ c ∈ digits, p c = true) :
    digitRun.more p (digits ++ rest) = digits := by
  induction digits with
  | nil =>
    cases rest with
    | nil => rfl
    | cons c rest =>
      have plain : c ≠ '_' := by
        rintro rfl
        exact parted.other (by decide) rfl
      rw [List.nil_append, more_cons plain, if_neg (by simp [no c rfl])]
  | cons c digits ih =>
    have digit := all c List.mem_cons_self
    have plain : c ≠ '_' := by
      rintro rfl
      rw [low] at digit
      cases digit
    rw [List.cons_append, more_cons plain, if_pos digit, ih fun d mem => all d (List.mem_cons_of_mem c mem)]

theorem digitRun_stops {p : Char → Bool} {rest : Text} (low : p '_' = false) (parted : Parted rest)
    (no : ∀ c ∈ rest.head?, p c = false) {digits : Text} (all : ∀ c ∈ digits, p c = true) :
    digitRun p (digits ++ rest) = digits := by
  cases digits with
  | nil =>
    cases rest with
    | nil => rfl
    | cons c rest => rw [List.nil_append, digitRun, if_neg (by simp [no c rfl])]
  | cons c digits =>
    rw [List.cons_append, digitRun, if_pos (all c List.mem_cons_self),
      more_stops low parted no fun d mem => all d (List.mem_cons_of_mem c mem)]

theorem exponentRun_plain {c : Char} (small : c ≠ 'e') (large : c ≠ 'E') (rest : Text) :
    exponentRun (c :: rest) = [] := by
  cases rest <;> simp [exponentRun, small, large]

theorem basedRun_plain {letter c : Char} (p : Char → Bool) (nonzero : c ≠ '0') (rest : Text) :
    basedRun letter p (c :: rest) = [] := by
  cases rest <;> simp [basedRun, nonzero]

theorem basedRun_zero {letter : Char} (p : Char → Bool) {rest : Text} (parted : Parted rest)
    (other : letter ∈ ['x', 'b', 'o']) : basedRun letter p ('0' :: rest) = [] := by
  cases rest with
  | nil => rfl
  | cons c rest =>
    have plain : ∀ d ∈ (c :: rest).head?, d.toLower ∉ ['x', 'b', 'o'] := parted.forall (by decide)
    have low : c.toLower ≠ letter := fun same => plain c rfl (same ▸ other)
    simp [basedRun, low]

theorem exists_decimal (n : Nat) : ∃ c digits, Text.decimal n = c :: digits ∧
    (∀ d ∈ c :: digits, d.isDigit = true) ∧ (c = '0' → digits = []) := by
  have all : ∀ d ∈ Text.decimal n, d.isDigit = true := by
    intro d mem
    rw [Text.decimal, Nat.toString_eq_repr, Nat.toList_repr] at mem
    exact Nat.isDigit_of_mem_toDigits (by decide) (by decide) mem
  rcases Nat.eq_zero_or_pos n with rfl | positive
  · exact ⟨'0', [], rfl, all, fun _ => rfl⟩
  · have nonzero := Json.head_decimal_ne_zero positive
    cases written : Text.decimal n with
    | nil =>
      rw [Text.decimal, Nat.toString_eq_repr, Nat.toList_repr] at written
      exact (Nat.toDigits_ne_nil written).elim
    | cons c digits =>
      rw [written] at nonzero all
      exact ⟨c, digits, rfl, all, fun zero => absurd (congrArg some zero) nonzero⟩

theorem integerRun_decimal {c : Char} {digits rest : Text} (parted : Parted rest)
    (all : ∀ d ∈ c :: digits, d.isDigit = true) (single : c = '0' → digits = []) :
    integerRun (c :: digits ++ rest) = c :: digits := by
  by_cases zero : c = '0'
  · obtain rfl := zero
    obtain rfl := single rfl
    have alone : digitRun (· == '0') (['0'] ++ rest) = ['0'] :=
      digitRun_stops rfl parted (parted.forall (by decide)) (List.forall_mem_singleton.2 rfl)
    rw [List.cons_append, List.nil_append] at alone ⊢
    rw [integerRun_eq, basedRun_zero _ parted (by decide), basedRun_zero _ parted (by decide),
      basedRun_zero _ parted (by decide), alone]
    rfl
  · have whole : digitRun Char.isDigit (c :: digits ++ rest) = c :: digits :=
      digitRun_stops rfl parted (parted.forall (by decide)) all
    rw [List.cons_append] at whole ⊢
    rw [integerRun_eq, basedRun_plain _ zero, basedRun_plain _ zero, basedRun_plain _ zero, whole]
    simp [zero]

theorem numberRun_decimal (n : Nat) {rest : Text} (parted : Parted rest) :
    numberRun (Text.decimal n ++ rest) = Text.decimal n := by
  obtain ⟨c, digits, written, all, single⟩ := exists_decimal n
  rw [written]
  have whole : digitRun Char.isDigit (c :: digits ++ rest) = c :: digits :=
    digitRun_stops rfl parted (parted.forall (by decide)) all
  have unmarked : imaginary? (c :: digits ++ rest) (c :: digits) = none := by
    rw [imaginary?, List.drop_left]
    cases rest with
    | nil => rfl
    | cons c rest =>
      have plain : ∀ d ∈ (c :: rest).head?, d ≠ 'j' ∧ d ≠ 'J' := parted.forall (by decide)
      simp [plain c rfl]
  have float : floatRun (c :: digits ++ rest) = [] := by
    rw [floatRun_eq, whole, List.drop_left, floatBehind_plain]
    · cases rest with
      | nil => rfl
      | cons c rest =>
        have plain : ∀ d ∈ (c :: rest).head?, d ≠ 'e' ∧ d ≠ 'E' := parted.forall (by decide)
        rw [exponentRun_plain (plain c rfl).1 (plain c rfl).2]
    · rintro d head rfl
      exact parted.other (by decide) head
  rw [numberRun_eq, whole, unmarked, float, integerRun_decimal parted all single]

theorem literalMark?_plain {c : Char} (plain : c ∉ ['\'', '"', 'b', 'u', 'r', 'f', 'B', 'U', 'R', 'F']) (rest : Text) :
    literalMark? (c :: rest) = none := by
  cases marked : literalMark? (c :: rest) with
  | none => rfl
  | some n =>
    obtain ⟨letters, quote, others, whole, -, quotes, all⟩ := literalMark?_spec marked
    cases letters with
    | nil =>
      obtain ⟨rfl, -⟩ := List.cons.inj whole
      rcases quotes with rfl | rfl <;> exact absurd (by decide) plain
    | cons d letters =>
      obtain ⟨rfl, -⟩ := List.cons.inj whole
      exact absurd (List.mem_cons_of_mem _ (List.mem_cons_of_mem _ (all c List.mem_cons_self))) plain

theorem cut_eq_cutText_plain {inner : Bool} {c : Char} (plain : c ∉ ['\\', '\n', '\r', '#']) (rest : Text) :
    cut inner (c :: rest) = cutText c (c :: rest) := by
  simp only [List.mem_cons, List.not_mem_nil, or_false, not_or] at plain
  rw [cut]
  · exact fun same _ => plain.1 same
  · exact fun same _ => plain.1 same
  · exact fun same _ => plain.2.1 same
  · exact fun same _ => plain.2.2.1 same
  · exact plain.2.2.2

theorem digit_plain {c : Char} (digit : c.isDigit = true) (others : List Char)
    (no : others.all fun d => !d.isDigit) : c ∉ others := by
  intro mem
  have := List.all_eq_true.1 no c mem
  simp [digit] at this

theorem digit_visible {c : Char} (digit : c.isDigit = true) : Unicode.isSpace c = false := by
  have low : 48 ≤ c.toNat ∧ c.toNat ≤ 57 := by
    simpa [Char.isDigit, UInt32.le_iff_toNat_le] using digit
  have all : ∀ n < 10, Unicode.spaceBoundaries.contains (48 + n) = false := by decide
  have plain := all (c.toNat - 48) (by omega)
  rwa [Nat.add_sub_of_le low.1] at plain

theorem digits_inLine {digits : Text} (all : ∀ c ∈ digits, c.isDigit = true) : ∀ c ∈ digits, c ≠ '\n' ∧ c ≠ '\r' := by
  intro c mem
  have plain := digit_plain (all c mem) ['\n', '\r'] rfl
  simpa using plain

theorem cut_decimal (inner : Bool) (n : Nat) {rest : Text} (parted : Parted rest) :
    cut inner (Text.decimal n ++ rest) = .token .number (Text.decimal n) 0 := by
  have number := numberRun_decimal n parted
  obtain ⟨c, digits, written, all, -⟩ := exists_decimal n
  have digit := all c List.mem_cons_self
  rw [written] at number ⊢
  rw [List.cons_append] at number ⊢
  rw [cut_eq_cutText_plain (digit_plain digit _ rfl), cutText,
    literalMark?_plain (digit_plain digit _ rfl), cutWord, number]

theorem cut_minus (inner : Bool) (n : Nat) (rest : Text) :
    cut inner ('-' :: Text.decimal n ++ rest) = .token .operator ['-'] 0 := by
  obtain ⟨c, digits, written, all, -⟩ := exists_decimal n
  have digit := all c List.mem_cons_self
  rw [written, List.cons_append, List.cons_append, cut_eq_cutText_plain (by decide), cutText,
    literalMark?_plain (by decide), cutWord, numberRun_word (by decide) (by decide)]
  have equals : '=' ≠ c := fun same => digit_plain digit ['='] rfl (by simp [← same])
  have arrow : '>' ≠ c := fun same => digit_plain digit ['>'] rfl (by simp [← same])
  have operator : looseOperators.find? (Text.startsWith · ('-' :: c :: (digits ++ rest))) = some ['-'] := by
    simp [looseOperators, operators, Text.startsWith, Text.after?, equals, arrow]
  rw [operator]
  rfl

/-! ## Quoted texts -/

def Inside (mark : Char) (part : Text) : Prop := ∀ rest, shortLiteral? mark (part ++ rest) =
  (shortLiteral? mark rest).map fun (taken, rest) => (part ++ taken, rest)

theorem Inside.append {mark : Char} {part other : Text} (inside : Inside mark part) (inside' : Inside mark other) :
    Inside mark (part ++ other) := by
  intro rest
  rw [List.append_assoc, inside, inside', Option.map_map]
  congr 1
  funext found
  simp

theorem inside_nil (mark : Char) : Inside mark [] := by
  intro rest
  rw [List.nil_append]
  cases shortLiteral? mark rest <;> rfl

theorem inside_char {mark c : Char} (plain : c ≠ '\\') (other : c ≠ '\n') (inner : c ≠ mark) : Inside mark [c] :=
  fun rest => by rw [List.singleton_append, shortLiteral?_plain plain other, if_neg inner]

theorem inside_slash {mark d : Char} (other : d ≠ '\n') (other' : d ≠ '\r') : Inside mark ['\\', d] :=
  fun _ => shortLiteral?_slash other fun same => absurd same other'

theorem inside_hexDigits {mark : Char} (quotes : mark = '\'' ∨ mark = '"') (width n : Nat) :
    Inside mark (Text.hexDigits width n) := by
  induction width generalizing n with
  | zero => exact inside_nil mark
  | succ width ih =>
    have all : ∀ d < 16, Text.hexDigit d ≠ '\\' ∧ Text.hexDigit d ≠ '\n' ∧ Text.hexDigit d ≠ '\'' ∧
        Text.hexDigit d ≠ '"' := by decide
    obtain ⟨slash, feed, single, double⟩ := all (n % 16) (Nat.mod_lt n (by decide))
    exact (ih _).append (inside_char slash feed (by rcases quotes with rfl | rfl <;> assumption))

theorem inside_hexEscape {mark : Char} (quotes : mark = '\'' ∨ mark = '"') (c : Char) :
    Inside mark (Text.hexEscape c) := by
  unfold Text.hexEscape
  split
  · exact (inside_slash (by decide) (by decide)).append (inside_hexDigits quotes 2 _)
  · split
    · exact (inside_slash (by decide) (by decide)).append (inside_hexDigits quotes 4 _)
    · exact (inside_slash (by decide) (by decide)).append (inside_hexDigits quotes 8 _)

theorem shortEscape?_cases (c : Char) : (∃ letter, Text.shortEscape? c = some letter ∧ letter ≠ '\n' ∧ letter ≠ '\r') ∨
    Text.shortEscape? c = none ∧ c ≠ '\\' ∧ c ≠ '\n' ∧ c ≠ '\r' := by
  unfold Text.shortEscape?
  split
  · exact .inl ⟨_, rfl, by decide, by decide⟩
  · exact .inl ⟨_, rfl, by decide, by decide⟩
  · exact .inl ⟨_, rfl, by decide, by decide⟩
  · exact .inl ⟨_, rfl, by decide, by decide⟩
  · exact .inr ⟨rfl, by assumption, by assumption, by assumption⟩

theorem inside_quotedChar {mark : Char} (quotes : mark = '\'' ∨ mark = '"') (c : Char) :
    Inside mark (Text.quotedChar mark c) := by
  unfold Text.quotedChar
  split
  · rename_i same
    rw [same]
    exact inside_slash (by rcases quotes with rfl | rfl <;> decide) (by rcases quotes with rfl | rfl <;> decide)
  · rename_i inner
    rcases shortEscape?_cases c with ⟨letter, escapes, feed, back⟩ | ⟨plain, slash, feed, -⟩
    · rw [escapes]
      exact inside_slash feed back
    · rw [plain]
      dsimp only
      split
      · exact inside_char slash feed inner
      · exact inside_hexEscape quotes c

theorem quoteMark_cases (text : Text) : Text.quoteMark text = '\'' ∨ Text.quoteMark text = '"' := by
  unfold Text.quoteMark
  split
  · exact .inr rfl
  · exact .inl rfl

theorem inside_quoted (mark : Char) (quotes : mark = '\'' ∨ mark = '"') (text : Text) :
    Inside mark (text.flatMap (Text.quotedChar mark)) := by
  induction text with
  | nil => exact inside_nil mark
  | cons c text ih => exact (inside_quotedChar quotes c).append ih

theorem head?_quotedChar {mark : Char} (quotes : mark = '\'' ∨ mark = '"') (c : Char) :
    ∃ d part, Text.quotedChar mark c = d :: part ∧ d ≠ mark := by
  have slash : '\\' ≠ mark := by rcases quotes with rfl | rfl <;> decide
  unfold Text.quotedChar
  split
  · exact ⟨_, _, rfl, slash⟩
  · rename_i inner
    split
    · exact ⟨_, _, rfl, slash⟩
    · split
      · exact ⟨_, _, rfl, inner⟩
      · unfold Text.hexEscape
        split
        · exact ⟨_, _, rfl, slash⟩
        · split <;> exact ⟨_, _, rfl, slash⟩

theorem cut_quoted (inner : Bool) (text : Text) {rest : Text} (parted : Parted rest) :
    cut inner (Text.quoted text ++ rest) = .token .literal (Text.quoted text) 0 := by
  have quotes := quoteMark_cases text
  rw [Text.quoted]
  generalize Text.quoteMark text = mark at quotes
  have inside := inside_quoted mark quotes text (mark :: rest)
  have closes : shortLiteral? mark (mark :: rest) = some ([mark], rest) := by
    rw [shortLiteral?_plain, if_pos rfl] <;> rcases quotes with rfl | rfl <;> decide
  have two : (text.flatMap (Text.quotedChar mark) ++ mark :: rest).take 2 ≠ [mark, mark] := by
    cases text with
    | nil =>
      cases rest with
      | nil => simp
      | cons d rest =>
        have other : d ≠ mark := by
          rintro rfl
          rcases quotes with rfl | rfl <;> exact parted.other (by decide) rfl
        simp [other]
    | cons c text =>
      obtain ⟨d, part, written, other⟩ := head?_quotedChar quotes c
      simp [written, other]
  have first (rest : Text) : cut inner (mark :: rest) = cutText mark (mark :: rest) := by
    rcases quotes with rfl | rfl <;> rfl
  have feed : mark ≠ '\n' := by rcases quotes with rfl | rfl <;> decide
  rw [closes] at inside
  simp only [List.cons_append, List.append_assoc, List.nil_append]
  rw [first, cutText, literalMark?_quote quotes]
  simp [two, inside, feed]

theorem hexDigits_inLine (width n : Nat) : ∀ c ∈ Text.hexDigits width n, c ≠ '\n' ∧ c ≠ '\r' := by
  induction width generalizing n with
  | zero => exact fun _ mem => nomatch mem
  | succ width ih =>
    have all : ∀ d < 16, Text.hexDigit d ≠ '\n' ∧ Text.hexDigit d ≠ '\r' := by decide
    intro c mem
    rcases List.mem_append.1 mem with mem | mem
    · exact ih _ c mem
    · rw [List.mem_singleton.1 mem]
      exact all _ (Nat.mod_lt n (by decide))

theorem quotedChar_inLine {mark : Char} (quotes : mark = '\'' ∨ mark = '"') (c : Char) :
    ∀ d ∈ Text.quotedChar mark c, d ≠ '\n' ∧ d ≠ '\r' := by
  have escape {letter : Char} {digits : Text} (plain : letter ≠ '\n' ∧ letter ≠ '\r')
      (inLine : ∀ d ∈ digits, d ≠ '\n' ∧ d ≠ '\r') : ∀ d ∈ '\\' :: letter :: digits, d ≠ '\n' ∧ d ≠ '\r' :=
    List.forall_mem_cons.2 ⟨by decide, List.forall_mem_cons.2 ⟨plain, inLine⟩⟩
  unfold Text.quotedChar
  split
  · rename_i same
    exact escape (by rcases quotes with rfl | rfl <;> rw [same] <;> decide) fun _ mem => nomatch mem
  · rcases shortEscape?_cases c with ⟨letter, escapes, feed, back⟩ | ⟨plain, slash, feed, back⟩
    · rw [escapes]
      exact escape ⟨feed, back⟩ fun _ mem => nomatch mem
    · rw [plain]
      dsimp only
      split
      · exact List.forall_mem_singleton.2 ⟨feed, back⟩
      · unfold Text.hexEscape
        split
        · exact escape (by decide) (hexDigits_inLine _ _)
        · split
          · exact escape (by decide) (hexDigits_inLine _ _)
          · exact escape (by decide) (hexDigits_inLine _ _)

/-! ## What is put in -/

/-- Texts that can be put in, and the tokens that they are. -/
inductive Stands : Text → List (LooseKind × Text) → Prop
  | number (n : Nat) : Stands (Text.decimal n) [(.number, Text.decimal n)]
  | negative (n : Nat) : Stands ('-' :: Text.decimal n) [(.operator, ['-']), (.number, Text.decimal n)]
  | quoted (text : Text) : Stands (Text.quoted text) [(.literal, Text.quoted text)]

/-- A text that is put in, with the tokens that it is. -/
structure Put where
  text : Text
  tokens : List (LooseKind × Text)
  stands : Stands text tokens

def pieces (space : Text) : List (LooseKind × Text) → List SpacedToken
  | [] => []
  | (kind, text) :: tokens => ⟨space, kind, text, 0⟩ :: pieces [] tokens

theorem Stands.solid {put : Text} {tokens : List (LooseKind × Text)} (stands : Stands put tokens) : Text.Solid put := by
  cases stands with
  | number n =>
    obtain ⟨c, digits, written, all, -⟩ := exists_decimal n
    rw [written]
    exact ⟨⟨c, digits, rfl, digit_visible (all c List.mem_cons_self),
      fun same => digit_plain (all c List.mem_cons_self) ['#'] rfl (by simp [same])⟩, digits_inLine all⟩
  | negative n =>
    obtain ⟨c, digits, written, all, -⟩ := exists_decimal n
    rw [written]
    exact ⟨⟨'-', _, rfl, by decide, by decide⟩, List.forall_mem_cons.2 ⟨by decide, digits_inLine all⟩⟩
  | quoted text =>
    have quotes := quoteMark_cases text
    have mark : Unicode.isSpace (Text.quoteMark text) = false ∧ Text.quoteMark text ∉ ['#', '\n', '\r'] := by
      rcases quotes with mark | mark <;> rw [mark] <;> decide
    simp only [List.mem_cons, List.not_mem_nil, or_false, not_or] at mark
    refine ⟨⟨_, _, rfl, mark.1, mark.2.1⟩, ?_⟩
    intro c mem
    rcases List.mem_append.1 mem with mem | mem
    · rcases List.mem_cons.1 mem with rfl | mem
      · exact mark.2.2
      · obtain ⟨d, -, mem⟩ := List.mem_flatMap.1 mem
        exact quotedChar_inLine quotes d c mem
    · rw [List.mem_singleton.1 mem]
      exact mark.2.2

theorem not_innerSpace {c : Char} (visible : Unicode.isSpace c = false) : isInnerSpace c = false := by
  cases inner : isInnerSpace c with
  | false => rfl
  | true =>
    simp only [isInnerSpace, Bool.or_eq_true, beq_iff_eq] at inner
    rcases inner with (rfl | rfl) | rfl <;> exact absurd visible (by decide)

theorem render_pieces {put : Text} {tokens : List (LooseKind × Text)} (stands : Stands put tokens) (space : Text)
    (ps : List SpacedToken) (left : Text) :
    render (pieces space tokens ++ ps) left = space ++ put ++ render ps left := by
  cases stands <;> simp [pieces, render]

theorem reads_pieces {put : Text} {tokens : List (LooseKind × Text)} (stands : Stands put tokens) {space : Text}
    (inner : space.all isInnerSpace) {depth : Int} {ps : List SpacedToken} {left : Text} {ending : Ending}
    (parted : Parted (render ps left)) (reads : Reads depth ps left ending) :
    Reads depth (pieces space tokens ++ ps) left ending := by
  obtain ⟨c, rest, written, visible, -⟩ := stands.solid.begins
  have visible : ∀ d ∈ put.head?, isInnerSpace d = false := by
    rw [written]
    rintro d ⟨⟩
    exact not_innerSpace visible
  cases stands with
  | number n => exact ⟨inner, visible, cut_decimal _ n parted, by simpa [pieces] using reads⟩
  | negative n =>
    obtain ⟨d, digits, written, all, -⟩ := exists_decimal n
    have digit := digit_plain (all d List.mem_cons_self) [' ', '\t', '\x0c'] rfl
    refine ⟨inner, visible, ?_, rfl, ?_, ?_, by simpa [pieces] using reads⟩
    · have minus := cut_minus (decide (0 < depth)) n (render ps left)
      simpa [pieces, render] using minus
    · rw [written]
      rintro e ⟨⟩
      simpa [isInnerSpace, and_assoc] using digit
    · exact cut_decimal _ n parted
  | quoted text => exact ⟨inner, visible, cut_quoted _ text parted, by simpa [pieces] using reads⟩

end LexGen.Code
