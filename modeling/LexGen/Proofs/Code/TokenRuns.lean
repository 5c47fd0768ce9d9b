import LexGen.Proofs.Code.Expressions
import LexGen.Proofs.Code.Quoting

/-!
# Runs of tokens

Where brackets are open, white space does not matter, and a text is cut into tokens piece by piece. A piece is
described by what its tokens are, wherever it stands.

* `Cuts`: reading goes on from one text to another and takes certain tokens. `Cuts.append` joins two pieces.
* `cuts_gap`: a gap has no tokens.
* `cuts_opening`, `cuts_closing`, `cuts_comma`, `cuts_name`, `cuts_literalToken`, `cuts_numberToken`: pieces of one token.
-/

namespace LexGen.Code

/-! ## Reading token by token -/

theorem withFeeds_eq_self {text : Text} (noReturn : '\r' ∉ text) : withFeeds text = text := by
  fun_induction withFeeds text with
  | case1 | case2 => exact absurd List.mem_cons_self noReturn
  | case3 c text _ _ ih => rw [ih fun mem => noReturn (List.mem_cons_of_mem c mem)]
  | case4 => rfl

theorem readTokens_token {fuel : Nat} {blank : Bool} {r next : Reading} {token : Token} {tokens : List Token}
    {c : Char} {text : Text} (begins : (r.skipWhile isInnerSpace).rest = c :: text) (visible : c ∉ ['#', '\n', '\\'])
    (taken : tokenAt (r.skipWhile isInnerSpace) = some (token, next))
    (others : readTokens fuel false blank next = some tokens) :
    readTokens (fuel + 1) false blank r = some (token :: tokens) := by
  simp only [List.mem_cons, List.not_mem_nil, or_false, not_or] at visible
  rw [readTokens]
  dsimp only
  rw [begins, if_neg (by simpa using visible.1), begins]
  split
  · rename_i empty
    cases empty
  · rename_i same
    exact absurd (List.cons.inj same).1 visible.2.1
  · rename_i same
    exact absurd (List.cons.inj same).1 visible.2.2
  · rw [taken]
    simp [others]

def closingTokens (kinds : List TokenKind) (ends : Place) : List Token :=
  ⟨.lineEnd, "", ends, ends.line⟩ :: kinds.map fun kind => ⟨kind, "", ⟨ends.line + 1, 0⟩, ends.line + 1⟩

theorem readTokens_close (fuel : Nat) (ends : Place) :
    readTokens (fuel + 3) false false { rest := ['\n'], place := ends } = some (closingTokens [.codeEnd] ends) := rfl

theorem tokens?_eq {code : Text} (noNull : '\x00' ∉ code) (noReturn : '\r' ∉ code) :
    tokens? code = readTokens (2 * (withLastFeed code).length + 2) true false { rest := withLastFeed code } := by
  rw [tokens?, if_neg (by simpa using noNull), withFeeds_eq_self noReturn]

/-! ## Pieces -/

/-- Reading goes on from one text to another and takes tokens that satisfy `P`. -/
def Cuts (P : List Token → Prop) (brackets : List Char) (text : Text) (brackets' : List Char) (rest : Text) : Prop :=
  ∀ place : Place, ∃ (tokens : List Token) (place' : Place) (rounds : Nat), P tokens ∧
    tokens.length + rest.length ≤ text.length ∧ rounds + 2 * rest.length ≤ 2 * text.length ∧
    ∀ fuel others, readTokens fuel false false { rest := rest, place := place', brackets := brackets' } = some others →
      readTokens (fuel + rounds) false false { rest := text, place := place, brackets := brackets } =
        some (tokens ++ others)

section

variable {P Q R : List Token → Prop} {brackets brackets' brackets'' : List Char} {text text' rest : Text}

theorem Cuts.append (first : Cuts P brackets text brackets' text') (second : Cuts Q brackets' text' brackets'' rest)
    (join : ∀ tokens others, P tokens → Q others → R (tokens ++ others)) : Cuts R brackets text brackets'' rest := by
  intro place
  obtain ⟨tokens, between, rounds, holds, shorter, enough, read⟩ := first place
  obtain ⟨others, ends, more, holds', shorter', enough', read'⟩ := second between
  refine ⟨tokens ++ others, ends, more + rounds, join _ _ holds holds', ?_, by omega, fun fuel last found => ?_⟩
  · rw [List.length_append]
    omega
  · rw [← Nat.add_assoc, List.append_assoc]
    exact read _ _ (read' _ _ found)

theorem Cuts.mono (h : Cuts P brackets text brackets' rest) (le : ∀ tokens, P tokens → Q tokens) :
    Cuts Q brackets text brackets' rest := by
  intro place
  obtain ⟨tokens, ends, rounds, holds, bounds⟩ := h place
  exact ⟨tokens, ends, rounds, le _ holds, bounds⟩

theorem Cuts.after (h : Cuts P brackets' text' brackets'' rest) (gap : Cuts (· = []) brackets text brackets' text') :
    Cuts P brackets text brackets'' rest :=
  gap.append h fun _ _ none holds => by rwa [none]

end

/-! ## Gaps -/

section

variable {brackets : List Char} {rest : Text}

def isVisible (c : Char) : Bool := !([' ', '\t', '\x0c', '#', '\n', '\\'].contains c)

variable (brackets) in
theorem skipWhile_visible {c : Char} (visible : isVisible c = true) (rest : Text) (place : Place) :
    ({ rest := c :: rest, place := place, brackets := brackets } : Reading).skipWhile isInnerSpace =
      { rest := c :: rest, place := place, brackets := brackets } := by
  have inner : isInnerSpace c = false := by
    simp [isVisible] at visible
    simp [isInnerSpace, visible]
  simp [Reading.skipWhile, Reading.skip, inner]

theorem skipWhile_space (rest : Text) (place : Place) :
    ({ rest := ' ' :: rest, place := place, brackets := brackets } : Reading).skipWhile isInnerSpace =
      ({ rest := rest, place := place.after ' ', brackets := brackets } : Reading).skipWhile isInnerSpace := rfl

theorem cuts_nil (brackets : List Char) (rest : Text) : Cuts (· = []) brackets rest brackets rest :=
  fun place => ⟨[], place, 0, rfl, by simp, by simp, fun _ _ found => found⟩

theorem cuts_space (brackets : List Char) (rest : Text) : Cuts (· = []) brackets (' ' :: rest) brackets rest := by
  intro place
  refine ⟨[], place.after ' ', 0, rfl, by simp, by rw [List.length_cons]; omega, fun fuel others found => ?_⟩
  cases fuel with
  | zero => cases found
  | succ fuel =>
    rw [Nat.add_zero, readTokens, skipWhile_space]
    rwa [readTokens] at found

variable (brackets) in
theorem indentation_visible {c : Char} (visible : isVisible c = true) (fuel wide narrow : Nat) (rest : Text)
    (place : Place) :
    indentation (fuel + 1) wide narrow 0 { rest := c :: rest, place := place, brackets := brackets } =
      some ((wide, narrow), { rest := c :: rest, place := place, brackets := brackets }) := by
  have other (d : Char) (mem : d ∈ [' ', '\t', '\x0c', '#', '\n', '\\']) : c ≠ d := by
    rintro rfl
    simp [isVisible, mem] at visible
  rw [indentation]
  dsimp only
  split
  case h_6 => rfl
  all_goals
    rename_i same
    exact absurd (List.cons.inj same).1 (other _ (by decide))

variable (brackets) in
theorem indentation_spaces {c : Char} (visible : isVisible c = true) (rest : Text) {count fuel : Nat}
    (enough : count < fuel) (wide narrow : Nat) (place : Place) : ∃ place',
      indentation fuel wide narrow 0
          { rest := List.replicate count ' ' ++ c :: rest, place := place, brackets := brackets } =
        some ((wide + count, narrow + count), { rest := c :: rest, place := place', brackets := brackets }) := by
  obtain ⟨fuel, rfl⟩ : ∃ fuel', fuel = fuel' + 1 := ⟨fuel - 1, by omega⟩
  induction count generalizing fuel wide narrow place with
  | zero => exact ⟨place, indentation_visible brackets visible fuel wide narrow rest place⟩
  | succ count ih =>
    obtain ⟨fuel, rfl⟩ : ∃ fuel', fuel = fuel' + 1 := ⟨fuel - 1, by omega⟩
    obtain ⟨place', read⟩ := ih (wide + 1) (narrow + 1) (place.after ' ') fuel (by omega)
    refine ⟨place', ?_⟩
    rw [List.replicate_succ, List.cons_append, indentation]
    rw [show wide + (count + 1) = wide + 1 + count by omega, show narrow + (count + 1) = narrow + 1 + count by omega]
    exact read

def IsGap (gap : Text) : Prop := gap = [' '] ∨ ∃ count, gap = '\n' :: List.replicate count ' '

theorem cuts_feed (nonempty : brackets ≠ []) {c : Char} (visible : isVisible c = true) (count : Nat) (rest : Text) :
    Cuts (· = []) brackets ('\n' :: (List.replicate count ' ' ++ c :: rest)) brackets (c :: rest) := by
  intro place
  have length : (List.replicate count ' ' ++ c :: rest).length = count + (rest.length + 1) := by simp
  obtain ⟨place', read⟩ := indentation_spaces brackets visible rest
    (show count < (List.replicate count ' ' ++ c :: rest).length + 1 by omega) 0 0 (place.after '\n')
  refine ⟨[], place', 2, rfl, ?_, ?_, fun fuel others found => ?_⟩
  · simp only [List.length_nil, List.length_cons, length]
    omega
  · simp only [List.length_cons, length]
    omega
  have open? : brackets.isEmpty = false := by simpa using nonempty
  have unmarked : c ≠ '#' ∧ c ≠ '\n' := by
    constructor <;>
    · rintro rfl
      cases visible
  have begun : readTokens (fuel + 2) false false
      { rest := '\n' :: (List.replicate count ' ' ++ c :: rest), place := place, brackets := brackets } =
        readTokens (fuel + 1) true false
          { rest := List.replicate count ' ' ++ c :: rest, place := place.after '\n', brackets := brackets } := by
    conv_lhs => rw [readTokens]
    simp [Reading.skipWhile, Reading.skip, isInnerSpace, open?]
  rw [begun, readTokens, read]
  simp [nonempty, found, unmarked]

theorem cuts_gap (nonempty : brackets ≠ []) {gap : Text} (isGap : IsGap gap) {c : Char} (visible : isVisible c = true)
    (rest : Text) : Cuts (· = []) brackets (gap ++ c :: rest) brackets (c :: rest) := by
  rcases isGap with rfl | ⟨count, rfl⟩
  · exact cuts_space brackets _
  · exact cuts_feed nonempty visible count rest

end

/-! ## Single tokens -/

def IsToken (kind : TokenKind) (text : Text) (tokens : List Token) : Prop :=
  ∃ t : Token, tokens = [t] ∧ t.kind = kind ∧ t.text = String.ofList text

section

variable {P : List Token → Prop} {kind : TokenKind} {word text text' rest : Text} {brackets brackets' brackets'' : List Char}

theorem Cuts.cons (first : Cuts (IsToken kind word) brackets text brackets' text')
    (second : Cuts P brackets' text' brackets'' rest) :
    Cuts (fun tokens => ∃ t inner, tokens = t :: inner ∧ (t.kind = kind ∧ t.text = String.ofList word) ∧ P inner)
      brackets text brackets'' rest := by
  refine first.append second ?_
  rintro _ inner ⟨t, rfl, same⟩ holds
  exact ⟨t, inner, rfl, same, holds⟩

theorem Cuts.concat (first : Cuts P brackets text brackets' text')
    (second : Cuts (IsToken kind word) brackets' text' brackets'' rest) :
    Cuts (fun tokens => ∃ inner t, tokens = inner ++ [t] ∧ (t.kind = kind ∧ t.text = String.ofList word) ∧ P inner)
      brackets text brackets'' rest := by
  refine first.append second ?_
  rintro inner _ holds ⟨t, rfl, same⟩
  exact ⟨inner, t, rfl, same, holds⟩

end

section

variable {brackets brackets' : List Char} {rest : Text}

theorem cuts_token {kind : TokenKind} {c : Char} {word : Text} (visible : isVisible c = true)
    (taken : ∀ place, ∃ line place', tokenAt { rest := c :: word ++ rest, place := place, brackets := brackets } =
      some (⟨kind, String.ofList (c :: word), place, line⟩,
        { rest := rest, place := place', brackets := brackets' })) :
    Cuts (IsToken kind (c :: word)) brackets (c :: word ++ rest) brackets' rest := by
  intro place
  obtain ⟨line, place', token⟩ := taken place
  refine ⟨_, place', 1, ⟨⟨kind, String.ofList (c :: word), place, line⟩, rfl, rfl, rfl⟩, ?_, ?_, fun fuel others found => ?_⟩
  · simp
    omega
  · simp
    omega
  · have inLine : c ∉ ['#', '\n', '\\'] := by
      intro mem
      have : c ∈ [' ', '\t', '\x0c', '#', '\n', '\\'] := List.mem_of_mem_drop (i := 3) mem
      simp [isVisible, this] at visible
    rw [List.cons_append] at token ⊢
    have stays := skipWhile_visible brackets visible (word ++ rest) place
    exact readTokens_token (by rw [stays]) inLine (by rw [stays]; exact token) found

theorem tokenAt_mark {c : Char} (plain : c ∉ ['\'', '"', 'b', 'u', 'r', 'f', 'B', 'U', 'R', 'F'])
    (word : isNameChar c = false)
    (number : (c.isDigit || (c = '.' && (rest.head?.map Char.isDigit).getD false)) = false)
    (operator : operators.find? (Text.startsWith · (c :: rest)) = some [c])
    (tracked : trackBrackets c brackets = some brackets') (place : Place) : ∃ line place',
      tokenAt { rest := c :: rest, place := place, brackets := brackets } =
        some (⟨.operator, String.ofList [c], place, line⟩,
          { rest := rest, place := place', brackets := brackets' }) := by
  have taken : Code.operator { rest := c :: rest, place := place, brackets := brackets } =
      some ([c], { rest := c :: rest, place := place, brackets := brackets' }) := by
    rw [Code.operator, operator]
    change (trackBrackets c brackets >>= _) = _
    rw [tracked]
    rfl
  refine ⟨(place.after c).line, place.after c, ?_⟩
  rw [tokenAt, literalMark?_plain plain]
  dsimp only
  rw [number, if_neg (by decide), word, if_neg (by decide), taken]
  rfl

theorem cuts_mark {c : Char} (visible : isVisible c = true)
    (plain : c ∉ ['\'', '"', 'b', 'u', 'r', 'f', 'B', 'U', 'R', 'F'])
    (word : isNameChar c = false)
    (number : (c.isDigit || (c = '.' && (rest.head?.map Char.isDigit).getD false)) = false)
    (operator : operators.find? (Text.startsWith · (c :: rest)) = some [c])
    (tracked : trackBrackets c brackets = some brackets') :
    Cuts (IsToken .operator [c]) brackets (c :: rest) brackets' rest :=
  cuts_token visible (tokenAt_mark plain word number operator tracked)

theorem cuts_opening {c : Char} (opening : c ∈ ['(', '[', '\x7b']) (room : brackets.length < mostBrackets) (rest : Text) :
    Cuts (IsToken .operator [c]) brackets (c :: rest) (c :: brackets) rest := by
  simp only [List.mem_cons, List.not_mem_nil, or_false] at opening
  rcases opening with rfl | rfl | rfl <;>
    exact cuts_mark (by decide) (by decide) rfl rfl rfl (if_pos room)

theorem cuts_closing {c opening : Char} (closes : opening? c = some opening) (rest : Text) :
    Cuts (IsToken .operator [c]) (opening :: brackets) (c :: rest) brackets rest := by
  unfold opening? at closes
  split at closes
  case h_4 => cases closes
  all_goals
    obtain rfl := Option.some.inj closes
    exact cuts_mark (by decide) (by decide) rfl rfl rfl rfl

theorem cuts_comma (brackets : List Char) (rest : Text) :
    Cuts (IsToken .operator [',']) brackets (',' :: rest) brackets rest :=
  cuts_mark (by decide) (by decide) rfl rfl rfl rfl

theorem cuts_colon (brackets : List Char) (rest : Text) :
    Cuts (IsToken .operator [':']) brackets (':' :: ' ' :: rest) brackets (' ' :: rest) :=
  cuts_mark (by decide) (by decide) rfl rfl rfl rfl

theorem cuts_minus (brackets : List Char) {c : Char} (digit : c.isDigit = true) (rest : Text) :
    Cuts (IsToken .operator ['-']) brackets ('-' :: c :: rest) brackets (c :: rest) := by
  have equals : '=' ≠ c := fun same => digit_plain digit ['='] rfl (by simp [← same])
  have arrow : '>' ≠ c := fun same => digit_plain digit ['>'] rfl (by simp [← same])
  refine cuts_mark (by decide) (by decide) rfl rfl ?_ rfl
  simp [operators, Text.startsWith, Text.after?, equals, arrow]

theorem cuts_point (brackets : List Char) {c : Char} (digit : c.isDigit = false) (point : '.' ≠ c) (rest : Text) :
    Cuts (IsToken .operator ['.']) brackets ('.' :: c :: rest) brackets (c :: rest) := by
  refine cuts_mark (by decide) (by decide) rfl ?_ ?_ rfl
  · simp [digit]
  · simp [operators, Text.startsWith, Text.after?, point]

theorem isVisible_of_isNameChar {c : Char} (letter : isNameChar c = true) : isVisible c = true := by
  have none : ([' ', '\t', '\x0c', '#', '\n', '\\'].all fun d => !isNameChar d) = true := rfl
  cases hidden : [' ', '\t', '\x0c', '#', '\n', '\\'].contains c with
  | false => simp only [isVisible, hidden, Bool.not_false]
  | true =>
    have other := List.all_eq_true.1 none c (List.contains_iff_mem.1 hidden)
    rw [letter] at other
    cases other

theorem cuts_name (brackets : List Char) {c : Char} {word : Text}
    (all : ((c :: word).all fun d => isNameChar d && d.toNat < 128) = true) (first : c.isDigit = false)
    (unmarked : literalMark? (c :: word ++ rest) = none) (ends : ∀ d ∈ rest.head?, isNameChar d = false) :
    Cuts (IsToken .name (c :: word)) brackets (c :: word ++ rest) brackets rest := by
  have letters (d : Char) (mem : d ∈ c :: word) : isNameChar d = true ∧ d.toNat < 128 := by
    simpa using List.all_eq_true.1 all d mem
  have letter := (letters c List.mem_cons_self).1
  have point : c ≠ '.' := by
    rintro rfl
    cases letter
  have stops : rest.takeWhile isNameChar = [] ∧ rest.dropWhile isNameChar = rest := by
    cases rest with
    | nil => exact ⟨rfl, rfl⟩
    | cons d rest =>
      have other := ends d rfl
      simp [other]
  have taken : (c :: word ++ rest).takeWhile isNameChar = c :: word := by
    rw [List.takeWhile_append_of_pos fun d mem => (letters d mem).1, stops.1, List.append_nil]
  have dropped : (c :: word ++ rest).dropWhile isNameChar = rest := by
    rw [List.dropWhile_append_of_pos fun d mem => (letters d mem).1, stops.2]
  have narrow : ((c :: word).all fun d => d.toNat < 128) = true := by
    exact List.all_eq_true.2 fun d mem => decide_eq_true (letters d mem).2
  refine cuts_token (isVisible_of_isNameChar letter) fun place =>
    ⟨((c :: word).foldl Place.after place).line, (c :: word).foldl Place.after place, ?_⟩
  rw [tokenAt, unmarked]
  rw [List.cons_append] at taken dropped ⊢
  dsimp only
  rw [if_neg (by simp [first, point]), if_pos letter, taken, dropped, narrow, Bool.true_or, if_pos rfl]
  rfl

theorem cuts_literalToken (brackets : List Char) {isBytes : Bool} {text token : Text}
    (literal : LiteralToken isBytes text token) (single : rest.head? ≠ some '\'') (double : rest.head? ≠ some '"') :
    Cuts (IsToken .literal token) brackets (token ++ rest) brackets rest := by
  obtain ⟨length, ends⟩ := literal.ends
  obtain ⟨marked, taken⟩ := ends rest single double
  obtain ⟨c, others, rfl, quote⟩ := literal.opens
  have visible : isVisible c = true := by
    simp only [List.mem_cons, List.not_mem_nil, or_false] at quote
    rcases quote with rfl | rfl | rfl <;> rfl
  refine cuts_token visible fun place =>
    ⟨((c :: others).foldl Place.after place).line, (c :: others).foldl Place.after place, ?_⟩
  rw [tokenAt, marked]
  dsimp only
  rw [taken]
  rfl

theorem cuts_numberToken (brackets : List Char) {c : Char} {digits : Text} (digit : c.isDigit = true)
    (taken : number (c :: digits ++ rest) = some (c :: digits, rest)) :
    Cuts (IsToken .number (c :: digits)) brackets (c :: digits ++ rest) brackets rest := by
  have letter : isNameChar c = true := by simp [isNameChar, Char.isAlphanum, digit]
  have point : c ≠ '.' := by
    rintro rfl
    cases digit
  refine cuts_token (isVisible_of_isNameChar letter) fun place =>
    ⟨((c :: digits).foldl Place.after place).line, (c :: digits).foldl Place.after place, ?_⟩
  rw [tokenAt, List.cons_append, literalMark?_plain (digit_plain digit _ rfl)]
  rw [List.cons_append] at taken
  dsimp only
  rw [if_pos (by simp [digit]), if_neg point, taken]
  rfl

end

end LexGen.Code
