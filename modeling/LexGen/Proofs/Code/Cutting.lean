import LexGen.Code.Literal
import LexGen.Code.Loose
import LexGen.Proofs.Text.Replace

/-!
# Cutting a line into loose tokens

A line is cut from its beginning: what comes first is looked for in the text alone, without regard to its place.

* `Cut` and `cut`: what the rest of a line begins with.
* `Reads`: a line as a row of tokens with space before each, and what is left behind the last one.
* `lineTokens_reads`: such a line is cut into those tokens, with their places.
* `exists_reads`: each line that is cut without stray tokens is one.
-/

namespace LexGen.Code

/-! ## What comes first -/

/-- How a line ends behind its last token. -/
inductive Ending where
  | ended
  | goesOn
  | opens (mark : Char) (long : Bool) (taken : Text)

/-- What the rest of a line begins with. -/
inductive Cut where
  | token (kind : LooseKind) (text : Text) (change : Int)
  | stray
  | last (ending : Ending)

def bracketChange (op : Text) : Int :=
  if ["(", "[", "\x7b"].contains (String.ofList op) then 1
  else if [")", "]", "\x7d"].contains (String.ofList op) then -1
  else 0

def cutWord (c : Char) (body : Text) : Cut :=
  match numberRun body with
  | [] =>
    match looseOperators.find? (Text.startsWith · body) with
    | some op => .token .operator op (bracketChange op)
    | none =>
      if Unicode.isWord c then
        .token (if Unicode.isIdentifierStart c then .name else .operator) (body.takeWhile Unicode.isWord) 0
      else .stray
  | number => .token .number number 0

def cutText (c : Char) (body : Text) : Cut :=
  match literalMark? body with
  | some length =>
    let opening := body.take (length + 1)
    let mark := opening.getLast?.getD '\''
    let after := body.drop (length + 1)
    if after.take 2 = [mark, mark] then
      match literalEnd? mark true (after.drop 2) with
      | some (taken, _) => .token .literal (opening ++ [mark, mark] ++ taken) 0
      | none => .last (.opens mark true body)
    else match shortLiteral? mark after with
      | some (taken, _) =>
        if taken.getLast? = some '\n' then .last (.opens mark false (opening ++ taken))
        else .token .literal (opening ++ taken) 0
      | none => if length = 0 then .stray else cutWord c body
  | none => cutWord c body

def cut (inner : Bool) (body : Text) : Cut :=
  match body with
  | [] => .last .ended
  | ['\\', '\n'] => .last .goesOn
  | ['\\', '\r', '\n'] => .last .goesOn
  | ['\n'] => .token (if inner then .lineBreak else .lineEnd) ['\n'] 0
  | ['\r', '\n'] => .token (if inner then .lineBreak else .lineEnd) ['\r', '\n'] 0
  | '#' :: _ => .token .comment (body.takeWhile fun c => c != '\r' && c != '\n') 0
  | c :: _ => cutText c body

def Ending.after (line column : Nat) (s : LooseState) : Ending → LooseState
  | .ended => s
  | .goesOn => { s with continued := true }
  | .opens mark long taken => { s with literal := some ⟨line, column, mark, long, taken⟩ }

def Cut.yield {α : Type} (token : LooseKind → Text → LooseState → List α × LooseState)
    (stray : Unit → List α × LooseState) (line column : Nat) (s : LooseState) : Cut → List α × LooseState
  | .token kind text change => token kind text { s with depth := s.depth + change }
  | .stray => stray ()
  | .last ending => ([], ending.after line column s)

section

variable (token : LooseKind → Text → LooseState → List LooseToken × LooseState)
  (stray : Unit → List LooseToken × LooseState) (line column : Nat) (s : LooseState)

theorem word_eq (c : Char) (body : Text) :
    lineTokens.word c body token stray s = (cutWord c body).yield token stray line column s := by
  unfold lineTokens.word cutWord
  cases numberRun body with
  | nil =>
    cases looseOperators.find? (Text.startsWith · body) with
    | some op => rfl
    | none => cases Unicode.isWord c <;> simp [Cut.yield]
  | cons d run => simp [Cut.yield]

theorem text_eq (c : Char) (body : Text) :
    (match literalMark? body with
      | some length =>
        let opening := body.take (length + 1)
        let mark := opening.getLast?.getD '\''
        let after := body.drop (length + 1)
        if after.take 2 = [mark, mark] then
          let opening := opening ++ [mark, mark]
          match literalEnd? mark true (after.drop 2) with
          | some (taken, _) => token .literal (opening ++ taken) s
          | none => ([], { s with literal := some ⟨line, column, mark, true, body⟩ })
        else match shortLiteral? mark after with
          | some (taken, _) =>
            if taken.getLast? = some '\n' then
              ([], { s with literal := some ⟨line, column, mark, false, opening ++ taken⟩ })
            else token .literal (opening ++ taken) s
          | none => if length = 0 then stray () else lineTokens.word c body token stray s
      | none => lineTokens.word c body token stray s) = (cutText c body).yield token stray line column s := by
  unfold cutText
  cases literalMark? body with
  | none => exact word_eq ..
  | some length =>
    dsimp only
    generalize (body.take (length + 1)).getLast?.getD '\'' = mark
    split
    · cases literalEnd? mark true ((body.drop (length + 1)).drop 2) <;> simp [Cut.yield, Ending.after]
    · cases shortLiteral? mark (body.drop (length + 1)) with
      | some found =>
        dsimp only
        split <;> simp [Cut.yield, Ending.after]
      | none =>
        dsimp only
        split
        · rfl
        · exact word_eq ..

end

def tokenAnd (line fuel start : Nat) (body : Text) (kind : LooseKind) (text : Text) (s : LooseState) :
    List LooseToken × LooseState :=
  let (tokens, s) := lineTokens line fuel (start + text.length) (body.drop text.length) s
  (⟨kind, text, line, start, line, start + text.length⟩ :: tokens, s)

def strayAnd (line fuel column : Nat) (s : LooseState) : Text → List LooseToken × LooseState
  | [] => ([], s)
  | c :: rest =>
    let (tokens, s) := lineTokens line fuel (column + 1) rest s
    (⟨.stray, [c], line, column, line, column + 1⟩ :: tokens, s)

theorem lineTokens_succ (line fuel column : Nat) (rest : Text) (s : LooseState) :
    lineTokens line (fuel + 1) column rest s =
      let space := rest.takeWhile isInnerSpace
      let body := rest.drop space.length
      (cut (decide (0 < s.depth)) body).yield (tokenAnd line fuel (column + space.length) body)
        (fun _ => strayAnd line fuel column s rest) line (column + space.length) s := by
  rw [lineTokens.eq_def]
  dsimp only
  generalize rest.drop (rest.takeWhile isInnerSpace).length = body
  generalize column + (rest.takeWhile isInnerSpace).length = start
  split
  case h_1 | h_2 | h_3 => rfl
  case h_4 | h_5 | h_6 => simp [cut, Cut.yield, tokenAnd]
  case h_7 _ c tail _ _ _ _ _ =>
    rw [cut]
    · refine Eq.trans ?_ (text_eq (tokenAnd line fuel start (c :: tail)) (fun _ => strayAnd line fuel column s rest)
        line start s c (c :: tail))
      cases rest <;> rfl
    all_goals assumption

/-! ## Beginnings -/

theorem more_isPrefix (p : Char → Bool) (text : Text) : digitRun.more p text <+: text := by
  fun_induction digitRun.more p text with
  | case1 c rest _ ih => exact (List.prefix_cons_inj _).2 ((List.prefix_cons_inj _).2 ih)
  | case2 => exact List.nil_prefix
  | case3 c rest _ _ ih => exact (List.prefix_cons_inj _).2 ih
  | case4 => exact List.nil_prefix
  | case5 => exact List.nil_prefix

theorem digitRun_isPrefix (p : Char → Bool) (text : Text) : digitRun p text <+: text := by
  unfold digitRun
  split
  · exact List.nil_prefix
  · split
    · exact (List.prefix_cons_inj _).2 (more_isPrefix p _)
    · exact List.nil_prefix

theorem exponentRun_isPrefix (text : Text) : exponentRun text <+: text := by
  unfold exponentRun
  split
  · rename_i e sign rest
    split
    · split
      · have digits := digitRun_isPrefix Char.isDigit rest
        split
        · exact List.nil_prefix
        · exact (List.prefix_cons_inj _).2 ((List.prefix_cons_inj _).2 digits)
      · have digits := digitRun_isPrefix Char.isDigit (sign :: rest)
        split
        · exact List.nil_prefix
        · exact (List.prefix_cons_inj _).2 digits
    · exact List.nil_prefix
  · exact List.nil_prefix

theorem append_isPrefix {start more text : Text} (begins : start <+: text) (goesOn : more <+: text.drop start.length) :
    start ++ more <+: text := by
  obtain ⟨rest, rfl⟩ := begins
  rw [List.drop_left] at goesOn
  exact (List.prefix_append_right_inj start).2 goesOn

theorem floatRun_isPrefix (text : Text) : floatRun text <+: text := by
  have whole := digitRun_isPrefix Char.isDigit text
  unfold floatRun
  dsimp only
  generalize digitRun Char.isDigit text = run at whole
  obtain ⟨rest, rfl⟩ := whole
  rw [List.drop_left]
  split
  · rename_i after
    split
    · exact List.nil_prefix
    · rw [List.append_assoc, List.prefix_append_right_inj, List.cons_append, List.prefix_cons_inj]
      exact append_isPrefix (digitRun_isPrefix _ _) (exponentRun_isPrefix _)
  · have exponent := exponentRun_isPrefix rest
    split
    · exact List.nil_prefix
    · split
      · exact List.nil_prefix
      · exact (List.prefix_append_right_inj _).2 exponent

def basedRun (letter : Char) (p : Char → Bool) (text : Text) : Text :=
  match text with
  | '0' :: c :: rest =>
    let rest := if rest.head? = some '_' then rest.drop 1 else rest
    let gap := if (text.drop 2).head? = some '_' then ['_'] else []
    if c.toLower = letter then
      match digitRun p rest with
      | [] => []
      | digits => '0' :: c :: gap ++ digits
    else []
  | _ => []

theorem integerRun_eq (text : Text) :
    integerRun text =
      match basedRun 'x' isHexDigit text with
      | [] =>
        match basedRun 'b' (fun c => c = '0' || c = '1') text with
        | [] =>
          match basedRun 'o' (fun c => '0' ≤ c && c ≤ '7') text with
          | [] => if text.head? = some '0' then digitRun (· == '0') text else digitRun Char.isDigit text
          | run => run
        | run => run
      | run => run := rfl

theorem basedRun_isPrefix (letter : Char) (p : Char → Bool) (text : Text) : basedRun letter p text <+: text := by
  unfold basedRun
  split
  · rename_i c rest
    dsimp only [List.drop_succ_cons, List.drop_zero]
    split
    · split
      · exact List.nil_prefix
      · rw [List.cons_append, List.cons_append, List.prefix_cons_inj, List.prefix_cons_inj]
        split
        · rename_i gap
          obtain ⟨others, rfl⟩ : ∃ others, rest = '_' :: others := List.head?_eq_some_iff.1 gap
          exact (List.prefix_cons_inj _).2 (digitRun_isPrefix p others)
        · rename_i plain
          rw [if_neg (by simpa using plain)]
          exact digitRun_isPrefix p rest
    · exact List.nil_prefix
  · exact List.nil_prefix

theorem integerRun_isPrefix (text : Text) : integerRun text <+: text := by
  rw [integerRun_eq]
  split
  · split
    · split
      · split <;> exact digitRun_isPrefix _ _
      · exact basedRun_isPrefix _ _ _
    · exact basedRun_isPrefix _ _ _
  · exact basedRun_isPrefix _ _ _

def imaginary? (text run : Text) : Option Text :=
  match text.drop run.length with
  | c :: _ => if !run.isEmpty && (c = 'j' || c = 'J') then some (run ++ [c]) else none
  | [] => none

theorem numberRun_eq (text : Text) :
    numberRun text =
      match imaginary? text (digitRun Char.isDigit text) with
      | some run => run
      | none =>
        match floatRun text with
        | [] => integerRun text
        | run => (imaginary? text run).getD run := rfl

theorem imaginary?_isPrefix {text run found : Text} (begins : run <+: text) (marked : imaginary? text run = some found) :
    found <+: text := by
  unfold imaginary? at marked
  split at marked
  · rename_i c rest after
    split at marked
    · cases marked
      refine append_isPrefix begins ?_
      rw [after]
      exact (List.prefix_cons_inj _).2 List.nil_prefix
    · cases marked
  · cases marked

theorem numberRun_isPrefix (text : Text) : numberRun text <+: text := by
  rw [numberRun_eq]
  split
  · rename_i marked
    exact imaginary?_isPrefix (digitRun_isPrefix _ _) marked
  · split
    · exact integerRun_isPrefix text
    · have begins := floatRun_isPrefix text
      cases marked : imaginary? text (floatRun text) with
      | none => exact begins
      | some found => exact imaginary?_isPrefix begins marked

theorem literalEnd?_eq {mark : Char} {long : Bool} {text taken rest : Text}
    (found : literalEnd? mark long text = some (taken, rest)) : text = taken ++ rest ∧ taken ≠ [] := by
  fun_induction literalEnd? mark long text generalizing taken rest with
  | case1 => cases found
  | case2 => cases found
  | case3 c others _ ih =>
    obtain ⟨⟨more, last⟩, ends, same⟩ := Option.map_eq_some_iff.1 found
    cases same
    simp [(ih ends).1]
  | case4 c others _ _ closes isLong =>
    cases found
    simp only [isLong, Bool.not_true, Bool.false_or, Bool.and_eq_true, decide_eq_true_eq] at closes
    rw [closes.1, ← List.take_append_drop 2 others, closes.2]
    simp
  | case5 c others _ _ closes =>
    cases found
    simp only [Bool.and_eq_true, decide_eq_true_eq] at closes
    simp [closes.1]
  | case6 c others _ _ _ ih =>
    obtain ⟨⟨more, last⟩, ends, same⟩ := Option.map_eq_some_iff.1 found
    cases same
    simp [(ih ends).1]

theorem shortLiteral?_eq {mark : Char} {text taken rest : Text}
    (found : shortLiteral? mark text = some (taken, rest)) : text = taken ++ rest ∧ taken ≠ [] := by
  fun_induction shortLiteral? mark text generalizing taken rest with
  | case1 | case2 | case5 => cases found
  | case3 | case4 =>
    cases found
    simp
  | case6 c others _ _ _ ih =>
    obtain ⟨⟨more, last⟩, ends, same⟩ := Option.map_eq_some_iff.1 found
    cases same
    simp [(ih ends).1]
  | case7 =>
    cases found
    simp
  | case8 c others _ _ _ _ _ _ ih =>
    obtain ⟨⟨more, last⟩, ends, same⟩ := Option.map_eq_some_iff.1 found
    cases same
    simp [(ih ends).1]

theorem looseOperators_ne_nil {op : Text} (mem : op ∈ looseOperators) : op ≠ [] := by
  have all : ∀ op ∈ looseOperators, op ≠ [] := by decide
  exact all op mem

theorem cutWord_isPrefix {c : Char} {body kind text change} (found : cutWord c (c :: body) = .token kind text change) :
    text <+: c :: body ∧ text ≠ [] := by
  unfold cutWord at found
  split at found
  · split at found
    · rename_i op among
      cases found
      have begins := List.find?_some among
      exact ⟨Text.startsWith_iff.1 begins, looseOperators_ne_nil (List.mem_of_find?_eq_some among)⟩
    · split at found
      · rename_i word
        cases found
        exact ⟨List.takeWhile_prefix _, by simp [word]⟩
      · cases found
  · rename_i nonempty
    cases found
    exact ⟨numberRun_isPrefix _, nonempty⟩

theorem cutText_isPrefix {c : Char} {body kind text change} (found : cutText c (c :: body) = .token kind text change) :
    text <+: c :: body ∧ text ≠ [] := by
  unfold cutText at found
  split at found
  · rename_i length marked
    have whole := List.take_append_drop (length + 1) (c :: body)
    dsimp only at found
    generalize ((c :: body).take (length + 1)).getLast?.getD '\'' = mark at found
    split at found
    · rename_i long
      split at found
      · rename_i taken rest closes
        cases found
        refine ⟨?_, by simp⟩
        conv_rhs => rw [← whole, ← List.take_append_drop 2 ((c :: body).drop (length + 1)), long,
          (literalEnd?_eq closes).1]
        simp
      · cases found
    · split at found
      · rename_i taken rest closes
        split at found
        · cases found
        · cases found
          refine ⟨?_, by simp⟩
          conv_rhs => rw [← whole, (shortLiteral?_eq closes).1]
          simp
      · split at found
        · cases found
        · exact cutWord_isPrefix found
  · exact cutWord_isPrefix found

theorem cut_isPrefix {inner : Bool} {body text : Text} {kind : LooseKind} {change : Int}
    (found : cut inner body = .token kind text change) : text <+: body ∧ text ≠ [] := by
  unfold cut at found
  split at found
  case h_1 | h_2 | h_3 => cases found
  case h_4 | h_5 =>
    cases found
    simp
  case h_6 tail =>
    cases found
    exact ⟨List.takeWhile_prefix _, by simp⟩
  case h_7 => exact cutText_isPrefix found

/-! ## Lines as rows of tokens -/

/-- A token of a line with the space before it. -/
structure SpacedToken where
  space : Text
  kind : LooseKind
  text : Text
  change : Int

def render : List SpacedToken → (left : Text) → Text
  | [], left => left
  | p :: pieces, left => p.space ++ p.text ++ render pieces left

def layout (line : Nat) : (column : Nat) → List SpacedToken → List LooseToken
  | _, [] => []
  | column, p :: pieces =>
    let start := column + p.space.length
    let stop := start + p.text.length
    ⟨p.kind, p.text, line, start, line, stop⟩ :: layout line stop pieces

def leftColumn (column : Nat) (pieces : List SpacedToken) (left : Text) : Nat :=
  column + (render pieces (left.takeWhile isInnerSpace)).length

/-- A line that is cut into the given tokens one after the other, beginning with a number of open brackets. -/
def Reads : (depth : Int) → List SpacedToken → (left : Text) → Ending → Prop
  | depth, [], left, ending => cut (decide (0 < depth)) (left.dropWhile isInnerSpace) = .last ending
  | depth, p :: pieces, left, ending =>
    p.space.all isInnerSpace ∧ (∀ c ∈ p.text.head?, isInnerSpace c = false) ∧
      cut (decide (0 < depth)) (p.text ++ render pieces left) = .token p.kind p.text p.change ∧
      Reads (depth + p.change) pieces left ending

def depthAfter : (depth : Int) → List SpacedToken → Int
  | depth, [] => depth
  | depth, p :: pieces => depthAfter (depth + p.change) pieces

theorem takeWhile_space {space text : Text} (inner : space.all isInnerSpace)
    (visible : ∀ c ∈ text.head?, isInnerSpace c = false) : (space ++ text).takeWhile isInnerSpace = space := by
  rw [List.takeWhile_append_of_pos (List.all_eq_true.1 inner)]
  cases text with
  | nil => rw [List.takeWhile_nil, List.append_nil]
  | cons c text => rw [List.takeWhile_cons, if_neg (by simp [visible c rfl]), List.append_nil]

theorem drop_takeWhile (text : Text) :
    text.drop (text.takeWhile isInnerSpace).length = text.dropWhile isInnerSpace :=
  calc text.drop (text.takeWhile isInnerSpace).length
      = (text.takeWhile isInnerSpace ++ text.dropWhile isInnerSpace).drop (text.takeWhile isInnerSpace).length := by
        rw [List.takeWhile_append_dropWhile]
    _ = text.dropWhile isInnerSpace := List.drop_left

theorem head?_append_of_ne_nil {text : Text} (nonempty : text ≠ []) (rest : Text) :
    (text ++ rest).head? = text.head? := by
  cases text with
  | nil => exact absurd rfl nonempty
  | cons c text => rfl

theorem lineTokens_reads {line fuel column : Nat} {s : LooseState} {pieces : List SpacedToken} {left : Text}
    {ending : Ending} (reads : Reads s.depth pieces left ending) (enough : pieces.length < fuel) :
    lineTokens line fuel column (render pieces left) s =
      (layout line column pieces,
        ending.after line (leftColumn column pieces left) { s with depth := depthAfter s.depth pieces }) := by
  induction pieces generalizing fuel column s with
  | nil =>
    obtain ⟨fuel, rfl⟩ := Nat.exists_eq_succ_of_ne_zero (Nat.ne_of_gt enough)
    rw [lineTokens_succ]
    dsimp only [render]
    rw [drop_takeWhile, show cut _ _ = _ from reads]
    simp [Cut.yield, layout, leftColumn, render, depthAfter]
  | cons p pieces ih =>
    obtain ⟨fuel, rfl⟩ := Nat.exists_eq_succ_of_ne_zero (Nat.ne_of_gt (Nat.zero_lt_of_lt enough))
    obtain ⟨inner, visible, first, reads⟩ := reads
    have nonempty := (cut_isPrefix first).2
    have space : (p.space ++ (p.text ++ render pieces left)).takeWhile isInnerSpace = p.space :=
      takeWhile_space inner (by rwa [head?_append_of_ne_nil nonempty])
    rw [lineTokens_succ]
    dsimp only [render]
    rw [List.append_assoc, space, List.drop_left, first, Cut.yield, tokenAnd, List.drop_left,
      ih (s := { s with depth := s.depth + p.change }) reads (Nat.lt_of_succ_lt_succ enough)]
    simp [layout, leftColumn, render, depthAfter, Nat.add_assoc]

theorem exists_reads {line fuel column : Nat} {rest : Text} {s s' : LooseState} {tokens : List LooseToken}
    (made : lineTokens line fuel column rest s = (tokens, s')) (enough : rest.length < fuel)
    (clean : ∀ t ∈ tokens, t.kind ≠ .stray) :
    ∃ pieces left ending, rest = render pieces left ∧ Reads s.depth pieces left ending := by
  induction fuel generalizing column rest s tokens s' with
  | zero => cases enough
  | succ fuel ih =>
    rw [lineTokens_succ] at made
    dsimp only at made
    rw [drop_takeWhile] at made
    cases first : cut (decide (0 < s.depth)) (rest.dropWhile isInnerSpace) with
    | last ending => exact ⟨[], rest, ending, rfl, first⟩
    | stray =>
      rw [first, Cut.yield] at made
      cases rest with
      | nil => cases first
      | cons c rest =>
        cases made
        exact absurd rfl (clean _ List.mem_cons_self)
    | token kind text change =>
      obtain ⟨⟨others, body⟩, nonempty⟩ := cut_isPrefix first
      have whole := List.takeWhile_append_dropWhile (p := isInnerSpace) (l := rest)
      have visible : ∀ c ∈ text.head?, isInnerSpace c = false := by
        intro c head
        have after := List.head?_dropWhile_not isInnerSpace rest
        rw [← body, head?_append_of_ne_nil nonempty, head] at after
        simpa using after
      rw [first, Cut.yield, tokenAnd, ← body, List.drop_left] at made
      generalize following : lineTokens line fuel _ others _ = found at made
      obtain ⟨more, s''⟩ := found
      cases made
      have shorter : others.length < fuel := by
        have := List.length_pos_of_ne_nil nonempty
        rw [← whole, ← body, List.length_append, List.length_append] at enough
        omega
      obtain ⟨pieces, left, ending, rfl, reads⟩ :=
        ih following shorter fun t mem => clean t (List.mem_cons_of_mem _ mem)
      refine ⟨⟨rest.takeWhile isInnerSpace, kind, text, change⟩ :: pieces, left, ending, ?_, ?_⟩
      · rw [render, List.append_assoc, body, whole]
      · exact ⟨List.all_takeWhile, visible, body ▸ first, reads⟩

end LexGen.Code
