import LexGen.Proofs.Code.Cutting
import Mathlib.Data.List.Basic
import Mathlib.Data.List.Find

/-!
# How far tokens are looked for

Numbers, words, operators and literals are cut from the beginning of a text with a look at some of what comes behind
them. No look goes beyond a word that stands there unchanged, so a token before the first word of a statement that
returns is the same whatever is returned.

* `numberRun_before`, `literalEnd?_before`, `shortLiteral?_before`: how far the parts of tokens are looked for.
* `cut_before`: a token before the word `return`.
* `cut_returnKeyword`: that word itself.
-/

namespace LexGen.Code

/-! ## Numbers before a letter -/

section

variable {p : Char → Bool}

theorem more_cons {c : Char} (plain : c ≠ '_') (rest : Text) :
    digitRun.more p (c :: rest) = if p c then c :: digitRun.more p rest else [] := by
  rw [digitRun.more]
  exact fun _ _ low => absurd low plain

theorem more_before (no : p 'r' = false) (v v' : Text) : (a : Text) →
    digitRun.more p (a ++ 'r' :: v) = digitRun.more p (a ++ 'r' :: v') ∧
      (digitRun.more p (a ++ 'r' :: v)).length ≤ a.length
  | [] => by simp [more_cons, no]
  | [c] => by
    by_cases low : c = '_'
    · subst low
      simp [digitRun.more, no]
    · by_cases digit : p c <;> simp [more_cons, low, digit, no]
  | c :: d :: a => by
    obtain ⟨same, short⟩ := more_before no v v' a
    obtain ⟨same', short'⟩ := more_before no v v' (d :: a)
    simp only [List.cons_append] at same' short' ⊢
    by_cases low : c = '_'
    · subst low
      rw [digitRun.more, digitRun.more, ← same]
      by_cases digit : p d
      · simp [digit, short]
      · simp [digit]
    · rw [more_cons low, more_cons low, ← same']
      by_cases digit : p c
      · simpa [digit] using short'
      · simp [digit]

theorem digitRun_before (no : p 'r' = false) (v v' a : Text) :
    digitRun p (a ++ 'r' :: v) = digitRun p (a ++ 'r' :: v') ∧ (digitRun p (a ++ 'r' :: v)).length ≤ a.length := by
  cases a with
  | nil => simp [digitRun, no]
  | cons c a =>
    obtain ⟨same, short⟩ := more_before no v v' a
    rw [List.cons_append, List.cons_append, digitRun, digitRun, ← same]
    by_cases digit : p c
    · simp [digit, short]
    · simp [digit]

end

section

variable (v v' : Text)

theorem exponentRun_before (a : Text) :
    exponentRun (a ++ 'r' :: v) = exponentRun (a ++ 'r' :: v') ∧ (exponentRun (a ++ 'r' :: v)).length ≤ a.length := by
  have none (v : Text) : digitRun Char.isDigit ('r' :: v) = [] := rfl
  match a with
  | [] =>
    have no (v : Text) : exponentRun ('r' :: v) = [] := by cases v <;> rfl
    simp [no]
  | [e] => simp [exponentRun, none]
  | e :: sign :: a =>
    obtain ⟨same, short⟩ := digitRun_before (p := Char.isDigit) rfl v v' a
    obtain ⟨same', short'⟩ := digitRun_before (p := Char.isDigit) rfl v v' (sign :: a)
    simp only [List.cons_append] at same' short' ⊢
    simp only [exponentRun, ← same, ← same', true_and]
    split
    · split
      · split
        · exact Nat.zero_le _
        · simpa using short
      · split
        · exact Nat.zero_le _
        · simpa using short'
    · exact Nat.zero_le _

def floatBehind (whole : Text) : Text → Text
  | '.' :: rest =>
    let part := digitRun Char.isDigit rest
    if whole.isEmpty && part.isEmpty then []
    else whole ++ '.' :: part ++ exponentRun (rest.drop part.length)
  | rest =>
    match exponentRun rest with
    | [] => []
    | exponent => if whole.isEmpty then [] else whole ++ exponent

theorem floatRun_eq (text : Text) :
    floatRun text = floatBehind (digitRun Char.isDigit text) (text.drop (digitRun Char.isDigit text).length) := rfl

theorem floatBehind_plain (whole : Text) {rest : Text} (plain : ∀ c ∈ rest.head?, c ≠ '.') :
    floatBehind whole rest =
      match exponentRun rest with
      | [] => []
      | exponent => if whole.isEmpty then [] else whole ++ exponent := by
  rw [floatBehind]
  rintro others rfl
  exact plain '.' rfl rfl

theorem floatBehind_before (whole a : Text) :
    floatBehind whole (a ++ 'r' :: v) = floatBehind whole (a ++ 'r' :: v') ∧
      (floatBehind whole (a ++ 'r' :: v)).length ≤ whole.length + a.length := by
  by_cases point : a.head? = some '.'
  · obtain ⟨a, rfl⟩ := List.head?_eq_some_iff.1 point
    obtain ⟨same, short⟩ := digitRun_before (p := Char.isDigit) rfl v v' a
    simp only [List.cons_append, floatBehind]
    rw [← same, List.drop_append_of_le_length short, List.drop_append_of_le_length short]
    obtain ⟨same', short'⟩ := exponentRun_before v v' (a.drop (digitRun Char.isDigit (a ++ 'r' :: v)).length)
    refine ⟨by rw [same'], ?_⟩
    rw [List.length_drop] at short'
    split
    · exact Nat.zero_le _
    · simp only [List.length_append, List.length_cons]
      omega
  · have plain (v : Text) : ∀ c ∈ (a ++ 'r' :: v).head?, c ≠ '.' := by
      cases a with
      | nil => simp
      | cons c a => simpa using point
    obtain ⟨same, short⟩ := exponentRun_before v v' a
    rw [floatBehind_plain _ (plain v), floatBehind_plain _ (plain v'), ← same]
    refine ⟨rfl, ?_⟩
    split
    · exact Nat.zero_le _
    · split
      · exact Nat.zero_le _
      · simpa using short

theorem floatRun_before (a : Text) :
    floatRun (a ++ 'r' :: v) = floatRun (a ++ 'r' :: v') ∧ (floatRun (a ++ 'r' :: v)).length ≤ a.length := by
  obtain ⟨same, short⟩ := digitRun_before (p := Char.isDigit) rfl v v' a
  rw [floatRun_eq, floatRun_eq, ← same, List.drop_append_of_le_length short, List.drop_append_of_le_length short]
  obtain ⟨same', short'⟩ := floatBehind_before v v' (digitRun Char.isDigit (a ++ 'r' :: v))
    (a.drop (digitRun Char.isDigit (a ++ 'r' :: v)).length)
  rw [List.length_drop] at short'
  exact ⟨same', by omega⟩

theorem basedRun_before {letter : Char} {p : Char → Bool} (no : p 'r' = false) (other : letter ≠ 'r') (a : Text) :
    basedRun letter p (a ++ 'r' :: v) = basedRun letter p (a ++ 'r' :: v') := by
  match a with
  | [] => rfl
  | [z] =>
    by_cases zero : z = '0'
    · subst zero
      simp [basedRun, Ne.symm other]
    · simp [basedRun, zero]
  | z :: c :: a =>
    by_cases zero : z = '0'
    · subst zero
      simp only [List.cons_append, basedRun, List.drop_succ_cons, List.drop_zero]
      cases a with
      | nil =>
        have none (v : Text) : digitRun p ('r' :: v) = [] := by simp [digitRun, no]
        simp [none]
      | cons d a =>
        have same := (digitRun_before no v v' a).1
        have same' := (digitRun_before no v v' (d :: a)).1
        simp only [List.cons_append, List.head?_cons, List.drop_succ_cons, List.drop_zero] at same' ⊢
        by_cases low : d = '_' <;> simp [low, same, same']
    · simp [basedRun, zero]

theorem integerRun_before (a : Text) : integerRun (a ++ 'r' :: v) = integerRun (a ++ 'r' :: v') := by
  have head : (a ++ 'r' :: v).head? = (a ++ 'r' :: v').head? := by cases a <;> rfl
  rw [integerRun_eq, integerRun_eq, basedRun_before v v' rfl (by decide), basedRun_before v v' rfl (by decide),
    basedRun_before v v' rfl (by decide), head, (digitRun_before rfl v v' a).1, (digitRun_before rfl v v' a).1]

theorem imaginary?_before {a run : Text} (short : run.length ≤ a.length) :
    imaginary? (a ++ 'r' :: v) run = imaginary? (a ++ 'r' :: v') run := by
  unfold imaginary?
  rw [List.drop_append_of_le_length short, List.drop_append_of_le_length short]
  cases a.drop run.length <;> rfl

theorem numberRun_before (a : Text) : numberRun (a ++ 'r' :: v) = numberRun (a ++ 'r' :: v') := by
  obtain ⟨same, short⟩ := digitRun_before (p := Char.isDigit) rfl v v' a
  obtain ⟨same', short'⟩ := floatRun_before v v' a
  rw [numberRun_eq, numberRun_eq, ← same, ← same', imaginary?_before v v' short, integerRun_before v v']
  generalize floatRun (a ++ 'r' :: v) = run at short'
  cases run with
  | nil => rfl
  | cons c run =>
    dsimp only
    rw [imaginary?_before v v' short']

end

/-! ## Literals and words before a word -/

theorem numberRun_word {c : Char} (digit : c.isDigit = false) (point : c ≠ '.') (rest : Text) :
    numberRun (c :: rest) = [] := by
  have none (p : Char → Bool) (no : p c = false) : digitRun p (c :: rest) = [] := by simp [digitRun, no]
  have zero : c ≠ '0' := by
    rintro rfl
    cases digit
  have float : floatRun (c :: rest) = [] := by
    rw [floatRun_eq, none _ digit, List.length_nil, List.drop_zero, floatBehind_plain _ (by simpa using point)]
    split <;> rfl
  have based (letter : Char) (p : Char → Bool) : basedRun letter p (c :: rest) = [] := by
    cases rest <;> simp [basedRun, zero]
  have whole : imaginary? (c :: rest) [] = Option.none := rfl
  rw [numberRun_eq, none _ digit, whole, float, integerRun_eq, based, based, based]
  simp [zero, none _ digit]

theorem literalMark?_congr {x y : Text} (same : x.take 3 = y.take 3) : literalMark? x = literalMark? y := by
  refine List.find?_congr fun n mem => ?_
  have less : n < 3 := by
    simp only [List.mem_cons, List.not_mem_nil, or_false] at mem
    omega
  have taken : x.take n = y.take n := by
    rw [← min_eq_left less.le, ← List.take_take, same, List.take_take]
  have cell : (x.drop n).head? = (y.drop n).head? := by
    rw [List.head?_drop, List.head?_drop, ← List.getElem?_take_of_lt less, same, List.getElem?_take_of_lt less]
  rw [taken]
  generalize x.drop n = after at cell
  generalize y.drop n = after' at cell
  cases after <;> cases after' <;> simp_all

theorem literalMark?_lt {x : Text} {n : Nat} (marked : literalMark? x = some n) : n < 3 := by
  have mem := List.mem_of_find?_eq_some marked
  simp only [List.mem_cons, List.not_mem_nil, or_false] at mem
  omega

theorem eq_of_toLower {c d : Char} (low : c.toLower = d) : c = d ∨ c.toNat + 32 = d.toNat := by
  unfold Char.toLower at low
  split at low
  · rename_i upper
    right
    subst low
    have last : c.val.toNat ≤ 90 := upper.2
    have gap : ('a'.val - 'A'.val).toNat = 32 := rfl
    change c.val.toNat + 32 = (c.val + ('a'.val - 'A'.val)).toNat
    rw [UInt32.toNat_add, gap]
    omega
  · exact .inl low

theorem letters {c : Char} (low : c.toLower ∈ ['b', 'u', 'r', 'f']) : c ∈ ['b', 'u', 'r', 'f', 'B', 'U', 'R', 'F'] := by
  have whole := Char.ofNat_toNat c
  simp only [List.mem_cons, List.not_mem_nil, or_false] at low
  rcases low with low | low | low | low <;> rcases eq_of_toLower low with rfl | upper <;> try decide
  all_goals
    rw [← whole, Nat.eq_sub_of_add_eq upper]
    decide

theorem literalMark?_spec {x : Text} {n : Nat} (marked : literalMark? x = some n) : ∃ letters quote rest,
    x = letters ++ quote :: rest ∧ letters.length = n ∧ (quote = '\'' ∨ quote = '"') ∧
      ∀ c ∈ letters, c ∈ ['b', 'u', 'r', 'f', 'B', 'U', 'R', 'F'] := by
  have found := List.find?_some marked
  split at found
  · rename_i quote rest after
    simp only [Bool.and_eq_true, Bool.or_eq_true, decide_eq_true_eq] at found
    refine ⟨x.take n, quote, rest, ?_, ?_, found.1, ?_⟩
    · rw [← after, List.take_append_drop]
    · have inside : 0 < (x.drop n).length := by simp [after]
      rw [List.length_drop] at inside
      exact List.length_take_of_le (by omega)
    · intro c mem
      have all : ∀ mark ∈ literalMarks, mark.toList ⊆ ['b', 'u', 'r', 'f'] := by decide
      refine letters (all _ (List.contains_iff_mem.1 found.2) ?_)
      rw [String.toList_ofList]
      exact List.mem_map_of_mem mem
  · cases found

theorem startsWith_append {op a : Text} (short : op.length ≤ a.length) (v : Text) :
    Text.startsWith op (a ++ v) = Text.startsWith op a := by
  rw [Bool.eq_iff_iff, Text.startsWith_iff, Text.startsWith_iff]
  exact ⟨fun begins => List.prefix_of_prefix_length_le begins (List.prefix_append a v) short,
    fun begins => begins.trans (List.prefix_append a v)⟩

theorem find?_operator_append {a : Text} (long : 3 ≤ a.length) (v : Text) :
    looseOperators.find? (Text.startsWith · (a ++ v)) = looseOperators.find? (Text.startsWith · a) := by
  have short : ∀ op ∈ looseOperators, op.length ≤ 3 := by decide
  exact List.find?_congr fun op mem => startsWith_append ((short op mem).trans long) v

theorem find?_operator_word {c : Char} (word : Unicode.isWord c = true) (rest : Text) :
    looseOperators.find? (Text.startsWith · (c :: rest)) = none := by
  have all : ∀ op ∈ looseOperators, op ≠ [] ∧ op.head?.any Unicode.isWord = false := by decide
  refine List.find?_eq_none.2 fun op mem begins => ?_
  obtain ⟨nonempty, plain⟩ := all op mem
  obtain ⟨others, whole⟩ := Text.startsWith_iff.1 begins
  cases op with
  | nil => exact nonempty rfl
  | cons d op =>
    obtain ⟨rfl, -⟩ := List.cons.inj whole
    exact Bool.false_ne_true (plain.symm.trans word)

theorem takeWhile_before {q : Char → Bool} {c : Char} {a v : Text} (goesOn : q c = true) (v' : Text)
    (short : ((a ++ c :: v).takeWhile q).length ≤ a.length) :
    (a ++ c :: v).takeWhile q = (a ++ c :: v').takeWhile q := by
  rw [List.takeWhile_append] at short
  split at short
  · rw [List.takeWhile_cons_of_pos goesOn, List.length_append, List.length_cons] at short
    omega
  · rename_i stops
    rw [List.takeWhile_append, List.takeWhile_append, if_neg stops, if_neg stops]

theorem literalEnd?_plain {mark c : Char} (plain : c ≠ '\\') (long : Bool) (rest : Text) :
    literalEnd? mark long (c :: rest) =
      if c = mark && (!long || rest.take 2 = [mark, mark]) then
        if long then some ([mark, mark, mark], rest.drop 2) else some ([mark], rest)
      else (literalEnd? mark long rest).map fun (taken, rest) => (c :: taken, rest) := by
  rw [literalEnd?]
  · exact fun _ slash => absurd slash plain
  · exact fun _ _ slash => absurd slash plain

theorem literalEnd?_slash {mark d : Char} (other : d ≠ '\n') (long : Bool) (rest : Text) :
    literalEnd? mark long ('\\' :: d :: rest) =
      (literalEnd? mark long rest).map fun (taken, rest) => ('\\' :: d :: taken, rest) := by
  rw [literalEnd?]
  exact other

/-- Whether an end of a literal in the first characters is found in another text as well. -/
def EndsAlike (search : Text → Option (Text × Text)) (n : Nat) (x y : Text) : Prop :=
  ∀ taken rest, search x = some (taken, rest) → taken.length ≤ n → ∃ rest', search y = some (taken, rest')

theorem EndsAlike.map {search search' : Text → Option (Text × Text)} {n : Nat} {x x' y y' : Text}
    (alike : EndsAlike search n x y) (start : Text)
    (goesOn : search' x' = (search x).map fun (taken, rest) => (start ++ taken, rest))
    (goesOn' : search' y' = (search y).map fun (taken, rest) => (start ++ taken, rest)) :
    EndsAlike search' (start.length + n) x' y' := by
  intro taken rest found short
  rw [goesOn] at found
  obtain ⟨⟨more, last⟩, ends, same⟩ := Option.map_eq_some_iff.1 found
  cases same
  obtain ⟨rest', ends'⟩ := alike more _ ends (by simpa using short)
  exact ⟨rest', by rw [goesOn', ends']; rfl⟩

section

variable {mark : Char} {w : Text} (v v' : Text)

theorem take_two_before (two : 2 ≤ w.length) (b : Text) : (b ++ (w ++ v)).take 2 = (b ++ (w ++ v')).take 2 := by
  have long : 2 ≤ (b ++ w).length := two.trans (by simp)
  rw [← List.append_assoc, ← List.append_assoc, List.take_append_of_le_length long, List.take_append_of_le_length long]

theorem endsAlike_plain {long : Bool} {c : Char} (two : 2 ≤ w.length) (plain : c ≠ '\\') {b : Text}
    (alike : EndsAlike (literalEnd? mark long) b.length (b ++ (w ++ v)) (b ++ (w ++ v'))) :
    EndsAlike (literalEnd? mark long) (b.length + 1) (c :: b ++ (w ++ v)) (c :: b ++ (w ++ v')) := by
  have ahead := take_two_before v v' two b
  by_cases closes : (c = mark && (!long || (b ++ (w ++ v)).take 2 = [mark, mark])) = true
  · intro taken rest found _
    rw [List.cons_append, literalEnd?_plain plain, if_pos closes] at found
    rw [List.cons_append, literalEnd?_plain plain, ← ahead, if_pos closes]
    split at found <;> cases found <;> simp_all
  · rw [Nat.add_comm]
    refine alike.map [c] ?_ ?_
    · rw [List.cons_append, literalEnd?_plain plain, if_neg closes]
      rfl
    · rw [List.cons_append, literalEnd?_plain plain, ← ahead, if_neg closes]
      rfl

theorem literalEnd?_before {long : Bool} (two : 2 ≤ w.length) :
    (b : Text) → EndsAlike (literalEnd? mark long) b.length (b ++ (w ++ v)) (b ++ (w ++ v'))
  | [] => fun taken rest found short =>
    absurd (List.length_eq_zero_iff.1 (Nat.le_zero.1 short)) (literalEnd?_eq found).2
  | [c] => by
    by_cases slash : c = '\\'
    · obtain ⟨d, w, rfl⟩ := List.exists_cons_of_length_pos (Nat.zero_lt_of_lt two)
      intro taken rest found short
      subst slash
      by_cases feed : d = '\n'
      · subst feed
        cases found
      · simp only [List.cons_append, List.nil_append] at found
        rw [literalEnd?_slash feed] at found
        obtain ⟨⟨more, last⟩, -, same⟩ := Option.map_eq_some_iff.1 found
        cases same
        simp at short
    · exact endsAlike_plain v v' two slash (literalEnd?_before two [])
  | c :: d :: b => by
    by_cases slash : c = '\\'
    · subst slash
      by_cases feed : d = '\n'
      · subst feed
        intro taken rest found
        cases found
      · have alike : EndsAlike (literalEnd? mark long) _ _ _ := literalEnd?_before two b
        rw [show ('\\' :: d :: b).length = ['\\', d].length + b.length by simp; omega]
        exact alike.map _ (literalEnd?_slash feed long _) (literalEnd?_slash feed long _)
    · exact endsAlike_plain v v' two slash (literalEnd?_before two (d :: b))

theorem shortLiteral?_slash {d : Char} (other : d ≠ '\n') {rest : Text} (more : d = '\r' → rest ≠ ['\n']) :
    shortLiteral? mark ('\\' :: d :: rest) =
      (shortLiteral? mark rest).map fun (taken, rest) => (['\\', d] ++ taken, rest) := by
  rw [shortLiteral?]
  · rfl
  · exact fun feed => absurd feed other
  · exact more
  · exact other

theorem shortLiteral?_feed {rest : Text} (more : rest ≠ []) : shortLiteral? mark ('\\' :: '\n' :: rest) = none := by
  rw [shortLiteral?]
  exact more

theorem shortLiteral?_plain {c : Char} (plain : c ≠ '\\') (other : c ≠ '\n') (rest : Text) :
    shortLiteral? mark (c :: rest) =
      if c = mark then some ([mark], rest)
      else (shortLiteral? mark rest).map fun (taken, rest) => ([c] ++ taken, rest) := by
  rw [shortLiteral?]
  · rfl
  · exact other
  · exact fun slash => absurd slash plain
  · exact fun slash => absurd slash plain
  · exact fun _ slash => absurd slash plain
  · exact fun _ _ slash => absurd slash plain

theorem shortAlike_plain {c : Char} (plain : c ≠ '\\') {b : Text}
    (alike : EndsAlike (shortLiteral? mark) b.length (b ++ (w ++ v)) (b ++ (w ++ v'))) :
    EndsAlike (shortLiteral? mark) (b.length + 1) (c :: b ++ (w ++ v)) (c :: b ++ (w ++ v')) := by
  by_cases feed : c = '\n'
  · subst feed
    intro taken rest found
    cases found
  · by_cases closes : c = mark
    · intro taken rest found _
      rw [List.cons_append, shortLiteral?_plain plain feed, if_pos closes] at found
      cases found
      exact ⟨_, by rw [List.cons_append, shortLiteral?_plain plain feed, if_pos closes]⟩
    · rw [Nat.add_comm]
      refine alike.map [c] ?_ ?_ <;>
        rw [List.cons_append, shortLiteral?_plain plain feed, if_neg closes]

theorem shortLiteral?_before (three : 3 ≤ w.length) :
    (b : Text) → EndsAlike (shortLiteral? mark) b.length (b ++ (w ++ v)) (b ++ (w ++ v'))
  | [] => fun taken rest found short =>
    absurd (List.length_eq_zero_iff.1 (Nat.le_zero.1 short)) (shortLiteral?_eq found).2
  | [c] => by
    by_cases slash : c = '\\'
    · obtain ⟨d, w, rfl⟩ := List.exists_cons_of_length_pos (Nat.zero_lt_of_lt three)
      intro taken rest found short
      subst slash
      by_cases feed : d = '\n'
      · subst feed
        rw [List.cons_append, List.nil_append, List.cons_append, shortLiteral?_feed (by rintro same; simp_all)] at found
        cases found
      · simp only [List.cons_append, List.nil_append] at found
        have more : d = '\r' → w ++ v ≠ ['\n'] := by
          intro _ same
          have size := congrArg List.length same
          rw [List.length_append, List.length_singleton] at size
          rw [List.length_cons] at three
          omega
        rw [shortLiteral?_slash feed more] at found
        obtain ⟨⟨more, last⟩, -, same⟩ := Option.map_eq_some_iff.1 found
        cases same
        simp at short
    · exact shortAlike_plain v v' slash (shortLiteral?_before three [])
  | c :: d :: b => by
    by_cases slash : c = '\\'
    · subst slash
      by_cases feed : d = '\n'
      · subst feed
        intro taken rest found
        rw [List.cons_append, List.cons_append, shortLiteral?_feed (by rintro same; simp_all)] at found
        cases found
      · have alike := shortLiteral?_before three b
        have long (v : Text) : d = '\r' → b ++ (w ++ v) ≠ ['\n'] := by
          intro _ same
          have size := congrArg List.length same
          rw [List.length_append, List.length_append, List.length_singleton] at size
          omega
        rw [show ('\\' :: d :: b).length = ['\\', d].length + b.length by simp; omega]
        exact alike.map _ (shortLiteral?_slash feed (long v)) (shortLiteral?_slash feed (long v'))
    · exact shortAlike_plain v v' slash (shortLiteral?_before three (d :: b))

end

/-! ## What is cut before a statement that returns -/

def returnKeyword : Text := "return".toList

section

variable {x text : Text} {kind : LooseKind} {change : Int} (v v' : Text)

theorem numberRun_returnKeyword : numberRun (x ++ (returnKeyword ++ v)) = numberRun (x ++ (returnKeyword ++ v')) :=
  numberRun_before ("eturn".toList ++ v) ("eturn".toList ++ v') x

theorem find?_operator_returnKeyword :
    looseOperators.find? (Text.startsWith · (x ++ (returnKeyword ++ v))) =
      looseOperators.find? (Text.startsWith · (x ++ (returnKeyword ++ v'))) := by
  have long : 3 ≤ (x ++ returnKeyword).length := by simp [returnKeyword]
  rw [← List.append_assoc, ← List.append_assoc, find?_operator_append long, find?_operator_append long]

theorem cutWord_before {c : Char} (found : cutWord c (x ++ (returnKeyword ++ v)) = .token kind text change)
    (short : text.length ≤ x.length) : cutWord c (x ++ (returnKeyword ++ v')) = .token kind text change := by
  unfold cutWord at found ⊢
  rw [← numberRun_returnKeyword v v', ← find?_operator_returnKeyword v v']
  split at found
  · split at found
    · exact found
    · split at found
      · rename_i word
        cases found
        have whole (v : Text) : returnKeyword ++ v = 'r' :: ("eturn".toList ++ v) := rfl
        rw [whole] at short ⊢
        rw [if_pos word, whole, takeWhile_before (by decide) _ short]
      · cases found
  · exact found

end

theorem literalMark?_quote {quote : Char} (mark : quote = '\'' ∨ quote = '"') (rest : Text) :
    literalMark? (quote :: rest) = some 0 := by
  rcases mark with rfl | rfl <;> simp [literalMark?, literalMarks]

def cutLiteral (c : Char) (letters : Text) (quote : Char) (rest : Text) : Cut :=
  if rest.take 2 = [quote, quote] then
    match literalEnd? quote true (rest.drop 2) with
    | some (taken, _) => .token .literal (letters ++ [quote] ++ [quote, quote] ++ taken) 0
    | none => .last (.opens quote true (letters ++ quote :: rest))
  else match shortLiteral? quote rest with
    | some (taken, _) =>
      if taken.getLast? = some '\n' then .last (.opens quote false (letters ++ [quote] ++ taken))
      else .token .literal (letters ++ [quote] ++ taken) 0
    | none => if letters.length = 0 then .stray else cutWord c (letters ++ quote :: rest)

theorem cutText_marked (c : Char) {letters rest : Text} {quote : Char}
    (marked : literalMark? (letters ++ quote :: rest) = some letters.length) :
    cutText c (letters ++ quote :: rest) = cutLiteral c letters quote rest := by
  have opening : (letters ++ quote :: rest).take (letters.length + 1) = letters ++ [quote] := by
    rw [List.take_length_add_append]
    rfl
  have after : (letters ++ quote :: rest).drop (letters.length + 1) = rest := by
    rw [List.drop_length_add_append]
    rfl
  rw [cutText, marked]
  dsimp only
  rw [opening, after, List.getLast?_append_of_ne_nil _ (List.cons_ne_nil _ _)]
  rfl

theorem cut_hanging {c quote : Char} {letters rest text : Text} {kind : LooseKind} {change : Int}
    (begins : letters.head? = some c) (quotes : quote = '\'' ∨ quote = '"')
    (all : ∀ d ∈ letters, d ∈ ['b', 'u', 'r', 'f', 'B', 'U', 'R', 'F']) (short : rest.take 2 ≠ [quote, quote])
    (isOpen : shortLiteral? quote rest = none)
    (found : cutWord c (letters ++ quote :: rest) = .token kind text change) (inner : Bool) :
    cut inner (((letters ++ quote :: rest).drop text.length).dropWhile isInnerSpace) = .stray := by
  have word : ∀ d ∈ letters, Unicode.isWord d = true := by
    have words : ∀ d ∈ ['b', 'u', 'r', 'f', 'B', 'U', 'R', 'F'], Unicode.isWord d = true :=
      List.forall_iff_forall_mem.1 (by decide)
    exact fun d mem => words d (all d mem)
  have ends : Unicode.isWord quote = false := by rcases quotes with rfl | rfl <;> decide
  have taken : text = letters := by
    have mem := List.mem_of_head? begins
    have plain : ∀ c ∈ ['b', 'u', 'r', 'f', 'B', 'U', 'R', 'F'], c.isDigit = false ∧ c ≠ '.' :=
      List.forall_iff_forall_mem.1 (by decide)
    have isWord := word c mem
    obtain ⟨others, rfl⟩ := List.head?_eq_some_iff.1 begins
    rw [List.cons_append] at found
    rw [cutWord, numberRun_word (plain c (all c mem)).1 (plain c (all c mem)).2, find?_operator_word isWord,
      ← List.cons_append, List.takeWhile_append_of_pos word, List.takeWhile_cons_of_neg (by simp [ends])] at found
    simp only [isWord, if_true] at found
    cases found
    simp
  have visible : isInnerSpace quote = false := by rcases quotes with rfl | rfl <;> rfl
  have first : cut inner (quote :: rest) = cutText quote (quote :: rest) := by rcases quotes with rfl | rfl <;> rfl
  have marked : literalMark? ([] ++ quote :: rest) = some ([] : Text).length := literalMark?_quote quotes rest
  have literal : cutText quote (quote :: rest) = cutLiteral quote [] quote rest := cutText_marked quote marked
  rw [taken, List.drop_left, List.dropWhile_cons_of_neg (by simp [visible]), first, literal, cutLiteral]
  simp [short, isOpen]

theorem cut_eq_cutText {inner : Bool} {c : Char} {body : Text} (noComment : c ≠ '#') (long : 3 ≤ body.length) :
    cut inner (c :: body) = cutText c (c :: body) := by
  rw [cut]
  · rintro rfl rfl
    simp at long
  · rintro rfl rfl
    simp at long
  · rintro rfl rfl
    simp at long
  · rintro rfl rfl
    simp at long
  · exact noComment

section

variable {x text : Text} {kind : LooseKind} {change : Int} (v v' : Text)

theorem drop_before {n : Nat} (inside : n ≤ x.length) (v : Text) :
    (x ++ (returnKeyword ++ v)).drop n = x.drop n ++ (returnKeyword ++ v) := List.drop_append_of_le_length inside

theorem literalMark?_inside {n : Nat} (nonempty : x ≠ []) (marked : literalMark? (x ++ (returnKeyword ++ v)) = some n) :
    n + 1 ≤ x.length := by
  obtain ⟨letters, quote, rest, whole, rfl, quotes, -⟩ := literalMark?_spec marked
  have less := literalMark?_lt marked
  by_contra beyond
  have here : (x ++ (returnKeyword ++ v))[letters.length]? = some quote := by
    rw [whole, List.getElem?_append_right (Nat.le_refl _), Nat.sub_self]
    rfl
  have size : 0 < x.length := List.length_pos_of_ne_nil nonempty
  have inWord : letters.length - x.length < returnKeyword.length := by
    change _ < 6
    omega
  rw [List.getElem?_append_right (by omega), List.getElem?_append_left inWord] at here
  have mem : quote ∈ returnKeyword := List.mem_of_getElem? here
  rcases quotes with rfl | rfl <;> revert mem <;> decide

theorem cutLiteral_before {c quote : Char} {letters : Text} (begins : (letters ++ [quote]).head? = some c)
    (quotes : quote = '\'' ∨ quote = '"') (all : ∀ d ∈ letters, d ∈ ['b', 'u', 'r', 'f', 'B', 'U', 'R', 'F'])
    (found : cutLiteral c letters quote (x ++ (returnKeyword ++ v)) = .token kind text change)
    (short : text.length ≤ (letters ++ quote :: x).length) {inner : Bool}
    (next : cut inner (((letters ++ quote :: (x ++ (returnKeyword ++ v))).drop text.length).dropWhile isInnerSpace) ≠
      .stray) :
    cutLiteral c letters quote (x ++ (returnKeyword ++ v')) = .token kind text change := by
  unfold cutLiteral at found ⊢
  rw [← take_two_before v v' (by decide)]
  rw [List.length_append, List.length_cons] at short
  split at found
  · rename_i long
    rw [if_pos long]
    cases ends? : literalEnd? quote true ((x ++ (returnKeyword ++ v)).drop 2) with
    | some ends =>
      rw [ends?] at found
      cases found
      have within : 2 + ends.1.length ≤ x.length := by
        simp only [List.length_append, List.length_cons, List.length_nil] at short
        omega
      rw [drop_before (Nat.le_of_add_right_le within)] at ends? ⊢
      obtain ⟨rest, ends'⟩ := literalEnd?_before v v' (by decide) _ ends.1 ends.2 ends?
        (by rw [List.length_drop]; omega)
      rw [ends']
    | none =>
      rw [ends?] at found
      cases found
  · rename_i plain
    rw [if_neg plain]
    cases open? : shortLiteral? quote (x ++ (returnKeyword ++ v)) with
    | some ends =>
      rw [open?] at found
      dsimp only at found
      split at found
      · cases found
      · rename_i closed
        cases found
        have within : ends.1.length ≤ x.length := by
          simp only [List.length_append, List.length_cons, List.length_nil] at short
          omega
        obtain ⟨rest, ends'⟩ := shortLiteral?_before v v' (by decide) _ ends.1 ends.2 open? within
        rw [ends']
        simp [closed]
    | none =>
      rw [open?] at found
      dsimp only at found
      split at found
      · cases found
      · rename_i some
        have begins : letters.head? = Option.some c := by
          cases letters with
          | nil => exact absurd rfl some
          | cons d letters => exact begins
        exact absurd (cut_hanging begins quotes all plain open? found inner) next

theorem cutText_before {c : Char} (begins : x.head? = some c)
    (found : cutText c (x ++ (returnKeyword ++ v)) = .token kind text change) (short : text.length ≤ x.length)
    {inner : Bool}
    (next : cut inner (((x ++ (returnKeyword ++ v)).drop text.length).dropWhile isInnerSpace) ≠ .stray) :
    cutText c (x ++ (returnKeyword ++ v')) = .token kind text change := by
  have nonempty : x ≠ [] := by
    rintro rfl
    cases begins
  have marks : literalMark? (x ++ (returnKeyword ++ v)) = literalMark? (x ++ (returnKeyword ++ v')) := by
    refine literalMark?_congr ?_
    have long : 3 ≤ (x ++ returnKeyword).length := by simp [returnKeyword]
    rw [← List.append_assoc, ← List.append_assoc, List.take_append_of_le_length long,
      List.take_append_of_le_length long]
  cases marked : literalMark? (x ++ (returnKeyword ++ v)) with
  | none =>
    rw [cutText, marked] at found
    rw [cutText, ← marks, marked]
    obtain ⟨x', rfl⟩ := List.head?_eq_some_iff.1 begins
    exact cutWord_before v v' found short
  | some n =>
    obtain ⟨letters, quote, rest, whole, rfl, quotes, all⟩ := literalMark?_spec marked
    -- The quotation mark stands before the word.
    obtain ⟨y, rfl⟩ : letters ++ [quote] <+: x := by
      refine List.prefix_of_prefix_length_le ⟨rest, ?_⟩ ⟨returnKeyword ++ v, rfl⟩ ?_
      · rw [whole, List.append_assoc]
        rfl
      · rw [List.length_append]
        exact literalMark?_inside v nonempty marked
    have split (v : Text) : letters ++ [quote] ++ y ++ (returnKeyword ++ v) =
        letters ++ quote :: (y ++ (returnKeyword ++ v)) := by simp
    rw [split] at found marked next
    rw [cutText_marked c marked] at found
    rw [split, split] at marks
    rw [split, cutText_marked c (marks ▸ marked)]
    refine cutLiteral_before v v' ?_ quotes all found (by simpa using short) next
    rwa [head?_append_of_ne_nil (by simp)] at begins

/-- What is cut before a statement that returns stays the same, whatever comes behind its first word. -/
theorem cut_before {inner inner' : Bool} (found : cut inner (x ++ (returnKeyword ++ v)) = .token kind text change)
    (short : text.length ≤ x.length)
    (next : cut inner' (((x ++ (returnKeyword ++ v)).drop text.length).dropWhile isInnerSpace) ≠ .stray) :
    cut inner (x ++ (returnKeyword ++ v')) = .token kind text change := by
  have nonempty : x ≠ [] := by
    rintro rfl
    exact (cut_isPrefix found).2 (List.length_eq_zero_iff.1 (Nat.le_zero.1 short))
  obtain ⟨c, x', rfl⟩ := List.exists_cons_of_ne_nil nonempty
  by_cases comment : c = '#'
  · subst comment
    have whole (v : Text) : cut inner ('#' :: x' ++ (returnKeyword ++ v)) =
      .token .comment (('#' :: x' ++ 'r' :: ("eturn".toList ++ v)).takeWhile fun c => c != '\r' && c != '\n') 0 := rfl
    rw [whole] at found ⊢
    cases found
    rw [← takeWhile_before (by decide) _ short]
  · have long (v : Text) : 3 ≤ (x' ++ (returnKeyword ++ v)).length := by
      simp [returnKeyword]
      omega
    have first (v : Text) : cut inner (c :: x' ++ (returnKeyword ++ v)) = cutText c (c :: x' ++ (returnKeyword ++ v)) :=
      cut_eq_cutText comment (long v)
    rw [first] at found ⊢
    exact cutText_before v v' rfl found short next

theorem cut_returnKeyword {inner : Bool} (stops : ∀ c ∈ v.head?, Unicode.isWord c = false) :
    cut inner (returnKeyword ++ v) = .token .name returnKeyword 0 := by
  have first : cut inner (returnKeyword ++ v) = cutText 'r' (returnKeyword ++ v) :=
    cut_eq_cutText (by decide) (by simp)
  have unmarked : literalMark? (returnKeyword ++ v) = none := by
    have same : literalMark? (returnKeyword ++ v) = literalMark? returnKeyword :=
      literalMark?_congr (List.take_append_of_le_length (by decide))
    rw [same]
    decide
  have number : numberRun (returnKeyword ++ v) = [] := numberRun_word (by decide) (by decide) _
  have operator : looseOperators.find? (Text.startsWith · (returnKeyword ++ v)) = none :=
    find?_operator_word (by decide) _
  have word : (returnKeyword ++ v).takeWhile Unicode.isWord = returnKeyword := by
    rw [List.takeWhile_append_of_pos (List.forall_iff_forall_mem.1 (by decide))]
    cases v with
    | nil => rfl
    | cons c v => rw [List.takeWhile_cons_of_neg (by simp [stops c rfl]), List.append_nil]
  rw [first, cutText, unmarked, cutWord, number, operator, word]
  rfl

end

end LexGen.Code
