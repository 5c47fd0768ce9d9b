import LexGen.Proofs.Code.PutTexts

/-!
# Exchanging tokens

Tokens of a line can be exchanged for other texts where the neighbours do not run together with them: behind the word
`return`, in front of the end of a statement.

* `Exchangeable`: where other texts are put in.
* `cut_exchange`: a token that stays is cut as before.
* `Reads.exchange`: the line is cut into the same tokens but for those that are exchanged.
-/

namespace LexGen.Code

/-! ## Where it is put in -/

abbrev Exchange := SpacedToken × Option Put

def exchanged : Exchange → List SpacedToken
  | (p, none) => [p]
  | (p, some put) => pieces p.space put.tokens

def EndsStatement (kind : LooseKind) (text : Text) : Prop :=
  kind = .lineEnd ∨ kind = .comment ∨ kind = .codeEnd ∨ text = [';']

/-- An exchange that is no more than that of literals between the word `return` and the end of the statement. A word
that is put in stands apart from the word before. -/
def Exchangeable (ending : Ending) : List Exchange → Prop
  | [] => True
  | (p, put?) :: es =>
    (put?.isSome → p.kind = .literal ∧ (∀ c ∈ p.text.head?, Unicode.isWord c = false) ∧
      (∀ e ∈ es.head?, EndsStatement e.1.kind e.1.text) ∧
      (es = [] → ∀ mark long taken, ending ≠ .opens mark long taken)) ∧
    (∀ e ∈ es.head?, ∀ put ∈ e.2, p.kind = .name ∧ p.text = returnKeyword ∧
      (e.1.space = [] → ∀ c ∈ put.text.head?, Unicode.isWord c = false)) ∧
    Exchangeable ending es

theorem cutText_token {c : Char} {body text : Text} {kind : LooseKind} {change : Int}
    (found : cutText c body = .token kind text change) :
    kind ∈ [.literal, .number, .operator, .name] ∧ (kind ≠ .operator → change = 0) := by
  have word (found : cutWord c body = .token kind text change) :
      kind ∈ [.literal, .number, .operator, .name] ∧ (kind ≠ .operator → change = 0) := by
    unfold cutWord at found
    split at found
    · split at found
      · cases found
        exact ⟨by decide, fun other => absurd rfl other⟩
      · split at found
        · cases found
          refine ⟨?_, fun _ => rfl⟩
          split <;> decide
        · cases found
    · cases found
      exact ⟨by decide, fun _ => rfl⟩
  unfold cutText at found
  split at found
  · dsimp only at found
    split at found
    · split at found <;> cases found
      exact ⟨by decide, fun _ => rfl⟩
    · split at found
      · split at found <;> cases found
        exact ⟨by decide, fun _ => rfl⟩
      · split at found
        · cases found
        · exact word found
  · exact word found

theorem cutWord_ne_last {c : Char} {body : Text} {ending : Ending} : cutWord c body ≠ .last ending := by
  intro found
  unfold cutWord at found
  split at found
  · split at found
    · cases found
    · split at found <;> cases found
  · cases found

theorem cutText_last {c : Char} {body : Text} {ending : Ending} (found : cutText c body = .last ending) :
    ∃ mark long taken, ending = .opens mark long taken := by
  unfold cutText at found
  split at found
  · dsimp only at found
    split at found
    · split at found <;> cases found
      exact ⟨_, _, _, rfl⟩
    · split at found
      · split at found <;> cases found
        exact ⟨_, _, _, rfl⟩
      · split at found
        · cases found
        · exact absurd found cutWord_ne_last
  · exact absurd found cutWord_ne_last

theorem cut_change {inner : Bool} {body text : Text} {kind : LooseKind} {change : Int}
    (found : cut inner body = .token kind text change) (other : kind ≠ .operator) : change = 0 := by
  unfold cut at found
  split at found
  case h_1 | h_2 | h_3 => cases found
  case h_4 | h_5 | h_6 =>
    cases found
    rfl
  case h_7 => exact (cutText_token found).2 other

theorem cut_ends {inner : Bool} {body text : Text} {kind : LooseKind} {change : Int}
    (found : cut inner body = .token kind text change) (ends : EndsStatement kind text) : Parted text := by
  unfold cut at found
  split at found
  case h_1 | h_2 | h_3 => cases found
  case h_4 | h_5 =>
    cases found
    rintro c ⟨⟩
    decide
  case h_6 =>
    cases found
    rintro c ⟨⟩
    decide
  case h_7 =>
    have among := (cutText_token found).1
    rcases ends with rfl | rfl | rfl | rfl
    · exact absurd among (by decide)
    · exact absurd among (by decide)
    · exact absurd among (by decide)
    · rintro c ⟨⟩
      decide

/-! ## The exchange -/

theorem Parted.space {space : Text} (inner : space.all isInnerSpace) {text : Text} (parted : Parted text) :
    Parted (space ++ text) := by
  cases space with
  | nil => exact parted
  | cons c space =>
    rintro d ⟨⟩
    have inner := List.all_eq_true.1 inner c List.mem_cons_self
    simp only [isInnerSpace, Bool.or_eq_true, beq_iff_eq] at inner
    rcases inner with (rfl | rfl) | rfl <;> decide

theorem Parted.append {text : Text} (nonempty : text ≠ []) (parted : Parted text) (rest : Text) :
    Parted (text ++ rest) := by
  intro c head
  rw [head?_append_of_ne_nil nonempty] at head
  exact parted c head

theorem parted_left {inner : Bool} {left : Text} {ending : Ending}
    (last : cut inner (left.dropWhile isInnerSpace) = .last ending)
    (closed : ∀ mark long taken, ending ≠ .opens mark long taken) : Parted left := by
  rw [← List.takeWhile_append_dropWhile (p := isInnerSpace) (l := left)]
  refine Parted.space List.all_takeWhile ?_
  generalize left.dropWhile isInnerSpace = body at last
  unfold cut at last
  split at last
  case h_1 =>
    rintro c ⟨⟩
  case h_2 | h_3 =>
    rintro c ⟨⟩
    decide
  case h_4 | h_5 | h_6 => cases last
  case h_7 =>
    obtain ⟨mark, long, taken, rfl⟩ := cutText_last last
    exact absurd rfl (closed mark long taken)

variable {ending : Ending} {left : Text}

theorem parted_exchanged {p : SpacedToken} {put : Put} {es : List Exchange} {depth : Int}
    (reads : Reads depth (es.map Prod.fst) left ending) (fits : Exchangeable ending ((p, some put) :: es)) :
    Parted (render (es.flatMap exchanged) left) := by
  obtain ⟨chosen, following, fits⟩ := fits
  obtain ⟨literal, -, ends, closed⟩ := chosen rfl
  cases es with
  | nil => exact parted_left reads (closed rfl)
  | cons e es =>
    obtain ⟨q, put?⟩ := e
    obtain rfl : put? = none := by
      cases put? with
      | none => rfl
      | some put =>
        have name := (following _ rfl put rfl).1
        rw [literal] at name
        cases name
    obtain ⟨inner, -, found, -⟩ := reads
    have parted := cut_ends found (ends _ rfl)
    have nonempty := (cut_isPrefix found).2
    change Parted (q.space ++ q.text ++ render (es.flatMap exchanged) left)
    rw [List.append_assoc]
    exact (parted.append nonempty _).space inner

theorem exchanged_of_none {es : List Exchange} (none : ∀ e ∈ es, e.2 = none) :
    es.flatMap exchanged = es.map Prod.fst := by
  induction es with
  | nil => rfl
  | cons e es ih =>
    obtain ⟨p, put?⟩ := e
    obtain rfl : put? = .none := none _ List.mem_cons_self
    rw [List.flatMap_cons, List.map_cons, ih fun e mem => none e (List.mem_cons_of_mem _ mem)]
    rfl

/-- Before what is put in there is the word `return`, and the text before it stays as it is. -/
theorem exists_returnKeyword (left : Text) {es : List Exchange} (fits : Exchangeable ending es)
    (first : ∀ e ∈ es.head?, e.2 = none) (some : ∃ e ∈ es, e.2 ≠ none) :
    ∃ x v v', render (es.map Prod.fst) left = x ++ (returnKeyword ++ v) ∧
      render (es.flatMap exchanged) left = x ++ (returnKeyword ++ v') := by
  induction es with
  | nil =>
    obtain ⟨e, mem, -⟩ := some
    cases mem
  | cons e es ih =>
    obtain ⟨p, put?⟩ := e
    obtain rfl : put? = none := first _ rfl
    by_cases next : ∀ e ∈ es.head?, e.2 = none
    · have some : ∃ e ∈ es, e.2 ≠ none := by
        obtain ⟨e, mem, chosen⟩ := some
        rcases List.mem_cons.1 mem with rfl | mem
        · exact absurd rfl chosen
        · exact ⟨e, mem, chosen⟩
      obtain ⟨x, v, v', before, after⟩ := ih fits.2.2 next some
      refine ⟨p.space ++ p.text ++ x, v, v', ?_, ?_⟩
      · change p.space ++ p.text ++ render (es.map Prod.fst) left = _
        rw [before, List.append_assoc _ x]
      · change p.space ++ p.text ++ render (es.flatMap exchanged) left = _
        rw [after, List.append_assoc _ x]
    · push Not at next
      obtain ⟨e, head, chosen⟩ := next
      obtain ⟨put, isPut⟩ := Option.ne_none_iff_exists'.1 chosen
      obtain ⟨-, isReturn, -⟩ := fits.2.1 e head put isPut
      refine ⟨p.space, render (es.map Prod.fst) left, render (es.flatMap exchanged) left, ?_, ?_⟩
      · change p.space ++ p.text ++ render (es.map Prod.fst) left = _
        rw [isReturn, List.append_assoc]
      · change p.space ++ p.text ++ render (es.flatMap exchanged) left = _
        rw [isReturn, List.append_assoc]

theorem dropWhile_space {space text : Text} (inner : space.all isInnerSpace)
    (visible : ∀ c ∈ text.head?, isInnerSpace c = false) : (space ++ text).dropWhile isInnerSpace = text := by
  rw [← drop_takeWhile, takeWhile_space inner visible, List.drop_left]

theorem Reads.next {depth : Int} {ps : List SpacedToken} (reads : Reads depth ps left ending) :
    cut (decide (0 < depth)) ((render ps left).dropWhile isInnerSpace) ≠ .stray := by
  cases ps with
  | nil =>
    rw [render, show cut _ _ = _ from reads]
    exact fun same => Cut.noConfusion same
  | cons p ps =>
    obtain ⟨inner, visible, found, -⟩ := reads
    have nonempty := (cut_isPrefix found).2
    rw [render, List.append_assoc, dropWhile_space inner (by rwa [head?_append_of_ne_nil nonempty]), found]
    exact fun same => Cut.noConfusion same

theorem not_word_of_space {space text : Text} (inner : space.all isInnerSpace)
    (stops : space = [] → ∀ c ∈ text.head?, Unicode.isWord c = false) :
    ∀ c ∈ (space ++ text).head?, Unicode.isWord c = false := by
  cases space with
  | nil => exact stops rfl
  | cons c space =>
    rintro d ⟨⟩
    have inner := List.all_eq_true.1 inner c List.mem_cons_self
    simp only [isInnerSpace, Bool.or_eq_true, beq_iff_eq] at inner
    rcases inner with (rfl | rfl) | rfl <;> decide

theorem cut_exchange {p : SpacedToken} {es : List Exchange} {inner : Bool} {depth : Int}
    (found : cut inner (p.text ++ render (es.map Prod.fst) left) = .token p.kind p.text p.change)
    (others : Reads depth (es.map Prod.fst) left ending) (fits : Exchangeable ending ((p, none) :: es)) :
    cut inner (p.text ++ render (es.flatMap exchanged) left) = .token p.kind p.text p.change := by
  by_cases same : ∀ e ∈ es, e.2 = none
  · rwa [exchanged_of_none same]
  · push Not at same
    by_cases first : ∀ e ∈ es.head?, e.2 = none
    · -- The word `return` comes later, and all up to it stays.
      obtain ⟨x, v, v', before, after⟩ := exists_returnKeyword left fits.2.2 first same
      have next := others.next
      rw [before] at found next
      rw [after]
      have next : cut (decide (0 < depth))
          (((p.text ++ x ++ (returnKeyword ++ v)).drop p.text.length).dropWhile isInnerSpace) ≠ .stray := by
        rwa [List.append_assoc, List.drop_left]
      rw [← List.append_assoc] at found ⊢
      exact cut_before v v' found (by simp) next
    · -- The token is the word `return` itself.
      push Not at first
      obtain ⟨⟨q, put?⟩, head, chosen⟩ := first
      obtain ⟨put, rfl⟩ := Option.ne_none_iff_exists'.1 chosen
      obtain ⟨es, rfl⟩ := List.head?_eq_some_iff.1 head
      obtain ⟨isName, isReturn, apart⟩ := fits.2.1 _ rfl put rfl
      obtain ⟨-, plain, -⟩ := fits.2.2.1 rfl
      obtain ⟨spaced, -, next, -⟩ := others
      have begins := head?_append_of_ne_nil (cut_isPrefix next).2
      have ends : ∀ c ∈ (render (((q, some put) :: es).map Prod.fst) left).head?, Unicode.isWord c = false := by
        change ∀ c ∈ (q.space ++ q.text ++ render (es.map Prod.fst) left).head?, _
        rw [List.append_assoc]
        exact not_word_of_space spaced fun _ => by rwa [begins]
      have ends' : ∀ c ∈ (render (((q, some put) :: es).flatMap exchanged) left).head?, Unicode.isWord c = false := by
        rw [List.flatMap_cons, exchanged, render_pieces put.stands, List.append_assoc]
        obtain ⟨c, rest, written, -⟩ := put.stands.solid.begins
        refine not_word_of_space spaced fun none => ?_
        rw [written] at apart ⊢
        exact apart none
      have before : cut inner _ = _ := cut_returnKeyword _ ends
      rw [← isReturn, found, isName] at before
      obtain ⟨-, -, unchanged⟩ := Cut.token.inj before
      rw [isName, isReturn, cut_returnKeyword _ ends', unchanged]

/-- A line after an exchange is cut into the tokens that stay and those that are put in. -/
theorem Reads.exchange {es : List Exchange} {depth : Int} (reads : Reads depth (es.map Prod.fst) left ending)
    (fits : Exchangeable ending es) : Reads depth (es.flatMap exchanged) left ending := by
  induction es generalizing depth with
  | nil => exact reads
  | cons e es ih =>
    obtain ⟨p, put?⟩ := e
    obtain ⟨inner, visible, found, others⟩ := reads
    have rest := ih others fits.2.2
    cases put? with
    | some put =>
      have unchanged : p.change = 0 := by
        refine cut_change found ?_
        rw [(fits.1 rfl).1]
        decide
      rw [unchanged, Int.add_zero] at rest others
      exact reads_pieces put.stands inner (parted_exchanged others fits) rest
    | none => exact ⟨inner, visible, cut_exchange found others fits, rest⟩

end LexGen.Code
