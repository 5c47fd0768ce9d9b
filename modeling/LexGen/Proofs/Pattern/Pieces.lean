import LexGen.Proofs.Pattern.Beside

/-!
# Patterns with the groups of macros

A pattern in which macros have been expanded is a row of pieces: the units of its text, and the parentheses that open
the groups of the macros. Such a group captures what it matches. With other parentheses it does not, and then the groups
of the rule have the numbers that they have where the rule is written.

* `captured` and `spared`: the text of the pattern, and the text in which the groups of macros capture nothing.
* `fit`: every group of a macro stands where a group can begin, and references by number are to groups before the first
  of them.
-/

namespace LexGen.Pattern

/-! ## Pieces -/

/-- A piece of a pattern in which macros have been expanded. -/
inductive Piece where
  | plain (c : Char) (ordinary : c ≠ '\\')
  | escaped (c : Char)
  | opening
  deriving DecidableEq

namespace Piece

def unit : Piece → Text
  | plain c _ => [c]
  | escaped c => ['\\', c]
  | opening => ['(']

def sparing : Piece → Text
  | plain c _ => [c]
  | escaped c => ['\\', c]
  | opening => ['(', '?', ':']

abbrev question : Piece := .plain '?' (by decide)

abbrev parenthesis : Piece := .plain '(' (by decide)

abbrev closing : Piece := .plain ')' (by decide)

end Piece

def captured (ps : List Piece) : Text := ps.flatMap Piece.unit

def spared (ps : List Piece) : Text := ps.flatMap Piece.sparing

@[simp] theorem captured_nil : captured [] = [] := rfl

@[simp] theorem spared_nil : spared [] = [] := rfl

@[simp] theorem captured_cons (p : Piece) (ps : List Piece) : captured (p :: ps) = p.unit ++ captured ps := rfl

@[simp] theorem spared_cons (p : Piece) (ps : List Piece) : spared (p :: ps) = p.sparing ++ spared ps := rfl

@[simp] theorem captured_append (ps qs : List Piece) : captured (ps ++ qs) = captured ps ++ captured qs :=
  List.flatMap_append

@[simp] theorem spared_append (ps qs : List Piece) : spared (ps ++ qs) = spared ps ++ spared qs :=
  List.flatMap_append

theorem unit?_append_of_piece (p : Piece) (rest : Text) : unit? (p.unit ++ rest) = some p.unit := by
  cases p with
  | plain c ordinary => exact unit?_cons_of_ne ordinary rest
  | escaped c => rfl
  | opening => rfl

theorem Piece.eq_plain_of_unit {p : Piece} {c : Char} (same : p.unit = [c]) (ordinary : c ≠ '\\') (other : c ≠ '(') :
    p = .plain c ordinary := by
  cases p with
  | plain d ordinary =>
    obtain rfl : d = c := (List.cons.inj same).1
    rfl
  | escaped d => cases same
  | opening => exact absurd (List.cons.inj same).1.symm other

theorem Piece.plain_ne_opening {c : Char} (ordinary : c ≠ '\\') : Piece.plain c ordinary ≠ .opening := nofun

theorem sparing_eq_unit {p : Piece} (other : p ≠ .opening) : p.sparing = p.unit := by
  cases p with
  | plain => rfl
  | escaped => rfl
  | opening => exact absurd rfl other

theorem captured_ne (ps : List Piece) : captured ps ≠ ['\\'] := by
  intro same
  cases ps with
  | nil => cases same
  | cons p ps =>
    cases p with
    | plain c ordinary => exact ordinary (List.cons.inj same).1
    | escaped c => cases (List.cons.inj same).2
    | opening => cases same

theorem spared_ne (ps : List Piece) : spared ps ≠ ['\\'] := by
  intro same
  cases ps with
  | nil => cases same
  | cons p ps =>
    cases p with
    | plain c ordinary => exact ordinary (List.cons.inj same).1
    | escaped c => cases (List.cons.inj same).2
    | opening => cases same

theorem length_le_captured (ps : List Piece) : ps.length ≤ (captured ps).length := by
  induction ps with
  | nil => exact Nat.le_refl _
  | cons p ps ih =>
    have nonempty : 1 ≤ p.unit.length := by cases p <;> simp [Piece.unit]
    rw [captured_cons, List.length_append, List.length_cons]
    omega

theorem captured_le_spared (ps : List Piece) : (captured ps).length ≤ (spared ps).length := by
  induction ps with
  | nil => exact Nat.le_refl _
  | cons p ps ih =>
    have longer : p.unit.length ≤ p.sparing.length := by cases p <;> simp [Piece.unit, Piece.sparing]
    rw [captured_cons, spared_cons, List.length_append, List.length_append]
    omega

/-! ## Where groups of macros stand -/

/-- A set, after its opening bracket, ends before the next group of a macro. `first` tells whether nothing has been read
of the set; a closing bracket there is a member of it. -/
def closes : (first : Bool) → List Piece → Bool
  | _, [] => true
  | _, .opening :: _ => false
  | _, .escaped _ :: more => closes false more
  | first, .plain c _ :: more =>
    if c = ']' then !first || closes false more
    else closes (first && c == '^') more

/-- The groups that are counted from an opening parenthesis on, where `n` are after it. -/
def leadAfter (ps : List Piece) (n : Nat) : Nat :=
  if ps[0]? = some .question then if ps[1]? = some .parenthesis then 0 else n
  else n + 1

mutual

/-- A number of groups that are opened before the first group of a macro. It may be too low: named groups are not
counted, nor those after a number sign, a comment, a condition, or a set with a bracket or a parenthesis in it. -/
def lead : List Piece → Nat
  | [] => 0
  | .opening :: _ => 0
  | .escaped _ :: more => lead more
  | .plain c _ :: more =>
    if c = '#' then 0
    else if c = '[' then leadInSet true more
    else if c = '(' then leadAfter more (lead more)
    else lead more

def leadInSet : (first : Bool) → List Piece → Nat
  | _, [] => 0
  | _, .opening :: _ => 0
  | _, .escaped _ :: more => leadInSet false more
  | first, .plain c _ :: more =>
    if c = '#' || c = '[' || c = '(' then 0
    else if c = ']' then if first then leadInSet false more else lead more
    else leadInSet (first && c == '^') more

end

def secondDigit : List Piece → Text
  | .plain c _ :: _ => if c.isDigit then [c] else []
  | _ => []

/-- A special group is right: no group of a macro is taken for what tells its kind, and a condition is on a group by
name. -/
def fitsSpecial (more : List Piece) : Bool :=
  more[1]? ≠ some .opening &&
    (more[1]? ≠ some .parenthesis || isIdentifier (captured ((more.drop 2).takeWhile (·.unit != [')']))))

/-- A piece stands right before the others: a set ends before the next group of a macro, special groups are right, and a
reference by number is to one of the first `t` groups. -/
def fits (t : Nat) : Piece → List Piece → Bool
  | .plain c _, more =>
    if c = '[' then closes true more
    else if c = '(' && more[0]? = some .question then fitsSpecial more
    else true
  | .escaped c, more => !c.isDigit || c == '0' || valueIn 10 (c :: secondDigit more) ≤ t
  | .opening, more => more[0]? ≠ some .question

def fit (t : Nat) : List Piece → Bool
  | [] => true
  | p :: ps => fits t p ps && fit t ps

theorem fit_cons {t : Nat} {p : Piece} {ps : List Piece} (h : fit t (p :: ps) = true) :
    fits t p ps = true ∧ fit t ps = true := Bool.and_eq_true_iff.1 h

/-! ## Sets -/

theorem closes_of_first {ps : List Piece} (h : closes true ps = true) : closes false ps = true := by
  induction ps with
  | nil => rfl
  | cons p ps ih =>
    cases p with
    | plain c ordinary =>
      rw [closes] at h ⊢
      split
      · rfl
      · rename_i other
        rw [if_neg other] at h
        cases caret : c == '^' with
        | true => exact ih (by simpa [caret] using h)
        | false => simpa [caret] using h
    | escaped c => exact h
    | opening => exact h

theorem closes_of_cons {first : Bool} {p : Piece} {ps : List Piece} (h : closes first (p :: ps) = true)
    (other : p.unit ≠ [']'] ∨ first = true) : closes false ps = true := by
  cases p with
  | plain c ordinary =>
    rw [closes] at h
    split at h
    · rename_i same
      subst same
      simpa [Piece.unit, other.resolve_left (by simp [Piece.unit])] using h
    · cases caret : first && c == '^' with
      | true => exact closes_of_first (by simpa [caret] using h)
      | false => simpa [caret] using h
  | escaped c => exact h
  | opening => cases h

/-! ## Groups before the first group of a macro -/

theorem leadInSet_le (ps : List Piece) :
    leadInSet true ps ≤ leadInSet false ps ∧ leadInSet false ps ≤ lead ps := by
  induction ps with
  | nil => exact ⟨Nat.le_refl _, Nat.le_refl _⟩
  | cons p ps ih =>
    cases p with
    | plain c ordinary =>
      simp only [leadInSet, lead]
      split
      · exact ⟨Nat.le_refl _, Nat.zero_le _⟩
      · rename_i other
        simp only [Bool.or_eq_true, decide_eq_true_eq, not_or] at other
        rw [if_neg other.1.1, if_neg other.1.2, if_neg other.2]
        split
        · exact ⟨ih.2, Nat.le_refl _⟩
        · refine ⟨?_, ih.2⟩
          cases c == '^' with
          | true => exact ih.1
          | false => exact Nat.le_refl _
    | escaped c => exact ⟨Nat.le_refl _, ih.2⟩
    | opening => exact ⟨Nat.le_refl _, Nat.le_refl _⟩

theorem leadInSet_le_of_cons {first : Bool} {p : Piece} {ps : List Piece} (other : p.unit ≠ [']'] ∨ first = true) :
    leadInSet first (p :: ps) ≤ leadInSet false ps := by
  cases p with
  | plain c ordinary =>
    rw [leadInSet]
    split
    · exact Nat.zero_le _
    split
    · rename_i same
      subst same
      exact Nat.le_of_eq (if_pos (other.resolve_left (by simp [Piece.unit])))
    · cases first && c == '^' with
      | true => exact (leadInSet_le ps).1
      | false => exact Nat.le_refl _
  | escaped c => exact Nat.le_refl _
  | opening => exact Nat.zero_le _

theorem lead_le_of_cons {p : Piece} {ps : List Piece} (other : p.unit ≠ ['(']) : lead (p :: ps) ≤ lead ps := by
  cases p with
  | plain c ordinary =>
    rw [lead]
    split
    · exact Nat.zero_le _
    split
    · exact Nat.le_trans (leadInSet_le ps).1 (leadInSet_le ps).2
    · exact Nat.le_of_eq (if_neg fun same => other (congrArg (fun c => [c]) same))
  | escaped c => exact Nat.le_refl _
  | opening => exact Nat.zero_le _

theorem lead_group {ps : List Piece} (other : ∀ more, ps ≠ .question :: more) :
    lead (.parenthesis :: ps) = lead ps + 1 := by
  have plain : ps[0]? ≠ some .question := by
    intro same
    cases ps with
    | nil => cases same
    | cons p ps => exact other ps (congrArg (· :: ps) (Option.some.inj same))
  rw [lead, if_neg (by decide), if_neg (by decide), if_pos rfl, leadAfter, if_neg plain]

theorem lead_special_le (ps : List Piece) : lead (.parenthesis :: .question :: ps) ≤ lead ps := by
  have counted (n : Nat) : leadAfter (.question :: ps) n ≤ n := by
    unfold leadAfter
    rw [if_pos (show (Piece.question :: ps)[0]? = some .question from rfl)]
    split
    · exact Nat.zero_le _
    · exact Nat.le_refl _
  rw [lead, if_neg (by decide), if_neg (by decide), if_pos rfl]
  exact Nat.le_trans (counted _) (lead_le_of_cons (by simp [Piece.unit]))

/-! ## Patterns in a group -/

def enclosed (ps : List Piece) : List Piece :=
  .parenthesis :: .question :: .plain ':' (by decide) :: (ps ++ [.closing])

theorem captured_enclosed (ps : List Piece) : captured (enclosed ps) = grouped (captured ps) := by
  simp [grouped_eq, enclosed, Piece.unit]

theorem spared_enclosed (ps : List Piece) : spared (enclosed ps) = grouped (spared ps) := by
  simp [grouped_eq, enclosed, Piece.sparing]

theorem closes_closed {first : Bool} {ps : List Piece} (h : closes first ps = true) :
    closes first (ps ++ [.closing]) = true := by
  induction ps generalizing first with
  | nil => cases first <;> rfl
  | cons p ps ih =>
    cases p with
    | plain c ordinary =>
      rw [List.cons_append, closes]
      rw [closes] at h
      split
      · rename_i same
        rw [if_pos same] at h
        cases first with
        | false => rfl
        | true => exact ih h
      · rename_i other
        rw [if_neg other] at h
        exact ih h
    | escaped c => exact ih h
    | opening => exact h

theorem getElem?_closed (ps : List Piece) {p : Piece} (other : p ≠ .closing) (k : Nat) :
    (ps ++ [.closing])[k]? = some p ↔ ps[k]? = some p := by
  rw [List.getElem?_append]
  split
  · exact Iff.rfl
  · rename_i after
    rw [List.getElem?_eq_none (Nat.le_of_not_lt after), List.getElem?_singleton]
    split
    · exact ⟨fun same => absurd (Option.some.inj same).symm other, nofun⟩
    · exact Iff.rfl

theorem leadAfter_closed (ps : List Piece) (n : Nat) : leadAfter (ps ++ [.closing]) n = leadAfter ps n := by
  simp only [leadAfter, getElem?_closed ps (by decide : Piece.question ≠ .closing),
    getElem?_closed ps (by decide : Piece.parenthesis ≠ .closing)]

theorem lead_closed (ps : List Piece) :
    lead (ps ++ [.closing]) = lead ps ∧ ∀ first, leadInSet first (ps ++ [.closing]) = leadInSet first ps := by
  induction ps with
  | nil => exact ⟨rfl, fun first => by cases first <;> rfl⟩
  | cons p ps ih =>
    cases p with
    | plain c ordinary =>
      simp only [List.cons_append, lead, leadInSet, ih.1, ih.2, leadAfter_closed, true_and, implies_true]
    | escaped c => exact ⟨ih.1, fun _ => ih.2 false⟩
    | opening => exact ⟨rfl, fun _ => rfl⟩

theorem lead_enclosed (ps : List Piece) : lead (enclosed ps) = lead ps := (lead_closed ps).1

theorem secondDigit_closed (ps : List Piece) : secondDigit (ps ++ [.closing]) = secondDigit ps := by
  rcases ps with _ | ⟨_ | _ | _, ps⟩ <;> rfl

theorem takeWhile_closed (ps : List Piece) :
    (ps ++ [Piece.closing]).takeWhile (·.unit != [')']) = ps.takeWhile (·.unit != [')']) := by
  induction ps with
  | nil => rfl
  | cons p ps ih => simp only [List.cons_append, List.takeWhile_cons, ih]

theorem fitsSpecial_closed (ps : List Piece) : fitsSpecial (ps ++ [.closing]) = fitsSpecial ps := by
  have name : ((ps ++ [Piece.closing]).drop 2).takeWhile (·.unit != [')']) =
      (ps.drop 2).takeWhile (·.unit != [')']) := by
    rw [List.drop_append]
    cases 2 - ps.length with
    | zero => exact takeWhile_closed _
    | succ => simp
  simp only [fitsSpecial, name, ne_eq, getElem?_closed ps (by decide : Piece.opening ≠ .closing),
    getElem?_closed ps (by decide : Piece.parenthesis ≠ .closing)]

theorem fits_closed {t : Nat} {p : Piece} {ps : List Piece} (h : fits t p ps = true) :
    fits t p (ps ++ [.closing]) = true := by
  have question := getElem?_closed ps (by decide : Piece.question ≠ .closing) 0
  cases p with
  | escaped c =>
    rw [fits, secondDigit_closed]
    exact h
  | opening => simpa only [fits, ne_eq, question] using h
  | plain c ordinary =>
    rw [fits] at h ⊢
    simp only [question, fitsSpecial_closed]
    split
    · rename_i same
      rw [if_pos same] at h
      exact closes_closed h
    · rename_i other
      rw [if_neg other] at h
      exact h

theorem fit_enclosed {t : Nat} {ps : List Piece} (h : fit t ps = true) : fit t (enclosed ps) = true := by
  have closed : fit t (ps ++ [.closing]) = true := by
    induction ps with
    | nil => rfl
    | cons p ps ih =>
      obtain ⟨first, rest⟩ := fit_cons h
      exact Bool.and_eq_true_iff.2 ⟨fits_closed first, ih rest⟩
  exact closed

end LexGen.Pattern
