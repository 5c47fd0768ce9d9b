import LexGen.Proofs.Emission.Displayed

/-!
# Displayed literals

A literal value is displayed, and laid out on several lines, as a text that is read as an expression with this value.

* `Literal`: the values that have a literal, with brackets nested to a bounded depth.
* `Literal.shown_display`, `Literal.shown_laidOut`: what the texts of literal values are read as.
-/

namespace LexGen.Emission

open Code Program

/-- A value that has a literal whose brackets are nested to at most the given depth. Integers are not too long, and the
texts of floating-point numbers are read back. -/
inductive Literal : Nat → Value → Prop
  | none {depth : Nat} : Literal depth .none
  | bool {depth : Nat} (b : Bool) : Literal depth (.bool b)
  | int {depth : Nat} {i : Int} (short : i.natAbs < Nat.pow 10 Text.longestInteger) : Literal depth (.int i)
  | float {depth : Nat} {negative : Bool} {significand : Nat} {exponent : Int}
    (reads : Binary64.read (Binary64.finite negative significand exponent).text = .finite negative significand exponent) :
    Literal depth (.float (.finite negative significand exponent))
  | str {depth : Nat} (s : String) : Literal depth (.str s)
  | bytes {depth : Nat} {s : String} (narrow : ∀ c ∈ s.toList, c.toNat < 256) : Literal depth (.bytes s)
  | list {depth : Nat} {items : List Value} (all : ∀ v ∈ items, Literal depth v) : Literal (depth + 1) (.list items)
  | tuple {depth : Nat} {items : List Value} (all : ∀ v ∈ items, Literal depth v) : Literal (depth + 1) (.tuple items)
  | set {depth : Nat} {items : List Value} (all : ∀ v ∈ items, Literal depth v)
    (hashable : Value.allHashable items = true) (distinct : Value.distinct items = items) :
    Literal (depth + 1) (.set items)
  | dict {depth : Nat} {entries : List (Value × Value)} (keys : ∀ entry ∈ entries, Literal depth entry.1)
    (values : ∀ entry ∈ entries, Literal depth entry.2)
    (hashable : Value.allHashable (entries.map (·.1)) = true) (distinct : Value.dictOf entries = entries) :
    Literal (depth + 1) (.dict entries)

theorem Literal.holdsLong {depth : Nat} {v : Value} (literal : Literal depth v) : v.holdsLong = false := by
  induction literal with
  | int short => exact Json.holdsLong_int short
  | list _ ih | tuple _ ih | set _ _ _ ih => exact Json.itemsHoldLong_eq_false ih
  | dict _ _ _ _ keys values => exact Json.entriesHoldLong_eq_false keys values
  | _ => rfl

/-! ## Rows of values -/

variable {room : Nat}

theorem isGap_space : IsGap [' '] := .inl rfl

theorem rowText_displayItems {items : List Value} (all : ∀ v ∈ items, ShownValue room v.display.toList v) :
    RowText (ShownValue room) (Value.displayItems items).toList items := by
  induction items with
  | nil => exact .nil
  | cons v items ih =>
    have first := all v List.mem_cons_self
    cases items with
    | nil =>
      have alone := RowText.cons first .nil
      rwa [List.append_nil] at alone
    | cons w items =>
      have row := RowText.before first isGap_space (ih fun u mem => all u (List.mem_cons_of_mem v mem))
      rw [Value.displayItems, String.toList_append, String.toList_append, List.append_assoc]
      · exact row
      · simp

theorem rowText_laidOutItems {items : List Value}
    (all : ∀ v ∈ items, ∀ column reserved, ShownValue room (v.laidOut column reserved) v) (column reserved : Nat) :
    RowText (ShownValue room) (Value.laidOutItems column reserved items) items := by
  induction items with
  | nil => exact .nil
  | cons v items ih =>
    cases items with
    | nil =>
      have alone := RowText.cons (all v List.mem_cons_self column reserved) .nil
      rwa [List.append_nil] at alone
    | cons w items =>
      have row := RowText.before (all v List.mem_cons_self column 1) (.inr ⟨column, rfl⟩)
        (ih fun u mem => all u (List.mem_cons_of_mem v mem))
      rw [Value.laidOutItems, List.append_assoc]
      · exact row
      · simp

theorem shown_entry {first second : Text} {key v : Value} (front : ShownValue room first key)
    (back : ShownValue room second v) : ShownEntry room (first ++ [':', ' '] ++ second) (key, v) := by
  obtain ⟨c, others, same, visible⟩ := front.opens
  obtain ⟨d, word, written, -⟩ := back.opens
  refine ⟨⟨c, _, by rw [same]; rfl, visible⟩, ?_, ?_, fun brackets rest fits closed => ?_⟩
  · refine List.forall_mem_append.2 ⟨List.forall_mem_append.2 ⟨front.clean, by simp⟩, back.clean⟩
  · rw [List.getLast?_append_of_ne_nil _ (by simp [written])]
    exact back.inLine
  · rw [List.append_assoc, List.append_assoc]
    have key := front.cuts brackets (':' :: ' ' :: (second ++ rest)) fits (closed_cons (by simp [closers]) _)
    have value := (back.cuts brackets rest fits closed).after (cuts_space brackets (second ++ rest))
    refine key.append ((cuts_colon brackets (second ++ rest)).cons value) ?_
    rintro front _ ⟨x, value, taken⟩ ⟨t, back, rfl, mark, y, value', taken'⟩
    refine ⟨.pair x y, .pair value value', fun depth deep => .pair (taken depth ?_) mark (taken' depth ?_)⟩
    all_goals
      simp only [List.length_append, List.length_cons] at deep
      omega

theorem rowText_displayEntries {entries : List (Value × Value)}
    (keys : ∀ entry ∈ entries, ShownValue room entry.1.display.toList entry.1)
    (values : ∀ entry ∈ entries, ShownValue room entry.2.display.toList entry.2) :
    RowText (ShownEntry room) (Value.displayEntries entries).toList entries := by
  induction entries with
  | nil => exact .nil
  | cons entry entries ih =>
    have first := shown_entry (keys entry List.mem_cons_self) (values entry List.mem_cons_self)
    cases entries with
    | nil =>
      have alone := RowText.cons first .nil
      rw [List.append_nil] at alone
      rw [Value.displayEntries, String.toList_append, String.toList_append]
      exact alone
    | cons next entries =>
      have row := RowText.before first isGap_space
        (ih (fun other mem => keys other (List.mem_cons_of_mem _ mem)) fun other mem => values other (List.mem_cons_of_mem _ mem))
      rw [Value.displayEntries, String.toList_append, String.toList_append, String.toList_append, String.toList_append,
        List.append_assoc _ ", ".toList]
      · exact row
      · simp

theorem rowText_laidOutEntries {entries : List (Value × Value)}
    (keys : ∀ entry ∈ entries, ShownValue room entry.1.display.toList entry.1)
    (values : ∀ entry ∈ entries, ∀ column reserved, ShownValue room (entry.2.laidOut column reserved) entry.2)
    (column reserved : Nat) :
    RowText (ShownEntry room) (Value.laidOutEntries column reserved entries) entries := by
  induction entries with
  | nil => exact .nil
  | cons entry entries ih =>
    have first (reserved : Nat) := shown_entry (keys entry List.mem_cons_self)
      (values entry List.mem_cons_self (column + entry.1.display.toList.length + 2) reserved)
    cases entries with
    | nil =>
      have alone := RowText.cons (first reserved) .nil
      rw [List.append_nil] at alone
      exact alone
    | cons next entries =>
      have row := RowText.before (first 1) (.inr ⟨column, rfl⟩)
        (ih (fun other mem => keys other (List.mem_cons_of_mem _ mem)) fun other mem => values other (List.mem_cons_of_mem _ mem))
      rw [Value.laidOutEntries]
      · rw [List.append_assoc _ (Value.itemBreak column)]
        exact row
      · simp

/-! ## Literals -/

theorem shown_int (room : Nat) {i : Int} (number : NumberToken (Text.decimal i.natAbs) (.int i.natAbs)) :
    ShownValue room (Value.int i).display.toList (.int i) := by
  cases i with
  | ofNat n => exact shown_number room number
  | negSucc n =>
    have written : (Value.int (.negSucc n)).display.toList = '-' :: Text.decimal (n + 1) := by
      change ("-" ++ toString (n + 1)).toList = _
      rw [String.toList_append]
      rfl
    rw [written]
    exact shown_negative number rfl

theorem shown_float (room : Nat) {negative : Bool} {significand : Nat} {exponent : Int}
    (reads : Binary64.read (Binary64.finite negative significand exponent).text = .finite negative significand exponent) :
    ShownValue room (Value.float (.finite negative significand exponent)).display.toList
      (.float (.finite negative significand exponent)) := by
  obtain ⟨token, float, written, value⟩ := floatText_text reads
  change ShownValue room (String.ofList _).toList _
  rw [String.toList_ofList, written]
  cases negative with
  | false =>
    have number := shown_number room (numberToken_float float)
    rwa [value] at number
  | true =>
    have minus : Value.unary .minus (Constant.value (.float (Binary64.ofText false token))) =
        .ok (.float (.finite true significand exponent)) := by
      rw [← value, ofText_negate]
      rfl
    exact shown_negative (numberToken_float float) minus

theorem shown_string (room : Nat) (s : String) : ShownValue room (Value.str s).display.toList (.str s) := by
  have quoted := shown_literal room (literalToken_quoted s.toList)
  rw [literalValue, if_neg (by decide), String.ofList_toList] at quoted
  change ShownValue room (String.ofList (Text.quoted s.toList)).toList _
  rwa [String.toList_ofList]

theorem shown_bytes (room : Nat) {s : String} (narrow : ∀ c ∈ s.toList, c.toNat < 256) :
    ShownValue room (Value.bytes s).display.toList (.bytes s) := by
  have quoted := shown_literal room (literalToken_quotedBytes narrow)
  rw [literalValue, if_pos rfl, String.ofList_toList] at quoted
  change ShownValue room (String.ofList (Text.quotedBytes s.toList)).toList _
  rwa [String.toList_ofList]

theorem toList_between (first last : String) (inside : String) :
    (first ++ inside ++ last).toList = first.toList ++ (inside.toList ++ last.toList) := by
  rw [String.toList_append, String.toList_append, List.append_assoc]

theorem shown_displayTuple {items : List Value} (all : ∀ v ∈ items, ShownValue room v.display.toList v) :
    ShownValue (room + 1) (Value.tuple items).display.toList (.tuple items) := by
  match items, all with
  | [], _ => exact shown_unit
  | [v], all =>
    change ShownValue (room + 1) ("(" ++ v.display ++ ",)").toList _
    rw [toList_between]
    have single := shown_tupleComma (.cons (all v List.mem_cons_self) .nil) (by simp) (.inl rfl) (.inl rfl)
    simpa using single
  | v :: w :: items, all =>
    change ShownValue (room + 1) ("(" ++ Value.displayItems (v :: w :: items) ++ ")").toList _
    rw [toList_between]
    exact shown_tuple (rowText_displayItems all) (by simp)

theorem shown_displaySet {items : List Value} (all : ∀ v ∈ items, ShownValue room v.display.toList v)
    (hashable : Value.allHashable items = true) (distinct : Value.distinct items = items) :
    ShownValue (room + 1) (Value.set items).display.toList (.set items) := by
  match items, all with
  | [], _ => exact shown_emptySet
  | v :: items, all =>
    change ShownValue (room + 1) ("\x7b" ++ Value.displayItems (v :: items) ++ "\x7d").toList _
    rw [toList_between]
    exact shown_set (rowText_displayItems all) (by simp) hashable distinct

theorem Literal.shown_display {v : Value} (literal : Literal room v) : ShownValue room v.display.toList v := by
  induction literal with
  | none => exact shown_word _ (show ("None", Constant.none) ∈ Code.Level.constantWords by simp [Code.Level.constantWords])
  | bool b =>
    cases b with
    | false => exact shown_word _ (show ("False", Constant.bool false) ∈ Code.Level.constantWords by simp [Code.Level.constantWords])
    | true => exact shown_word _ (show ("True", Constant.bool true) ∈ Code.Level.constantWords by simp [Code.Level.constantWords])
  | int short => exact shown_int _ (numberToken_decimal short)
  | float reads => exact shown_float _ reads
  | str s => exact shown_string _ s
  | bytes narrow => exact shown_bytes _ narrow
  | @list depth items all ih =>
    change ShownValue (depth + 1) ("[" ++ Value.displayItems items ++ "]").toList _
    rw [toList_between]
    exact shown_list (rowText_displayItems ih)
  | tuple all ih => exact shown_displayTuple ih
  | set all hashable distinct ih => exact shown_displaySet ih hashable distinct
  | @dict depth entries keys values hashable distinct first second =>
    change ShownValue (depth + 1) ("\x7b" ++ Value.displayEntries entries ++ "\x7d").toList _
    rw [toList_between]
    exact shown_dict (rowText_displayEntries first second) hashable distinct

theorem Literal.shown_laidOut {v : Value} (literal : Literal room v) (column reserved : Nat) :
    ShownValue room (v.laidOut column reserved) v := by
  have line := literal.shown_display
  induction literal generalizing column reserved with
  | @list depth items all ih =>
    have row := rowText_laidOutItems (fun v mem column reserved => ih v mem column reserved (all v mem).shown_display)
      (column + 1) (reserved + 1)
    rw [Value.laidOut]
    split
    · exact line
    · exact shown_list row
  | @dict depth entries keys values hashable distinct first second =>
    have row := rowText_laidOutEntries (fun entry mem => (keys entry mem).shown_display)
      (fun entry mem column reserved => second entry mem column reserved (values entry mem).shown_display)
      (column + 1) (reserved + 1)
    rw [Value.laidOut]
    split
    · exact line
    · exact shown_dict row hashable distinct
  | _ =>
    rw [Value.laidOut]
    · split <;> exact line
    all_goals nofun

end LexGen.Emission
