import Mathlib
import LexGen.Action.Qualify
import LexGen.Action.Table
import LexGen.Proofs.Failure
import LexGen.Proofs.Outcome
import LexGen.Proofs.Text.Edits

/-!
# Qualified bodies

Qualification only puts the qualifier in. Names are told with places in the indented body, in bytes; a name is
qualified if it stands at its place, and nothing else is changed. A place inside of a character is not expected, and
qualification fails there.

* `charsIn?_eq_none_iff`: the places that make it fail.
* `qualification_inserts`: what qualification comes to, whatever places are told.
-/

namespace LexGen

namespace Text

@[simp] theorem byteLength_nil : byteLength [] = 0 := rfl

@[simp] theorem byteLength_append (left right : Text) :
    byteLength (left ++ right) = byteLength left + byteLength right := by
  have from_start : ∀ (n : Nat) (text : Text),
      text.foldl (fun n c => n + c.utf8Size) n = n + text.foldl (fun n c => n + c.utf8Size) 0 := by
    intro n text
    induction text generalizing n with
    | nil => rfl
    | cons c text ih =>
      rw [List.foldl_cons, List.foldl_cons, ih, ih (0 + c.utf8Size)]
      omega
  rw [byteLength, byteLength, byteLength, List.foldl_append, from_start]

@[simp] theorem byteLength_cons (c : Char) (text : Text) : byteLength (c :: text) = c.utf8Size + byteLength text := by
  rw [← List.singleton_append, byteLength_append]
  simp [byteLength]

end Text

namespace Action

open Code

/-! ## Bytes and characters -/

theorem charsIn?_cons {bytes : Nat} {c : Char} (fits : c.utf8Size ≤ bytes) (text : Text) :
    charsIn? bytes (c :: text) = (charsIn? (bytes - c.utf8Size) text).map (· + 1) := by
  obtain ⟨bytes, rfl⟩ := Nat.exists_eq_succ_of_ne_zero (c.utf8Size_pos.trans_le fits).ne'
  rw [charsIn?, if_pos fits]

theorem charsIn?_byteLength (start rest : Text) :
    charsIn? (Text.byteLength start) (start ++ rest) = some start.length := by
  induction start with
  | nil => rw [Text.byteLength_nil, charsIn?]; rfl
  | cons c start ih =>
    rw [Text.byteLength_cons, List.cons_append, charsIn?_cons (Nat.le_add_right _ _), Nat.add_sub_cancel_left, ih]
    rfl

theorem exists_split_of_charsIn? {bytes chars : Nat} {text : Text} (counted : charsIn? bytes text = some chars) :
    ∃ start rest, text = start ++ rest ∧ start.length = chars ∧ (bytes = Text.byteLength start ∨ rest = []) := by
  fun_induction charsIn? bytes text generalizing chars with
  | case1 text => exact ⟨[], text, rfl, Option.some.inj counted, .inl rfl⟩
  | case2 bytes => exact ⟨[], [], rfl, Option.some.inj counted, .inr rfl⟩
  | case3 bytes c text fits ih =>
    obtain ⟨fewer, others, rfl⟩ := Option.map_eq_some_iff.1 counted
    obtain ⟨start, rest, rfl, rfl, ends⟩ := ih others
    refine ⟨c :: start, rest, rfl, rfl, ends.imp_left fun same => ?_⟩
    rw [Text.byteLength_cons]
    omega
  | case4 bytes c text cut => cases counted

def EndsInside (bytes : Nat) (text : Text) : Prop :=
  ∃ start c rest, text = start ++ c :: rest ∧ Text.byteLength start < bytes ∧ bytes < Text.byteLength start + c.utf8Size

theorem charsIn?_eq_none_iff {bytes : Nat} {text : Text} : charsIn? bytes text = none ↔ EndsInside bytes text := by
  constructor
  · intro cut
    fun_induction charsIn? bytes text with
    | case1 => cases cut
    | case2 => cases cut
    | case3 bytes c text fits ih =>
      obtain ⟨start, d, rest, rfl, after, before⟩ := ih (Option.map_eq_none_iff.1 cut)
      refine ⟨c :: start, d, rest, rfl, ?_, ?_⟩ <;> rw [Text.byteLength_cons] <;> omega
    | case4 bytes c text large => exact ⟨[], c, text, rfl, Nat.succ_pos _, by simpa using large⟩
  · rintro ⟨start, c, rest, rfl, after, before⟩
    induction start generalizing bytes with
    | nil =>
      obtain ⟨bytes, rfl⟩ := Nat.exists_eq_succ_of_ne_zero (Nat.zero_lt_of_lt after).ne'
      rw [List.nil_append, charsIn?, if_neg (by simpa using before)]
    | cons d start ih =>
      rw [Text.byteLength_cons] at after before
      rw [List.cons_append, charsIn?_cons (by omega), ih (by omega) (by omega)]
      rfl

/-! ## Places of names -/

def InBody (lines : List Text) (place : Place) : Prop :=
  2 ≤ place.line ∧ place.line < lines.length + 2

/-- A name stands at a place, which is told in the bytes of the indented line, and at an offset in the text that the
lines make up. -/
def StandsAt (lines : List Text) (found : String × Place) (offset : Nat) : Prop :=
  ∃ above below start rest, lines = above ++ (start ++ found.1.toList ++ rest) :: below ∧
    found.2.line = above.length + 2 ∧ found.2.column = Text.byteLength (bodyIndent ++ start) ∧
    offset = above.flatten.length + start.length

def IsInside (lines : List Text) (place : Place) : Prop :=
  ∃ line, lines[place.line - 2]? = some line ∧ EndsInside place.column (bodyIndent ++ line)

theorem StandsAt.prefix {body : Text} {found : String × Place} {offset : Nat}
    (stands : StandsAt (Text.codeLines body) found offset) : found.1.toList <+: body.drop offset := by
  obtain ⟨above, below, start, rest, lines, -, -, rfl⟩ := stands
  have whole : (Text.codeLines body).flatten = body := Text.linesBy_flatten Text.isCodeBreak [] body
  rw [← whole, lines, List.flatten_append, List.drop_length_add_append, List.flatten_cons, List.append_assoc,
    List.append_assoc, List.drop_left]
  exact List.prefix_append _ _

theorem part_eq_iff {line name : Text} {column : Int} (long : -column ≤ name.length) (nonempty : name ≠ []) :
    Text.Edit.part line column (column + name.length) = name ↔
      ∃ start rest, line = start ++ name ++ rest ∧ (start.length : Int) = column := by
  have some : 0 < name.length := List.length_pos_iff.2 nonempty
  constructor
  · intro same
    have sizes := congrArg List.length same
    rw [Text.Edit.part, Text.upTo, List.length_drop, List.length_take] at sizes
    have inside : 0 ≤ column ∧ column + name.length ≤ line.length := by
      unfold Text.position at sizes
      split at sizes <;> split at sizes <;> omega
    obtain ⟨nonnegative, fits⟩ := inside
    obtain ⟨n, rfl⟩ := Int.eq_ofNat_of_zero_le nonnegative
    have ends : ((n : Int) + name.length).toNat = n + name.length := by omega
    rw [Text.Edit.part, Text.upTo, Text.position_of_le nonnegative (by omega), Text.position_of_le (by omega) fits,
      ends, Int.toNat_natCast, List.drop_take, Nat.add_sub_cancel_left] at same
    refine ⟨line.take n, line.drop (n + name.length), ?_, by rw [List.length_take]; omega⟩
    calc line = line.take n ++ ((line.drop n).take name.length ++ (line.drop n).drop name.length) := by
          rw [List.take_append_drop, List.take_append_drop]
      _ = line.take n ++ name ++ line.drop (n + name.length) := by
          rw [same, List.drop_drop, List.append_assoc]
  · rintro ⟨start, rest, rfl, rfl⟩
    have ends : ((start.length : Int) + name.length).toNat = (start ++ name).length := by
      rw [List.length_append]
      omega
    rw [Text.Edit.part, Text.upTo, Text.position_of_le (by omega) (by simp only [List.length_append]; omega),
      Text.position_of_le (by omega) (by simp only [List.length_append]; omega), ends, Int.toNat_natCast,
      List.take_left, List.drop_left]

theorem qualification_of_isInside {lines : List Text} {place : Place} (inside : IsInside lines place) (name : String) :
    qualification lines name place = .error (.fault (.raised "UnicodeDecodeError")) := by
  obtain ⟨line, found, ends⟩ := inside
  have same : lines.getD (place.line - 2) [] = line := by rw [List.getD_eq_getElem?_getD, found]; rfl
  rw [qualification, same, charsIn?_eq_none_iff.2 ends]

/-- Where a name stands is told by its line and by the characters that its bytes make up. -/
theorem standsAt_iff {lines : List Text} {found : String × Place} {line : Text} {chars i : Nat}
    (nonempty : found.1.toList ≠ []) (after : 2 ≤ found.2.line) (at_line : lines[found.2.line - 2]? = some line)
    (counted : charsIn? found.2.column (bodyIndent ++ line) = some chars) :
    StandsAt lines found i ↔ ∃ start rest, line = start ++ found.1.toList ++ rest ∧
      bodyIndent.length + start.length = chars ∧ i = (lines.take (found.2.line - 2)).flatten.length + start.length := by
  constructor
  · rintro ⟨above, below, start, rest, rfl, row, column, rfl⟩
    have row : above.length = found.2.line - 2 := by omega
    obtain rfl : start ++ found.1.toList ++ rest = line := by
      rw [← row, List.getElem?_append_right le_rfl, Nat.sub_self] at at_line
      exact Option.some.inj at_line
    rw [column, ← List.append_assoc, ← List.append_assoc, List.append_assoc _ _ rest, charsIn?_byteLength,
      List.length_append] at counted
    exact ⟨start, rest, rfl, Option.some.inj counted, by rw [List.take_left' row]⟩
  · rintro ⟨start, rest, rfl, chars_eq, rfl⟩
    obtain ⟨above, below, lines_eq, row⟩ := Text.Edit.exists_split at_line
    refine ⟨above, below, start, rest, lines_eq, by omega, ?_, by rw [lines_eq, List.take_left' row]⟩
    obtain ⟨front, back, split, front_length, ends⟩ := exists_split_of_charsIn? counted
    have split : bodyIndent ++ start ++ (found.1.toList ++ rest) = front ++ back := by
      simpa only [List.append_assoc] using split
    obtain ⟨rfl, rfl⟩ := List.append_inj split (by rw [List.length_append]; omega)
    exact ends.resolve_right fun none => nonempty (List.append_eq_nil_iff.1 none).1

/-- A name is qualified exactly if it stands at its place. The name is not shorter than the indentation, so that a place
in the indentation is not taken for one that is counted from the end of the line. -/
theorem qualification_cases {lines : List Text} {found : String × Place}
    (long : bodyIndent.length ≤ found.1.toList.length) (inBody : InBody lines found.2)
    (whole : ¬ IsInside lines found.2) :
    (∃ edit, qualification lines found.1 found.2 = .ok (some edit) ∧ edit.Inserts qualifier lines ∧
      ∀ i, StandsAt lines found i ↔ i = edit.place lines) ∨
    qualification lines found.1 found.2 = .ok none ∧ ∀ i, ¬ StandsAt lines found i := by
  have nonempty : found.1.toList ≠ [] := List.length_pos_iff.1 (Nat.lt_of_lt_of_le (by decide) long)
  obtain ⟨line, at_line⟩ : ∃ line, lines[found.2.line - 2]? = some line :=
    ⟨_, List.getElem?_eq_getElem (by have := inBody.1; have := inBody.2; omega)⟩
  have same : lines.getD (found.2.line - 2) [] = line := by rw [List.getD_eq_getElem?_getD, at_line]; rfl
  cases counted : charsIn? found.2.column (bodyIndent ++ line) with
  | none => exact absurd ⟨line, at_line, charsIn?_eq_none_iff.1 counted⟩ whole
  | some chars =>
    have look : Text.Edit.part line (chars - bodyIndent.length) (chars - bodyIndent.length + found.1.toList.length) =
          found.1.toList ↔
        ∃ start rest, line = start ++ found.1.toList ++ rest ∧ (start.length : Int) = chars - bodyIndent.length :=
      part_eq_iff (by omega) nonempty
    have stands := fun i => standsAt_iff (i := i) nonempty inBody.1 at_line counted
    rw [String.length_toList] at look
    simp only [qualification, same, counted]
    split
    · rename_i there
      obtain ⟨start, rest, rfl, column⟩ := look.1 there
      rw [← column]
      refine .inl ⟨_, rfl, ⟨⟨Int.natCast_nonneg _, le_rfl, _, at_line, ?_⟩, rfl, rfl⟩, fun i => ?_⟩
      · simp only [List.length_append]
        omega
      · rw [stands, Text.Edit.place, Text.Edit.offset]
        dsimp only
        rw [Int.toNat_natCast]
        constructor
        · rintro ⟨other, -, -, length, rfl⟩
          omega
        · rintro rfl
          exact ⟨start, rest, rfl, by omega, rfl⟩
    · rename_i other
      refine .inr ⟨rfl, fun i at_i => ?_⟩
      obtain ⟨start, rest, split, column, -⟩ := (stands i).1 at_i
      exact other (look.2 ⟨start, rest, split, by omega⟩)

open Classical in
noncomputable def timesTold (lines : List Text) (names : List (String × Place)) (i : Nat) : Nat :=
  names.countP fun found => decide (StandsAt lines found i)

theorem exists_of_timesTold_pos {lines : List Text} {names : List (String × Place)} {i : Nat}
    (some : 0 < timesTold lines names i) : ∃ found ∈ names, StandsAt lines found i := by
  obtain ⟨found, mem, stands⟩ := List.countP_pos_iff.1 some
  exact ⟨found, mem, by simpa using stands⟩

theorem timesTold_cons {lines : List Text} {found : String × Place} {names : List (String × Place)} {i : Nat} :
    (StandsAt lines found i → timesTold lines (found :: names) i = timesTold lines names i + 1) ∧
      (¬ StandsAt lines found i → timesTold lines (found :: names) i = timesTold lines names i) :=
  ⟨fun stands => List.countP_cons_of_pos (by simpa using stands),
    fun other => List.countP_cons_of_neg (by simpa using other)⟩

def edits? (lines : List Text) (names : List (String × Place)) : Except Error (List (Option Text.Edit)) :=
  names.mapM fun (name, place) => qualification lines name place

/-- Names at places inside of characters make qualification fail; otherwise each name that stands at its place is
qualified. -/
theorem edits?_cases {lines : List Text} {names : List (String × Place)}
    (long : ∀ found ∈ names, bodyIndent.length ≤ found.1.toList.length)
    (inBody : ∀ found ∈ names, InBody lines found.2) :
    (∃ found ∈ names, IsInside lines found.2) ∧
      edits? lines names = .error (.fault (.raised "UnicodeDecodeError")) ∨
    (∀ found ∈ names, ¬ IsInside lines found.2) ∧
      ∃ edits, edits? lines names = .ok edits ∧ (∀ edit ∈ edits.filterMap id, edit.Inserts qualifier lines) ∧
        ∀ i, ((edits.filterMap id).map (Text.Edit.place lines)).count i = timesTold lines names i := by
  induction names with
  | nil => exact .inr ⟨by simp, [], rfl, by simp, fun i => rfl⟩
  | cons found names ih =>
    have step : edits? lines (found :: names) =
        qualification lines found.1 found.2 >>= fun edit =>
          edits? lines names >>= fun edits => pure (edit :: edits) := by
      rw [edits?, List.mapM_cons]
      rfl
    rw [step]
    by_cases inside : IsInside lines found.2
    · rw [qualification_of_isInside inside]
      exact .inl ⟨⟨found, List.mem_cons_self, inside⟩, rfl⟩
    · have others := ih (fun other mem => long other (List.mem_cons_of_mem _ mem))
        fun other mem => inBody other (List.mem_cons_of_mem _ mem)
      have first := qualification_cases (long found List.mem_cons_self) (inBody found List.mem_cons_self) inside
      rcases others with ⟨⟨other, mem, within⟩, failed⟩ | ⟨whole, edits, made, inserts, counts⟩
      · rw [failed]
        refine .inl ⟨⟨other, List.mem_cons_of_mem _ mem, within⟩, ?_⟩
        rcases first with ⟨edit, made, -⟩ | ⟨made, -⟩ <;> rw [made] <;> rfl
      · refine .inr ⟨List.forall_mem_cons.2 ⟨inside, whole⟩, ?_⟩
        rw [made]
        rcases first with ⟨edit, made, insertsFirst, stands⟩ | ⟨made, nowhere⟩
        · rw [made]
          refine ⟨some edit :: edits, rfl, List.forall_mem_cons.2 ⟨insertsFirst, inserts⟩, fun i => ?_⟩
          rw [List.filterMap_cons_some (f := id) rfl, List.map_cons, List.count_cons, counts]
          by_cases here : i = edit.place lines
          · rw [timesTold_cons.1 ((stands i).2 here), here, if_pos (by simp)]
          · rw [timesTold_cons.2 fun at_i => here ((stands i).1 at_i), if_neg (by simpa using Ne.symm here)]
            rfl
        · rw [made]
          refine ⟨none :: edits, rfl, by simpa using inserts, fun i => ?_⟩
          rw [List.filterMap_cons_none (f := id) rfl, counts, timesTold_cons.2 (nowhere i)]

/-! ## Names that are told -/

mutual

theorem of_mem_visible {p : String → Bool} {hidden : List String} {found : String × Place} :
    ∀ {o : Occurrence}, found ∈ o.visible p hidden → p found.1 = true
  | .name id binds place, mem => by
    rw [Occurrence.visible] at mem
    split at mem
    · rename_i shown
      obtain rfl := List.mem_singleton.1 mem
      exact (Bool.and_eq_true_iff.1 shown).1
    · cases mem
  | .declared .., mem => by cases mem
  | .pause _, mem => by cases mem
  | .inner _ outside own inside, mem => by
    rw [Occurrence.visible] at mem
    exact (List.mem_append.1 mem).elim of_mem_listVisible of_mem_listVisible

theorem of_mem_listVisible {p : String → Bool} {hidden : List String} {found : String × Place} :
    ∀ {os : List Occurrence}, found ∈ Occurrence.listVisible p hidden os → p found.1 = true
  | [], mem => by cases mem
  | o :: os, mem => by
    rw [Occurrence.listVisible] at mem
    exact (List.mem_append.1 mem).elim of_mem_visible of_mem_listVisible

end

theorem mem_scannerVariables {statements : List Stmt} {found : String × Place} (mem : found ∈ scannerNames statements) :
    found.1 ∈ scannerVariables :=
  List.contains_iff_mem.1 (of_mem_listVisible mem)

/-! ## The statement -/

/-- Whatever places are told for the names in the statements of a body, as long as they are in the body. Either a place
is inside of a character and qualification fails, or the result is the body with the qualifier before each name that
stands at its place, and nowhere else. -/
theorem qualification_inserts (body : Text) (statements : List Stmt)
    (inBody : ∀ found ∈ scannerNames statements, InBody (Text.codeLines body) found.2) :
    (statements? (Text.codeLines body) = some statements →
      qualify body = qualifyAt (Text.codeLines body) (scannerNames statements)) ∧
    ((∃ found ∈ scannerNames statements, IsInside (Text.codeLines body) found.2) ∧
        qualifyAt (Text.codeLines body) (scannerNames statements) = .error (.fault (.raised "UnicodeDecodeError")) ∨
      (∀ found ∈ scannerNames statements, ¬ IsInside (Text.codeLines body) found.2) ∧
        qualifyAt (Text.codeLines body) (scannerNames statements) =
          .ok (Text.putBefore qualifier (timesTold (Text.codeLines body) (scannerNames statements)) body) ∧
        ∀ i, 0 < timesTold (Text.codeLines body) (scannerNames statements) i →
          ∃ name ∈ scannerVariables, name.toList <+: body.drop i) := by
  refine ⟨fun parsed => by rw [qualify, parsed], ?_⟩
  have whole : (Text.codeLines body).flatten = body := Text.linesBy_flatten Text.isCodeBreak [] body
  have long : ∀ found ∈ scannerNames statements, bodyIndent.length ≤ found.1.toList.length := by
    intro found mem
    have all : ∀ name ∈ scannerVariables, bodyIndent.length ≤ name.toList.length := by decide
    exact all _ (mem_scannerVariables mem)
  have made : qualifyAt (Text.codeLines body) (scannerNames statements) =
      edits? (Text.codeLines body) (scannerNames statements) >>= fun edits =>
        pure (Text.Edit.applyAll (Text.codeLines body) (edits.filterMap id)) := rfl
  rw [made]
  rcases edits?_cases long inBody with ⟨inside, failed⟩ | ⟨outside, edits, found, inserts, counts⟩
  · rw [failed]
    exact .inl ⟨inside, rfl⟩
  · rw [found]
    refine .inr ⟨outside, ?_, fun i some => ?_⟩
    · change Except.ok (Text.Edit.applyAll (Text.codeLines body) (edits.filterMap id)) = _
      rw [Text.Edit.applyAll_insertions inserts, whole, funext counts]
    · obtain ⟨found, mem, stands⟩ := exists_of_timesTold_pos some
      exact ⟨found.1, mem_scannerVariables mem, stands.prefix⟩

def accented : Text := "é = yytext + 'yytext'\r\nreturn yyleng".toList

def accentedStatements : List Stmt :=
  [.assign [.name "é" .store ⟨2, 4⟩]
      (.binary .add (.name "yytext" .load ⟨2, 9⟩) (.constant (.str "yytext".toList false))),
    .ret (some (.name "yyleng" .load ⟨3, 11⟩))]

theorem outcome_accented : (qualifyAt (Text.codeLines accented) (scannerNames accentedStatements)).toOption =
    some "é = yy_.yytext + 'yytext'\r\nreturn yy_.yyleng".toList := by
  cbv

theorem qualification_inserts_accented :
    (∀ found ∈ scannerNames accentedStatements, InBody (Text.codeLines accented) found.2) ∧
      Text.putBefore qualifier (timesTold (Text.codeLines accented) (scannerNames accentedStatements)) accented =
        "é = yy_.yytext + 'yytext'\r\nreturn yy_.yyleng".toList := by
  have inBody : ∀ found ∈ scannerNames accentedStatements, InBody (Text.codeLines accented) found.2 := by
    unfold InBody
    decide
  refine ⟨inBody, ?_⟩
  have outcome := outcome_accented
  rcases (qualification_inserts accented accentedStatements inBody).2 with ⟨-, failed⟩ | ⟨-, made, -⟩
  · rw [failed] at outcome
    cases outcome
  · rw [made] at outcome
    exact Option.some.inj outcome

def nestedLiterals : Text := "aé=f\"\"\"\x7bf'''\x7byytext\x7d\n'''\x7d\"\"\"".toList

/-- The name in the inner literal is placed without regard to what stands before the outer one, which is inside of a
character here. -/
theorem place_inside_character :
    (statements? (Text.codeLines nestedLiterals)).map scannerNames = some [("yytext", ⟨2, 6⟩)] ∧
      faultOf (qualify nestedLiterals) = some "UnicodeDecodeError" := by
  decide +kernel

def assignedWithin : Text := "if yyleng := 2: return 'T'".toList

/-- Within an expression only a plain name can be given a value, so an action that does that with a name of the scanner
is well formed until its name is qualified. -/
theorem named_value_refused :
    (statements? (Text.codeLines assignedWithin)).map scannerNames = some [("yyleng", ⟨2, 7⟩)] ∧
      (qualify assignedWithin).toOption = some "if yy_.yyleng := 2: return 'T'".toList ∧
      (statements? (Text.codeLines "if yy_.yyleng := 2: return 'T'".toList)).isNone = true ∧
      (codeEntry .none 0 assignedWithin).toOption.isNone = true := by
  decide +kernel

end Action

end LexGen
