import LexGen.Proofs.CompiledLexer.Failures
import LexGen.Proofs.Pattern.BesideReaders
import LexGen.Proofs.Pattern.LeadingFlags

/-!
# Grouped patterns

The pattern of a rule is compiled as a group. A pattern that can be compiled by itself is compiled to the same tree
then, unless it sets flags for the whole pattern; those are refused inside the group. The other way around, a grouped
pattern can be compiled where the pattern by itself has a closing parenthesis too many, which then closes the group.

* `reads_body`: how a pattern is read in its group, compared with how it is read by itself.
* `compiled_as_group`: what is compiled from a pattern and from the rule with that pattern.
-/

namespace LexGen.Pattern

variable {α β : Type}

/-! ## The beginning of a pattern -/

/-- Alternatives of a whole pattern are those of a group, as long as no flags are set. -/
theorem run_alternatives_top [CharacterNames] (fuel : Nat) {verbose : Bool} {r : Reading}
    (flags : r.flags.has PatternFlags.verbose = verbose) :
    (alternatives fuel verbose true false).run r = (alternatives fuel verbose false false).run r := by
  induction fuel generalizing r with
  | zero => rfl
  | succ fuel ih =>
    unfold alternatives
    refine run_bind_eq fun item between read => run_bind_eq fun more now accepted => ?_
    have same : now.flags = r.flags := by
      rw [(within_of_keeps (fun _ _ => keeps_accept _) accepted).flags,
        (within_of_keeps (fun _ _ => (keeps_readers fuel).2 verbose false [] rfl) read).flags]
    split
    · refine run_bind_eq fun a last got => ?_
      obtain ⟨rfl, rfl⟩ := Prod.mk.inj (Except.ok.inj got)
      have still : now.flags.has PatternFlags.verbose = verbose := same ▸ flags
      dsimp only
      rw [if_pos rfl, if_neg Bool.false_ne_true, still]
      exact run_bind_congr (ih still) _
    · rfl

theorem run_alternatives_first [CharacterNames] (fuel : Nat) {r : Reading} (flags : r.flags.has PatternFlags.verbose = false)
    (unset : ¬SetsFlags r.rest) :
    (alternatives fuel false true true).run r = (alternatives fuel false false false).run r := by
  cases fuel with
  | zero => rfl
  | succ fuel =>
    rw [← run_alternatives_top _ flags]
    unfold alternatives
    exact run_bind_congr (run_sequence_first fuel fun _ => ⟨rfl, flags, unset⟩) _

/-! ## Whole patterns -/

def finish (item : Item) : Reader (Node × PatternFlags) := do
  let flags ← settleFlags (← get).flags
  if (← peek).isSome then failBack "unbalanced parenthesis" 0
  let r ← get
  match r.conditions.find? fun (index, _) => r.groups ≤ index with
  | some (index, start) => failFrom ("invalid group reference " ++ toString index) start
  | none => return (item.node, flags)

theorem run_finish_unsettled {r : Reading} {failure : Failure} (unsettled : settleFlags r.flags = .error failure)
    (item : Item) : (finish item).run r = .error failure := by
  simp [finish, unsettled]
  rfl

theorem run_finish_left {r : Reading} {all : PatternFlags} (settled : settleFlags r.flags = .ok all) (left : r.rest ≠ [])
    (item : Item) :
    (finish item).run r = .error (.malformed "unbalanced parenthesis" (some (r.total - r.rest.length))) := by
  obtain ⟨unit, next⟩ := exists_unit? left
  simp [finish, settled, peek, next, failBack, position]
  rfl

theorem run_finish_end {r : Reading} {all : PatternFlags} (settled : settleFlags r.flags = .ok all)
    (ended : r.rest = []) (item : Item) :
    (finish item).run r =
      match r.conditions.find? fun (index, _) => r.groups ≤ index with
      | some (index, start) => .error (.malformed ("invalid group reference " ++ toString index) (some start))
      | none => .ok ((item.node, all), r) := by
  have next : unit? r.rest = none := by rw [ended]; rfl
  simp [finish, settled, peek, next]
  cases r.conditions.find? fun (index, _) => r.groups ≤ index <;> rfl

def Reading.alone (text : Text) (flags : PatternFlags) : Reading := { rest := text, total := text.length, flags := flags }

def Reading.inGroup (text : Text) (flags : PatternFlags) : Reading :=
  { rest := text ++ [')'], total := text.length + 4, flags := flags }

theorem beside_inGroup {text : Text} (whole : text ≠ ['\\']) (flags : PatternFlags) :
    Beside (.alone text flags) (.inGroup text flags) := ⟨rfl, whole, rfl, rfl, rfl, rfl, rfl⟩

theorem readWhole_eq [CharacterNames] :
    readWhole = (do
      continueWith (← get).rest
      let r ← get
      let item ← alternatives (2 * r.total + 2) (r.flags.has PatternFlags.verbose) true true
      finish item) := rfl

theorem run_readWhole_alone [CharacterNames] {text : Text} (whole : text ≠ ['\\']) (flags : PatternFlags) :
    readWhole.run (.alone text flags) =
      (alternatives (2 * text.length + 2) (flags.has PatternFlags.verbose) true true >>= finish).run (.alone text flags) := by
  rw [readWhole_eq, StateT.run_bind]
  simp [continueWith, Reading.alone, whole]

def afterGroup [CharacterNames] (fuel : Nat) (body : Item) : Reader Item := do
  closing 0
  let item ← sequence fuel false true [⟨body.node, body.width, .other⟩]
  if ← accept '|' then
    let flags := (← get).flags
    let rest ← alternatives (fuel + 1) (flags.has PatternFlags.verbose) true false
    return ⟨.alt item.node rest.node, item.width.join rest.width, .other⟩
  else return item

theorem run_readWhole_grouped [CharacterNames] (text : Text) {flags : PatternFlags} (plain : flags.has PatternFlags.verbose = false) :
    readWhole.run (.alone (grouped text) flags) =
      (do
        let body ← alternatives (2 * (text.length + 4)) false false false
        let item ← afterGroup (2 * (text.length + 4)) body
        finish item : Reader (Node × PatternFlags)).run (.inGroup text flags) := by
  have first : grouped text ≠ ['\\'] := by simp [grouped_eq]
  have inside : text ++ [')'] ≠ ['\\'] := by
    intro same
    have last := congrArg List.getLast? same
    simp at last
  have length : (grouped text).length = text.length + 4 := by simp [grouped_eq]
  rw [run_readWhole_alone first, plain, length]
  have opened := run_sequence_group (2 * (text.length + 4)) false true [] (r := .alone (grouped text) flags) inside
    (grouped_eq text)
  have start : (Reading.alone (grouped text) flags).total - (Reading.alone (grouped text) flags).rest.length = 0 :=
    Nat.sub_self _
  have inGroup : { Reading.alone (grouped text) flags with rest := text ++ [')'] } = Reading.inGroup text flags := by
    simp [Reading.alone, Reading.inGroup, length]
  rw [start, inGroup] at opened
  rw [alternatives, bind_assoc]
  refine (run_bind_congr opened _).trans ?_
  simp only [bind_assoc, afterGroup, if_true]
  rfl

theorem run_afterGroup_end [CharacterNames] (fuel : Nat) (body : Item) {r : Reading} (last : r.rest = [')']) :
    (afterGroup fuel body).run r = .ok (Item.row [⟨body.node, body.width, .other⟩], { r with rest := [] }) := by
  have ended : (sequence fuel false true [⟨body.node, body.width, .other⟩]).run { r with rest := [] } =
      .ok (Item.row [⟨body.node, body.width, .other⟩], { r with rest := [] }) := by
    cases fuel <;> rw [sequence] <;> rfl
  unfold afterGroup
  rw [run_bind_of_ok (run_closing 0 last (by simp)), run_bind_of_ok ended]
  rfl

theorem node_row (item : Item) : (Item.row [item]).node = item.node := by
  simp [Item.row]

theorem fails_closing {r : Reading} (unclosed : Unclosed r.rest) (start : Nat) :
    ∃ failure, (closing start).run r = .error failure := by
  refine ⟨.malformed "missing ), unterminated subpattern" (some start), ?_⟩
  have other : unit? r.rest ≠ some [')'] := fun next => unclosed (by rw [units_of_unit? next]; exact List.mem_cons_self)
  unfold closing
  rw [accept_bind_eq, run_peek_bind, if_neg other]
  rfl

/-! ## Both ways of reading -/

/-- What reading a pattern yields by itself and in a group. -/
inductive Compared : Except Failure α → Except Failure α → Prop
  | alike (a : α) : Compared (.ok a) (.ok a)
  | neither (failure failure' : Failure) : Compared (.error failure) (.error failure')
  | unbalanced (position : Option Nat) (result' : Except Failure α) :
    Compared (.error (.malformed "unbalanced parenthesis" position)) result'

theorem find?_of_keys {γ δ : Type} {entries : List (Nat × γ)} {entries' : List (Nat × δ)}
    (same : entries'.map (·.1) = entries.map (·.1)) (p : Nat → Bool) :
    (entries'.find? fun entry => p entry.1).isSome = (entries.find? fun entry => p entry.1).isSome := by
  have keys := congrArg (List.find? p) same
  rw [List.find?_map, List.find?_map] at keys
  have found := congrArg Option.isSome keys
  rwa [Option.isSome_map, Option.isSome_map] at found

theorem finish_compared {r r' : Reading} {all : PatternFlags} (beside : Beside r r')
    (settled : settleFlags r.flags = .ok all) (ended : r.rest = []) {item item' : Item} (same : item.node = item'.node) :
    Compared (((finish item).run r).map (·.1)) (((finish item').run { r' with rest := [] }).map (·.1)) := by
  have conditions := find?_of_keys beside.conditions fun index => r.groups ≤ index
  have groups : Reading.groups { r' with rest := [] } = r.groups := beside.alike.groups
  rw [run_finish_end settled ended, run_finish_end (by rw [← settled]; exact congrArg _ beside.flags) rfl, groups, same]
  cases found : r.conditions.find? fun entry => r.groups ≤ entry.1 with
  | none =>
    cases found' : r'.conditions.find? fun entry => r.groups ≤ entry.1 with
    | none => exact .alike (item'.node, all)
    | some entry' =>
      rw [found, found'] at conditions
      cases conditions
  | some entry =>
    cases found' : r'.conditions.find? fun entry => r.groups ≤ entry.1 with
    | none =>
      rw [found, found'] at conditions
      cases conditions
    | some entry' => exact .neither _ _

theorem read_eq [CharacterNames] (text : Text) (flags : PatternFlags) :
    read text flags = (readWhole.run (.alone text flags)).map (·.1) := by
  unfold read
  change (readWhole.run (.alone text flags) >>= _) = _
  cases readWhole.run (.alone text flags) <;> rfl

theorem read_grouped_of_unclosed [CharacterNames] {text : Text} {flags : PatternFlags} (plain : flags.has PatternFlags.verbose = false)
    (unclosed : ∀ body now, (alternatives (2 * (text.length + 4)) false false false).run (.inGroup text flags) =
      .ok (body, now) → Unclosed now.rest) :
    ∃ failure, read (grouped text) flags = .error failure := by
  rw [read_eq, run_readWhole_grouped text plain]
  cases result : (alternatives (2 * (text.length + 4)) false false false).run (.inGroup text flags) with
  | error failure => exact ⟨failure, by rw [run_bind_of_error result]; rfl⟩
  | ok found =>
    obtain ⟨failure, failed⟩ := fails_closing (unclosed found.1 found.2 result) 0
    refine ⟨failure, ?_⟩
    rw [run_bind_of_ok result, afterGroup, bind_assoc, run_bind_of_error failed]
    rfl

theorem reads_body [CharacterNames] {text : Text} {flags all : PatternFlags} (settled : settleFlags flags = .ok all)
    (plain : flags.has PatternFlags.verbose = false) (unset : ¬SetsFlags text) :
    Compared (read text flags) (read (grouped text) flags) := by
  by_cases whole : text = ['\\']
  · subst whole
    obtain ⟨failure, failed⟩ := @read_grouped_of_unclosed _ ['\\'] flags plain fun body now read =>
      Unclosed.onward (show Unclosed ['\\', ')'] by decide) (moves_alternatives _ _ _ read)
    rw [failed]
    exact .neither _ _
  have same := run_alternatives_first (2 * text.length + 2) (r := .alone text flags) plain unset
  have both : Together (text.length + 1) false (alternatives (2 * text.length + 2) false false false)
      (alternatives (2 * (text.length + 4)) false false false) :=
    (together_readers (text.length + 1)).1 false (by omega) (by omega)
  have joint := both.joint (beside_inGroup whole flags) (Nat.lt_succ_self _)
  rw [read_eq text, run_readWhole_alone whole, plain, run_bind_congr same]
  generalize result : (alternatives (2 * text.length + 2) false false false).run (.alone text flags) = found,
    result' : (alternatives (2 * (text.length + 4)) false false false).run (.inGroup text flags) = found' at joint
  cases joint with
  | @step body now now' beside =>
    rw [run_bind_of_ok result]
    have settled : settleFlags now.flags = .ok all := by
      rw [(within_of_keeps (fun _ _ => (keeps_readers _).1 false false) result).flags]
      exact settled
    by_cases ended : now.rest = []
    · rw [read_eq, run_readWhole_grouped text plain, run_bind_of_ok result',
        run_bind_of_ok (run_afterGroup_end _ body (by rw [beside.rest, ended]; rfl))]
      exact finish_compared beside settled ended (node_row ⟨body.node, body.width, .other⟩).symm
    · rw [run_finish_left settled ended]
      exact .unbalanced _ _
  | apart ended past =>
    obtain ⟨failure', failed'⟩ := read_grouped_of_unclosed plain fun body now read => past body now (result'.symm.trans read)
    rw [failed']
    cases found with
    | ok found => exact absurd (ended found.1 found.2 rfl).1 Bool.false_ne_true
    | error failure =>
      rw [run_bind_of_error result]
      exact .neither _ _

/-! ## Flags in a group -/

theorem length_units_le (text : Text) : (units text).length ≤ text.length := by
  fun_induction units text with
  | case1 => exact Nat.le_refl 0
  | case2 c rest ih => simp only [List.length_cons]; omega
  | case3 c rest _ ih => simp only [List.length_cons]; omega

theorem units_cons_of_ne {c : Char} (h : c ≠ '\\') (rest : Text) : units (c :: rest) = [c] :: units rest :=
  units_of_unit? (unit?_cons_of_ne h rest)

theorem units_concat (text : Text) :
    units (text ++ [')']) = units text ++ [[')']] ∨
      ∃ before, units text = before ++ [['\\']] ∧ units (text ++ [')']) = before ++ [['\\', ')']] := by
  fun_induction units text with
  | case1 => exact .inl rfl
  | case2 c rest ih =>
    rw [List.cons_append, List.cons_append, units]
    rcases ih with same | ⟨before, same, longer⟩
    · exact .inl (congrArg (['\\', c] :: ·) same)
    · exact .inr ⟨['\\', c] :: before, congrArg (['\\', c] :: ·) same, congrArg (['\\', c] :: ·) longer⟩
  | case3 c rest other ih =>
    by_cases escape : c = '\\'
    · cases rest with
      | nil => exact .inr ⟨[], by rw [escape]; exact ⟨rfl, rfl⟩⟩
      | cons d rest => exact (other d rest escape rfl).elim
    · rw [List.cons_append, units_cons_of_ne escape]
      rcases ih with same | ⟨before, same, longer⟩
      · exact .inl (congrArg ([c] :: ·) same)
      · exact .inr ⟨[c] :: before, congrArg ([c] :: ·) same, congrArg ([c] :: ·) longer⟩

theorem FlagsAhead.closed {lead : List Text} (h : FlagsAhead lead) : ∃ before, lead = before ++ [[')']] := by
  induction h with
  | flags nonempty known => exact ⟨['('] :: ['?'] :: _, rfl⟩
  | @comment inside lead still after ih =>
    obtain ⟨before, rfl⟩ := ih
    exact ⟨['('] :: ['?'] :: ['#'] :: (inside ++ [')'] :: before), by simp⟩

theorem SetsFlags.concat {text : Text} (h : SetsFlags text) : SetsFlags (text ++ [')']) := by
  obtain ⟨lead, ahead, before⟩ := h
  refine ⟨lead, ahead, ?_⟩
  rcases units_concat text with same | ⟨others, same, longer⟩
  · rw [same]
    exact before.trans (List.prefix_append _ _)
  · rw [same] at before
    rw [longer]
    rcases List.prefix_concat_iff.1 before with rfl | before
    · obtain ⟨others', last⟩ := ahead.closed
      cases (List.append_inj' last rfl).2
    · exact before.trans (List.prefix_append _ _)

theorem refuses_grouped [CharacterNames] {text : Text} {flags : PatternFlags} (plain : flags.has PatternFlags.verbose = false)
    (sets : SetsFlags text) : ∃ message position, read (grouped text) flags = .error (.malformed message position) := by
  obtain ⟨lead, ahead, before⟩ := sets.concat
  have enough : lead.length ≤ 2 * (text.length + 3) + 1 := by
    have short := before.length_le.trans (length_units_le _)
    rw [List.length_append] at short
    exact short.trans (by simp; omega)
  have refused : Refuses (do
      let body ← alternatives (2 * (text.length + 4)) false false false
      let item ← afterGroup (2 * (text.length + 4)) body
      finish item : Reader (Node × PatternFlags)) (.inGroup text flags) := by
    refine .bind_refused ?_
    rw [show 2 * (text.length + 4) = 2 * (text.length + 3) + 1 + 1 by omega, alternatives]
    exact .bind_refused (refuses_sequence ahead enough before false [])
  rw [read_eq, run_readWhole_grouped text plain]
  unfold Refuses Yields at refused
  split at refused
  · exact refused.elim
  · rename_i failure failed
    obtain ⟨message, position, rfl⟩ := refused
    exact ⟨message, position, by rw [failed]; rfl⟩

/-! ## Patterns of rules -/

theorem compile_of_read_error [CharacterNames] {text : Text} {flags : PatternFlags} {failure : Failure}
    (failed : read text flags = .error failure) : compile text flags = .error failure := by
  unfold compile
  rw [failed]
  rfl

theorem compile_eq_ok_iff [CharacterNames] {text : Text} {flags : PatternFlags} {found : Node × PatternFlags}
    (same : read text flags = .ok found) {pattern : Pattern} :
    compile text flags = .ok pattern ↔
      found.1.refusal? found.2 = none ∧ ¬PatternFlags.bound ≤ found.2 ∧ pattern = ⟨text, found.2, found.1⟩ := by
  obtain ⟨root, all⟩ := found
  unfold compile
  rw [same]
  have read : (Except.ok (root, all) : Except Failure (Node × PatternFlags)) = pure (root, all) := rfl
  rw [read, pure_bind]
  dsimp only
  cases root.refusal? all with
  | some message => exact ⟨(nomatch ·), fun h => nomatch h.1⟩
  | none =>
    by_cases large : PatternFlags.bound ≤ all
    · rw [if_pos large]
      exact ⟨(nomatch ·), fun h => absurd large h.2.1⟩
    · rw [if_neg large]
      exact ⟨fun h => ⟨rfl, large, (Except.ok.inj h).symm⟩, fun h => congrArg Except.ok h.2.2.symm⟩

theorem compile_alike [CharacterNames] {text text' : Text} {flags : PatternFlags} {found : Node × PatternFlags}
    (same : read text flags = .ok found) (same' : read text' flags = .ok found) {pattern : Pattern}
    (compiled : compile text flags = .ok pattern) : compile text' flags = .ok { pattern with text := text' } := by
  rw [compile_eq_ok_iff same] at compiled
  rw [compile_eq_ok_iff same']
  obtain ⟨accepted, small, rfl⟩ := compiled
  exact ⟨accepted, small, rfl⟩

theorem ofRule_of_ok [CharacterNames] {text : Text} {rule : Int} {caseInsensitive : Bool} {pattern : Pattern}
    (compiled : compile (grouped text) (if caseInsensitive then PatternFlags.ignoreCase else 0) = .ok pattern) :
    ofRule text rule caseInsensitive = .ok pattern := by
  unfold ofRule
  dsimp only
  rw [compiled]

theorem ofRule_of_error [CharacterNames] {text : Text} {rule : Int} {caseInsensitive : Bool} {failure : Failure}
    (failed : compile (grouped text) (if caseInsensitive then PatternFlags.ignoreCase else 0) = .error failure) :
    ofRule text rule caseInsensitive = .error (failure.toError (grouped text) rule text) := by
  unfold ofRule
  dsimp only
  rw [failed]

theorem error_of_ofRule [CharacterNames] {text : Text} {rule : Int} {caseInsensitive : Bool} {e : Error}
    (failed : ofRule text rule caseInsensitive = .error e) :
    (∃ message, e = .badPattern rule (String.ofList text) message) ∨ ∃ fault, e = .fault fault ∧ Oversized text fault := by
  have expected := failsWith_ofRule text rule caseInsensitive e failed
  cases expected with
  | fault h => exact .inr ⟨_, rfl, h⟩
  | own h =>
    cases compiled : compile (grouped text) (if caseInsensitive then PatternFlags.ignoreCase else 0) with
    | ok pattern => exact nomatch (ofRule_of_ok compiled).symm.trans failed
    | error failure =>
      obtain rfl := Except.error.inj ((ofRule_of_error compiled).symm.trans failed)
      cases failure with
      | malformed message position => exact .inl ⟨_, rfl⟩
      | tooLarge => cases h
      | badValue => cases h

/-- The pattern of a rule is compiled like the pattern by itself, with two exceptions: flags for the whole pattern are
refused, and a closing parenthesis too many may be taken for the end of the group around the pattern. -/
theorem compiled_as_group [CharacterNames] (text : Text) (rule : Int) (caseInsensitive : Bool) :
    (∀ alone, compile text (if caseInsensitive then PatternFlags.ignoreCase else 0) = .ok alone → ¬SetsFlags text →
      ∃ pattern, ofRule text rule caseInsensitive = .ok pattern ∧
        ∀ before after, pattern.matchLength before after = alone.matchLength before after) ∧
    (∀ alone, compile text (if caseInsensitive then PatternFlags.ignoreCase else 0) = .ok alone → SetsFlags text →
      ∃ message, ofRule text rule caseInsensitive = .error (.badPattern rule (String.ofList text) message)) ∧
    (∀ pattern, ofRule text rule caseInsensitive = .ok pattern →
      (∃ alone, compile text (if caseInsensitive then PatternFlags.ignoreCase else 0) = .ok alone) ∨
        ∃ position, compile text (if caseInsensitive then PatternFlags.ignoreCase else 0) =
          .error (.malformed "unbalanced parenthesis" position)) ∧
    ∀ e, ofRule text rule caseInsensitive = .error e →
      (∃ message, e = .badPattern rule (String.ofList text) message) ∨
        ∃ fault, e = .fault fault ∧ Oversized text fault := by
  have plain : (if caseInsensitive then PatternFlags.ignoreCase else 0).has PatternFlags.verbose = false := by
    cases caseInsensitive <;> decide
  obtain ⟨all, settled⟩ : ∃ all, settleFlags (if caseInsensitive then PatternFlags.ignoreCase else 0) = .ok all := by
    cases caseInsensitive <;> exact ⟨_, rfl⟩
  refine ⟨fun alone compiled unset => ?_, fun alone _ sets => ?_, fun pattern compiled => ?_,
    fun e failed => error_of_ofRule failed⟩
  · cases found : read text (if caseInsensitive then PatternFlags.ignoreCase else 0) with
    | error failure => exact nomatch (compile_of_read_error found).symm.trans compiled
    | ok found' =>
      have compared := reads_body settled plain unset
      rw [found] at compared
      generalize grouping : read (grouped text) _ = result at compared
      cases compared
      exact ⟨_, ofRule_of_ok (compile_alike found grouping compiled), fun _ _ => rfl⟩
  · obtain ⟨message, position, refused⟩ := refuses_grouped plain sets
    exact ⟨_, ofRule_of_error (compile_of_read_error refused)⟩
  · have unset : ¬SetsFlags text := by
      intro sets
      obtain ⟨message, position, refused⟩ := refuses_grouped plain sets
      exact nomatch (ofRule_of_error (compile_of_read_error refused)).symm.trans compiled
    have compared := reads_body settled plain unset
    generalize found : read text _ = result, grouping : read (grouped text) _ = result' at compared
    cases compared with
    | alike both =>
      cases whole : compile (grouped text) (if caseInsensitive then PatternFlags.ignoreCase else 0) with
      | error failure => exact nomatch (ofRule_of_error whole).symm.trans compiled
      | ok pattern' => exact .inl ⟨_, compile_alike grouping found whole⟩
    | neither failure failure' => exact nomatch (ofRule_of_error (compile_of_read_error grouping)).symm.trans compiled
    | unbalanced position => exact .inr ⟨position, compile_of_read_error found⟩

example :
    let _ : CharacterNames := ⟨fun name => if name = "DIGIT ONE".toList then some '1' else none⟩
    (ofRule "\\N\x7bDIGIT ONE\x7d+".toList 0 false).toOption.bind (·.matchLength ['0'] ['1', '1', '2']) = some 2 := by
  decide +kernel

/-- Flags at the beginning of a pattern are refused in the group, and one parenthesis too many is accepted. -/
theorem group_changes_patterns :
    (compile "(?i)a".toList 0).map (·.matchLength [] ['A']) = .ok (some 1) ∧
      ofRule "(?i)a".toList 0 false = .error (.badPattern 0 "(?i)a"
        "global flags not at the start of the expression at position 3") ∧
      compile "a)(?:b".toList 0 = .error (.malformed "unbalanced parenthesis" (some 1)) ∧
      (ofRule "a)(?:b".toList 0 false).map (·.matchLength [] ['a', 'b']) = .ok (some 2) :=
  ⟨by rfl, by rfl, by rfl, by rfl⟩

end LexGen.Pattern
