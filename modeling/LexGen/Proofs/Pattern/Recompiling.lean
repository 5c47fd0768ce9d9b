import LexGen.Proofs.Pattern.Grouping
import LexGen.Proofs.Pattern.Ignoring

/-!
# Compiling a pattern again

A compiled pattern has the flags that it was given and the flags that its text sets at the beginning. When its text is
compiled with those of these flags that are told of it, the text sets the same flags again, and the pattern is the same.

* `run_sequence_again`, `run_alternatives_again`: reading with more flags, which are set by then anyway.
* `compile_shownFlags`: a pattern whose flags are known is compiled again from its text and its flags.
-/

namespace LexGen.Pattern

/-! ## Flags as sets -/

theorem has_union (flags bits other : PatternFlags) : (flags.union bits).has other = (flags.has other || bits.has other) := by
  rw [PatternFlags.has, PatternFlags.union, Nat.and_or_distrib_right, Bool.eq_iff_iff]
  simp only [bne_iff_ne, ne_eq, Nat.or_eq_zero_iff, not_and_or, Bool.or_eq_true, PatternFlags.has]

theorem has_and (flags bits other : PatternFlags) (inside : bits &&& other = other) :
    (PatternFlags.has (flags &&& bits) other) = flags.has other := by
  rw [PatternFlags.has, PatternFlags.has, Nat.and_assoc, inside]

theorem union_self (flags : PatternFlags) : flags.union flags = flags := Nat.or_self flags

theorem union_right_comm (flags bits other : PatternFlags) :
    (flags.union bits).union other = (flags.union other).union bits := by
  rw [union_assoc, union_assoc]
  exact congrArg _ (Nat.or_comm bits other)

/-! ## The beginning of a sequence -/

theorem eq_cons_of_units {text : Text} {c : Char} {more : List Text} (next : units text = [c] :: more) :
    ∃ others, text = c :: others ∧ units others = more := by
  obtain ⟨found, rest⟩ := unit?_of_units next
  obtain ⟨others, rfl⟩ := eq_cons_of_unit? found
  exact ⟨others, rfl, rest⟩

theorem SetsFlags.opens {text : Text} (sets : SetsFlags text) : ∃ others, text = '(' :: '?' :: others ∧ others ≠ ['\\'] ∧
    ∀ (start : Nat) (r : Reading), r.rest = others → Yields (fun opening _ => opening = .nothing) (specialOpening start true) r := by
  obtain ⟨lead, ahead, more, written⟩ := sets
  cases ahead with
  | @flags letters nonempty known =>
    have whole : units text = ['('] :: ['?'] :: (letters.map ([·]) ++ [')'] :: more) := by simp [← written]
    obtain ⟨opened, rfl, question⟩ := eq_cons_of_units whole
    obtain ⟨others, rfl, next⟩ := eq_cons_of_units question
    refine ⟨others, rfl, ?_, fun start r rest => ?_⟩
    · rintro rfl
      obtain ⟨c, letters, rfl⟩ := List.exists_cons_of_ne_nil nonempty
      have first := known c List.mem_cons_self
      obtain rfl : '\\' = c := (List.cons.inj (List.cons.inj next).1).1
      cases first
    · exact (yields_specialOpening_flags start nonempty known (rest ▸ next) true).mono fun _ _ yielded => yielded.1
  | @comment inside lead still =>
    have whole : units text = ['('] :: ['?'] :: ['#'] :: (inside ++ [')'] :: (lead ++ more)) := by simp [← written]
    obtain ⟨opened, rfl, question⟩ := eq_cons_of_units whole
    obtain ⟨others, rfl, next⟩ := eq_cons_of_units question
    refine ⟨others, rfl, ?_, fun start r rest => ?_⟩
    · rintro rfl
      cases (List.cons.inj next).1
    · exact (yields_specialOpening_comment start still (rest ▸ next) true).mono fun _ _ yielded => yielded.1

theorem run_sequence_special (fuel : Nat) (verbose : Bool) {r : Reading} {others : Text} (inside : others ≠ ['\\'])
    (rest : r.rest = '(' :: '?' :: others) :
    (∀ failure, (specialOpening (r.total - r.rest.length) true).run { r with rest := others } = .error failure →
      (sequence (fuel + 1) verbose true []).run r = .error failure) ∧
    ∀ now, (specialOpening (r.total - r.rest.length) true).run { r with rest := others } = .ok (.nothing, now) →
      (sequence (fuel + 1) verbose true []).run r =
        (sequence fuel (verbose || now.flags.has PatternFlags.verbose) true []).run now := by
  have opened : take.run r = .ok (some ['('], { r with rest := '?' :: others }) := by
    rw [run_take (show unit? r.rest = some ['('] by rw [rest]; rfl) (by simp [rest])]
    simp [rest]
  have special : take.run { r with rest := '?' :: others } = .ok (some ['?'], { r with rest := others }) :=
    run_take rfl (by simpa using inside)
  have counts : isLayout '(' = false := by decide
  have step {γ δ : Type} (a : γ) (f : γ → Except Failure δ) : (Except.ok a >>= f) = f a := rfl
  constructor
  · intro failure failed
    rw [sequence]
    simp [peek, unit?, position, accept, opened, special, counts, step, rest] at failed ⊢
    rw [failed]
    rfl
  · intro now ended
    rw [sequence]
    simp [peek, unit?, position, accept, opened, special, counts, step, rest] at ended ⊢
    rw [ended]
    rfl

/-! ## Reading again -/

/-- Flags under which white space counts as under the first ones or as under the last ones. -/
structure Between (first flags last : PatternFlags) : Prop where
  least : first.has PatternFlags.verbose = true → flags.has PatternFlags.verbose = true
  most : flags.has PatternFlags.verbose = true → last.has PatternFlags.verbose = true

theorem Between.union {first flags add last : PatternFlags} (h : Between first flags last)
    (added : add.has PatternFlags.verbose = true → last.has PatternFlags.verbose = true) :
    Between (first.union add) (flags.union add) last := by
  constructor
  · rw [has_union, has_union, Bool.or_eq_true, Bool.or_eq_true]
    exact Or.imp_left h.least
  · rw [has_union, Bool.or_eq_true]
    exact fun either => either.elim h.most added

theorem Between.same {first flags add : PatternFlags} (h : Between first flags (first.union add)) :
    (flags.union add).has PatternFlags.verbose = (first.union add).has PatternFlags.verbose := by
  have added : add.has PatternFlags.verbose = true → (first.union add).has PatternFlags.verbose = true := by
    intro some
    rw [has_union, some, Bool.or_true]
  have between := h.union added
  exact Bool.eq_iff_iff.2 ⟨between.most, between.least⟩

/-- A reader, of which it is told whether white space counts, changes flags only by adding known ones. Under flags that
lie between those before and those after it, it does the same and adds the same flags. -/
def Again (x : Bool → Reader α) (r : Reading) : Prop :=
  ∀ ⦃a now⦄, (x (r.flags.has PatternFlags.verbose)).run r = .ok (a, now) → ∃ add < knownFlags, now.flags = r.flags.union add ∧
    ∀ g, Between r.flags g now.flags →
      (x (g.has PatternFlags.verbose)).run { r with flags := g } = .ok (a, { now with flags := g.union add })

theorem Again.of_ignores {x : Bool → Reader α} {r : Reading} {y : Reader α}
    (same : ∀ g : PatternFlags, g.has PatternFlags.verbose = r.flags.has PatternFlags.verbose →
      (x (g.has PatternFlags.verbose)).run { r with flags := g } = y.run { r with flags := g })
    (ignores : ∀ g, Ignores g y) (kept : ∀ text flags, Keeps text flags y) : Again x r := by
  intro a now ended
  have here : y.run r = .ok (a, now) := (same r.flags rfl).symm.trans ended
  have flags : now.flags = r.flags := (within_of_keeps kept here).flags
  refine ⟨0, by decide, by rw [flags, union_zero], fun g between => ?_⟩
  rw [flags] at between
  rw [same g (Bool.eq_iff_iff.2 ⟨between.most, between.least⟩), ignores g r, here, union_zero]
  rfl

theorem run_sequence_again (fuel : Nat) (r : Reading) : Again (fun verbose => sequence fuel verbose true []) r := by
  induction fuel generalizing r with
  | zero => exact .of_ignores (fun _ _ => rfl) (fun _ => ignores_pure (Item.row [])) fun _ _ => keeps_pure _
  | succ fuel ih =>
    by_cases ignored : r.flags.has PatternFlags.verbose = true
    · -- white space does not count from the beginning on, so the flags are not asked for
      intro a now ended
      rw [ignored] at ended
      obtain ⟨failure, failed⟩ | ⟨found, last, add, known, all⟩ := (uniform_readers (fuel + 1)).2 true true [] r (.inl rfl)
      · cases (failed r.flags).symm.trans ended
      · obtain ⟨rfl, rfl⟩ := Prod.mk.inj (Except.ok.inj ((all r.flags).symm.trans ended))
        refine ⟨add, known, rfl, fun g between => ?_⟩
        dsimp only
        rw [between.least ignored]
        exact all g
    · have plain : r.flags.has PatternFlags.verbose = false := Bool.eq_false_iff.2 ignored
      by_cases sets : SetsFlags r.rest
      · intro a now ended
        obtain ⟨others, rest, inside, opens⟩ := sets.opens
        obtain ⟨failure, failed⟩ | ⟨opening, next, add, known, all⟩ :=
          uniform_specialOpening (r.total - r.rest.length) true { r with rest := others }
        · rw [(run_sequence_special fuel _ inside rest).1 failure (failed r.flags)] at ended
          cases ended
        · obtain rfl : opening = .nothing := by
            have yielded := opens (r.total - r.rest.length) { r with rest := others } rfl
            unfold Yields at yielded
            rw [show StateT.run _ _ = _ from all r.flags] at yielded
            exact yielded
          have step (g : PatternFlags) : (sequence (fuel + 1) (g.has PatternFlags.verbose) true []).run { r with flags := g } =
              (sequence fuel ((g.union add).has PatternFlags.verbose) true []).run { next with flags := g.union add } := by
            have once := (run_sequence_special fuel (g.has PatternFlags.verbose) (r := { r with flags := g }) inside rest).2
              _ (all g)
            dsimp only at once
            rwa [has_union, ← Bool.or_assoc, Bool.or_self, ← has_union] at once
          obtain ⟨more, known', flags, again⟩ := ih { next with flags := r.flags.union add } ((step r.flags).symm.trans ended)
          dsimp only at flags again
          refine ⟨add.union more, union_known known known', by rw [flags, union_assoc], fun g between => ?_⟩
          have added : add.has PatternFlags.verbose = true → now.flags.has PatternFlags.verbose = true := by
            intro some
            rw [flags, has_union, has_union, some, Bool.or_true, Bool.true_or]
          dsimp only
          rw [step g, again _ (between.union added), union_assoc]
      · refine .of_ignores (fun g same => ?_) (fun g => ignores_sequence (fuel + 1) (r.flags.has PatternFlags.verbose) [])
          fun _ _ => (keeps_readers (fuel + 1)).2 _ _ _ rfl
        rw [same, plain]
        exact run_sequence_first (fuel + 1) fun _ => ⟨rfl, same.trans plain, sets⟩

/-! ## Alternatives -/

def otherAlternatives (fuel : Nat) (item : Item) : Reader Item := do
  if ← accept '|' then
    let flags := (← get).flags
    let rest ← alternatives fuel (flags.has PatternFlags.verbose) true false
    return ⟨.alt item.node rest.node, item.width.join rest.width, .other⟩
  else return item

theorem run_otherAlternatives (fuel : Nat) (item : Item) (r : Reading) :
    (otherAlternatives fuel item).run r =
      (do
        if ← accept '|' then
          let rest ← alternatives fuel (r.flags.has PatternFlags.verbose) false false
          return ⟨.alt item.node rest.node, item.width.join rest.width, .other⟩
        else return item : Reader Item).run r := by
  refine run_bind_eq fun more now accepted => ?_
  have same : now.flags = r.flags := (within_of_keeps (fun _ _ => keeps_accept _) accepted).flags
  split
  · have rest := run_alternatives_top fuel (congrArg (PatternFlags.has · PatternFlags.verbose) same)
    rw [run_bind_of_ok (show (get : Reader Reading).run now = .ok (now, now) from rfl), ← same]
    rw [← same] at rest
    exact run_bind_congr rest _
  · rfl

theorem otherAlternatives_again (fuel : Nat) (item : Item) {r now : Reading} {a : Item}
    (ended : (otherAlternatives fuel item).run r = .ok (a, now)) : now.flags = r.flags ∧
      ∀ g : PatternFlags, g.has PatternFlags.verbose = r.flags.has PatternFlags.verbose →
        (otherAlternatives fuel item).run { r with flags := g } = .ok (a, { now with flags := g }) := by
  rw [run_otherAlternatives] at ended
  constructor
  · refine (within_of_keeps (fun text flags => ?_) ended).flags
    refine (keeps_accept _).bind fun _ => .ite (fun _ => ?_) fun _ => keeps_pure _
    exact ((keeps_readers fuel).1 _ _).bind fun _ => keeps_pure _
  · intro g same
    have ignores : Ignores g (do
        if ← accept '|' then
          let rest ← alternatives fuel (r.flags.has PatternFlags.verbose) false false
          return ⟨.alt item.node rest.node, item.width.join rest.width, .other⟩
        else return item : Reader Item) := by
      refine (ignores_accept _).bind fun _ => .ite (fun _ => ?_) fun _ => ignores_pure _
      exact (ignores_alternatives _ _).bind fun _ => ignores_pure _
    rw [run_otherAlternatives]
    dsimp only
    rw [same, ignores r, ended]
    rfl

theorem run_alternatives_again (fuel : Nat) (r : Reading) : Again (fun verbose => alternatives fuel verbose true true) r := by
  cases fuel with
  | zero => exact .of_ignores (fun _ _ => rfl) (fun _ => ignores_pure (Item.row [])) fun _ _ => keeps_pure _
  | succ fuel =>
    have first (verbose : Bool) :
        alternatives (fuel + 1) verbose true true = sequence fuel verbose true [] >>= otherAlternatives fuel := by
      rw [alternatives]
      rfl
    intro a last ended
    dsimp only at ended
    rw [first] at ended
    obtain ⟨item, now, read, ended⟩ := ok_of_run_bind ended
    obtain ⟨add, known, flags, again⟩ := run_sequence_again fuel r read
    obtain ⟨still, others⟩ := otherAlternatives_again fuel item ended
    refine ⟨add, known, still.trans flags, fun g between => ?_⟩
    rw [still] at between
    dsimp only
    rw [first, run_bind_of_ok (again g between)]
    rw [flags] at between
    exact others _ (by rw [flags]; exact between.same)

/-! ## Whole patterns -/

theorem verbose_settleFlags {flags all : PatternFlags} (settled : settleFlags flags = .ok all) :
    all.has PatternFlags.verbose = flags.has PatternFlags.verbose := by
  unfold settleFlags at settled
  split at settled
  · cases settled
  · split at settled
    · obtain rfl := Except.ok.inj settled
      rw [has_union]
      exact Bool.or_false _
    · split at settled
      · cases settled
      · obtain rfl := Except.ok.inj settled
        rfl

/-- A pattern is read as it was before with other flags that are the same ones in the end. -/
theorem read_again {text : Text} {flags all : PatternFlags} {root : Node} (h : read text flags = .ok (root, all)) :
    ∃ add < knownFlags, settleFlags (flags.union add) = .ok all ∧
      ∀ g, Between flags g all → settleFlags (g.union add) = .ok all → read text g = .ok (root, all) := by
  obtain ⟨⟨found, last⟩, ended, h⟩ := ok_of_bind h
  obtain rfl : found = (root, all) := Except.ok.inj h
  change readWhole.run (.alone text flags) = _ at ended
  have whole : text ≠ ['\\'] := by
    rintro rfl
    cases ended
  rw [run_readWhole_alone whole] at ended
  obtain ⟨item, now, read, ended⟩ := ok_of_run_bind ended
  obtain ⟨add, known, collected, again⟩ := run_alternatives_again _ (.alone text flags) read
  cases settled : settleFlags now.flags with
  | error failure =>
    rw [run_finish_unsettled settled] at ended
    cases ended
  | ok settledFlags =>
    by_cases left : now.rest = []
    swap
    · rw [run_finish_left settled left] at ended
      cases ended
    rw [run_finish_end settled left] at ended
    split at ended
    · cases ended
    rename_i inRange
    obtain ⟨same, rfl⟩ := Prod.mk.inj (Except.ok.inj ended)
    obtain ⟨rfl, rfl⟩ := Prod.mk.inj same
    rw [collected] at settled
    refine ⟨add, known, settled, fun g between resettled => ?_⟩
    have reread := again g ⟨between.least, fun counts => ?_⟩
    · have finished : (finish item).run { now with flags := g.union add } =
          .ok ((item.node, settledFlags), { now with flags := g.union add }) := by
        rw [run_finish_end (r := { now with flags := g.union add }) resettled left]
        dsimp only
        rw [show Reading.groups { now with flags := g.union add } = now.groups from rfl, inRange]
      have run : readWhole.run (.alone text g) = .ok ((item.node, settledFlags), { now with flags := g.union add }) := by
        rw [run_readWhole_alone whole]
        exact (run_bind_of_ok reread finish).trans finished
      change readWhole.run (.alone text g) >>= _ = _
      rw [run]
      rfl
    · rw [collected, ← verbose_settleFlags settled]
      exact between.most counts

/-! ## Compiled patterns -/

theorem shown_union_unicode {flags : PatternFlags} (known : flags < knownFlags) :
    PatternFlags.union (flags &&& PatternFlags.shown) PatternFlags.unicode = flags.union PatternFlags.unicode := by
  have all : ∀ flags < knownFlags, PatternFlags.union (flags &&& PatternFlags.shown) PatternFlags.unicode = flags.union PatternFlags.unicode := by
    decide +kernel
  exact all flags known

theorem shown_of_known {flags : PatternFlags} (known : flags < knownFlags) (plain : flags.has PatternFlags.unicode = false) :
    flags &&& PatternFlags.shown = flags := by
  have all : ∀ flags < knownFlags, PatternFlags.has flags PatternFlags.unicode = false → flags &&& PatternFlags.shown = flags := by
    decide +kernel
  exact all flags known plain

/-- The flags that are told of a pattern, together with those that its text sets, are settled as the flags of the
pattern. -/
theorem settleFlags_shown {flags add all : PatternFlags} (settled : settleFlags flags = .ok all)
    (inside : flags.union add = flags) (known : all < knownFlags) :
    settleFlags (PatternFlags.union (all &&& PatternFlags.shown) add) = .ok all := by
  have without {bits : PatternFlags} (none : flags.has bits = false) : add.has bits = false := by
    rw [← inside, has_union, Bool.or_eq_false_iff] at none
    exact none.2
  unfold settleFlags at settled
  split at settled
  · cases settled
  rename_i text
  rw [Bool.not_eq_true] at text
  split at settled
  · rename_i usual
    rw [Bool.not_eq_true'] at usual
    obtain rfl := Except.ok.inj settled
    have other {bits : PatternFlags} (told : PatternFlags.shown &&& bits = bits) (none : flags.has bits = false)
        (apart : PatternFlags.unicode.has bits = false) :
        PatternFlags.has (PatternFlags.union (flags.union PatternFlags.unicode &&& PatternFlags.shown) add) bits = false := by
      rw [has_union, has_and _ _ _ told, has_union, none, apart, without none]
      rfl
    have back : PatternFlags.union (PatternFlags.union (flags.union PatternFlags.unicode &&& PatternFlags.shown) add) PatternFlags.unicode = flags.union PatternFlags.unicode := by
      rw [union_right_comm, shown_union_unicode known, union_assoc flags, union_self, union_right_comm, inside]
    rw [settleFlags, other rfl text rfl, other rfl usual rfl, back]
    rfl
  · rename_i ascii
    split at settled
    · cases settled
    rename_i plain
    rw [Bool.not_eq_true] at plain
    obtain rfl := Except.ok.inj settled
    rw [shown_of_known known plain, inside, settleFlags, text, plain]
    simp_all

theorem known_of_settleFlags {flags all : PatternFlags} (known : flags < knownFlags)
    (settled : settleFlags flags = .ok all) : all < knownFlags := by
  unfold settleFlags at settled
  split at settled
  · cases settled
  · split at settled
    · obtain rfl := Except.ok.inj settled
      exact union_known known (by decide)
    · split at settled
      · cases settled
      · obtain rfl := Except.ok.inj settled
        exact known

theorem ofInt_natCast {n : Nat} (small : n < 2147483648) : PatternFlags.ofInt n = n := by
  have inside : (-2147483648 ≤ (n : Int) && (n : Int) < 2147483648) = true := by
    simp only [Bool.and_eq_true, decide_eq_true_eq]
    omega
  rw [PatternFlags.ofInt, inside]
  change ((n : Int) % 4294967296).toNat = n
  omega

theorem ofInt_shownFlags (pattern : Pattern) : PatternFlags.ofInt pattern.shownFlags = pattern.shownFlags :=
  ofInt_natCast (Nat.lt_of_le_of_lt Nat.and_le_right (by decide))

def Recompiles (pattern : Pattern) : Prop := compile pattern.text pattern.shownFlags = .ok pattern

/-- A pattern that is given known flags is compiled again from its text and the flags that are told of it. -/
theorem compile_shownFlags {text : Text} {flags : PatternFlags} {pattern : Pattern} (h : compile text flags = .ok pattern)
    (known : flags < knownFlags) : Recompiles pattern := by
  obtain ⟨⟨root, all⟩, result, h⟩ := ok_of_bind h
  dsimp only at h
  split at h
  · cases h
  rename_i allowed
  split at h
  · cases h
  rename_i small
  obtain rfl := Except.ok.inj h
  obtain ⟨add, adds, settled, again⟩ := read_again result
  have inside : (flags.union add).union add = flags.union add := by rw [union_assoc, union_self]
  have counts : PatternFlags.has (all &&& PatternFlags.shown) PatternFlags.verbose = all.has PatternFlags.verbose := has_and _ _ _ rfl
  have between : Between flags (all &&& PatternFlags.shown) all := by
    refine ⟨fun first => ?_, fun told => counts.symm.trans told⟩
    rw [counts, verbose_settleFlags settled, has_union, first, Bool.true_or]
  have reread := again _ between (settleFlags_shown settled inside (known_of_settleFlags (union_known known adds) settled))
  change (read text (all &&& PatternFlags.shown) >>= _) = _
  rw [reread]
  dsimp only [bind, Except.bind]
  rw [allowed]
  dsimp only
  rw [if_neg small]
  rfl

/-- The patterns of a compiled lexer, when those that come compiled were given known flags: a text is given no other. -/
theorem recompiles_of_ofGrammar {settings : Settings} {tokens : Value} {grammar : Grammar} {lexer : CompiledLexer}
    (compiled : (CompiledLexer.ofGrammar settings tokens grammar).outcome = .ok lexer)
    (known : ∀ rule ∈ grammar.rules, ∀ text flags, rule.pattern = .compiled text flags → flags < knownFlags) :
    ∀ rule ∈ lexer.rules, Recompiles rule.pattern := by
  intro rule mem
  obtain ⟨-, flags, made, given⟩ := CompiledLexer.rules_of_ofGrammar compiled rule mem
  refine compile_shownFlags made ?_
  obtain ⟨source, sourceMem, text, written⟩ | rfl := given
  · obtain own | rfl := CompiledLexer.of_mem_completed sourceMem
    · exact known source own text flags written
    · cases written
  · split <;> decide

end LexGen.Pattern
