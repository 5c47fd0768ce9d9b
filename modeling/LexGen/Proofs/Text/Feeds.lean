import LexGen.Text.Lines
import Mathlib.Data.List.Basic

/-!
# Lines between line feeds

A text is the same as its pieces between line feeds, put together again.

* `join_betweenFeeds`, `betweenFeeds_join`: the text from its pieces, and the pieces from the text.
* `betweenFeeds_append`: the pieces of two texts with a line feed between them.
-/

namespace LexGen.Text

def OnOneLine (text : Text) : Prop := '\n' ∉ text

theorem onOneLine_spaces (n : Nat) : OnOneLine (spaces n) := fun feed => by
  cases List.eq_of_mem_replicate feed

theorem onOneLine_append {left right : Text} (one : OnOneLine left) (other : OnOneLine right) :
    OnOneLine (left ++ right) :=
  fun feed => (List.mem_append.1 feed).elim one other

theorem betweenFeeds_ne_nil (text : Text) : betweenFeeds text ≠ [] := by
  fun_induction betweenFeeds text <;> simp_all

@[simp] theorem betweenFeeds_feed (text : Text) : betweenFeeds ('\n' :: text) = [] :: betweenFeeds text := by
  obtain ⟨line, lines, cut⟩ := List.exists_cons_of_ne_nil (betweenFeeds_ne_nil text)
  rw [betweenFeeds, cut]
  rfl

theorem betweenFeeds_cons {c : Char} (other : c ≠ '\n') (text : Text) :
    betweenFeeds (c :: text) = (betweenFeeds text).modifyHead (c :: ·) := by
  obtain ⟨line, lines, cut⟩ := List.exists_cons_of_ne_nil (betweenFeeds_ne_nil text)
  rw [betweenFeeds, cut]
  exact if_neg other

theorem betweenFeeds_append (left right : Text) :
    betweenFeeds (left ++ '\n' :: right) = betweenFeeds left ++ betweenFeeds right := by
  induction left with
  | nil => exact betweenFeeds_feed right
  | cons c left ih =>
    by_cases feed : c = '\n'
    · subst feed
      rw [List.cons_append, betweenFeeds_feed, betweenFeeds_feed, ih, List.cons_append]
    · obtain ⟨line, lines, cut⟩ := List.exists_cons_of_ne_nil (betweenFeeds_ne_nil left)
      rw [List.cons_append, betweenFeeds_cons feed, betweenFeeds_cons feed, ih, cut]
      rfl

theorem betweenFeeds_of_onOneLine {line : Text} (whole : OnOneLine line) : betweenFeeds line = [line] := by
  induction line with
  | nil => rfl
  | cons c line ih =>
    rw [OnOneLine, List.mem_cons, not_or] at whole
    rw [betweenFeeds_cons (Ne.symm whole.1), ih whole.2]
    rfl

theorem onOneLine_of_mem_betweenFeeds {text line : Text} (mem : line ∈ betweenFeeds text) : OnOneLine line := by
  induction text generalizing line with
  | nil =>
    rw [betweenFeeds, List.mem_singleton] at mem
    simp [OnOneLine, mem]
  | cons c text ih =>
    by_cases feed : c = '\n'
    · subst feed
      rw [betweenFeeds_feed, List.mem_cons] at mem
      rcases mem with rfl | mem
      · simp [OnOneLine]
      · exact ih mem
    · obtain ⟨first, others, cut⟩ := List.exists_cons_of_ne_nil (betweenFeeds_ne_nil text)
      rw [betweenFeeds_cons feed, cut, List.modifyHead_cons, List.mem_cons] at mem
      rw [cut] at ih
      rcases mem with rfl | mem
      · have rest : OnOneLine first := ih List.mem_cons_self
        simpa [OnOneLine, Ne.symm feed] using rest
      · exact ih (List.mem_cons_of_mem _ mem)

/-! ## Putting lines together -/

theorem join_cons (separator text : Text) {texts : List Text} (more : texts ≠ []) :
    join separator (text :: texts) = text ++ separator ++ join separator texts := by
  cases texts with
  | nil => exact absurd rfl more
  | cons other texts => rfl

theorem join_concat (separator text : Text) {texts : List Text} (some : texts ≠ []) :
    join separator (texts ++ [text]) = join separator texts ++ separator ++ text := by
  induction texts with
  | nil => exact absurd rfl some
  | cons first texts ih =>
    by_cases more : texts = []
    · subst more
      rfl
    · rw [List.cons_append, join_cons _ _ (by simp), join_cons _ _ more, ih more]
      simp only [List.append_assoc]

theorem join_betweenFeeds (text : Text) : join ['\n'] (betweenFeeds text) = text := by
  induction text with
  | nil => rfl
  | cons c text ih =>
    by_cases feed : c = '\n'
    · subst feed
      rw [betweenFeeds_feed, join_cons _ _ (betweenFeeds_ne_nil text), ih]
      rfl
    · rw [betweenFeeds_cons feed]
      obtain ⟨line, lines, cut⟩ := List.exists_cons_of_ne_nil (betweenFeeds_ne_nil text)
      rw [cut] at ih ⊢
      conv_rhs => rw [← ih]
      cases lines <;> rfl

theorem betweenFeeds_join {lines : List Text} (nonempty : lines ≠ []) (whole : ∀ line ∈ lines, OnOneLine line) :
    betweenFeeds (join ['\n'] lines) = lines := by
  induction lines with
  | nil => exact absurd rfl nonempty
  | cons line lines ih =>
    rw [List.forall_mem_cons] at whole
    by_cases more : lines = []
    · subst more
      exact betweenFeeds_of_onOneLine whole.1
    · rw [join_cons _ _ more, List.append_assoc, List.singleton_append, betweenFeeds_append,
        betweenFeeds_of_onOneLine whole.1, ih more whole.2, List.singleton_append]

end LexGen.Text
