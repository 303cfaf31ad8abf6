import Mathlib.Data.List.Basic

/-! Grammars whose words say where they end: no word begins another one, so that a text is
cut into words in one way only. Nothing here depends on what the words are. -/

namespace MotorInfoUpload.Grammar

variable {Symbol : Type} {word first : List Symbol → Prop} {second : List Symbol → List Symbol → Prop}

/-- Words at the beginning of one text are one word. -/
def PrefixFree (word : List Symbol → Prop) : Prop :=
  ∀ one other rest left, word one → word other → one ++ rest = other ++ left → one = other

namespace PrefixFree

theorem sized (size : Nat) : PrefixFree fun word : List Symbol => word.length = size := by
  intro one other rest left long same texts
  exact (List.append_inj texts (long.trans same.symm)).1

theorem mono (free : PrefixFree word) (smaller : ∀ text, first text → word text) :
    PrefixFree first := by
  intro one other rest left begins starts texts
  exact free one other rest left (smaller one begins) (smaller other starts) texts

theorem bind (head : PrefixFree first) (tail : ∀ begin, first begin → PrefixFree (second begin)) :
    PrefixFree fun text => ∃ begin rest, first begin ∧ second begin rest ∧ text = begin ++ rest := by
  rintro _ _ rest left ⟨begin, more, begins, goesOn, rfl⟩ ⟨start, further, starts, continues, rfl⟩ texts
  rw [List.append_assoc, List.append_assoc] at texts
  have same := head begin start _ _ begins starts texts
  subst same
  rw [tail begin begins more further rest left goesOn continues (List.append_cancel_left texts)]

theorem words_eq {words others : List (List Symbol)} {rest left : List Symbol}
    (free : PrefixFree word) (each : ∀ text ∈ words, word text) (every : ∀ text ∈ others, word text)
    (size : words.length = others.length) (texts : words.flatten ++ rest = others.flatten ++ left) :
    words = others := by
  induction words generalizing others with
  | nil => exact (List.eq_nil_of_length_eq_zero size.symm).symm
  | cons one words ih =>
    cases others with
    | nil => cases size
    | cons other others =>
      rw [List.flatten_cons, List.flatten_cons, List.append_assoc, List.append_assoc] at texts
      have same := free one other _ _ (each one List.mem_cons_self) (every other List.mem_cons_self)
        texts
      subst same
      rw [ih (fun text member => each text (List.mem_cons_of_mem _ member))
        (fun text member => every text (List.mem_cons_of_mem _ member)) (Nat.succ.inj size)
        (List.append_cancel_left texts)]

/-- Words that begin a text of words are its first ones. -/
theorem flatten_prefix {words others : List (List Symbol)} (free : PrefixFree word)
    (some : ∀ text, word text → text ≠ []) (each : ∀ text ∈ words, word text)
    (every : ∀ text ∈ others, word text) (begins : words.flatten <+: others.flatten) :
    words <+: others := by
  induction words generalizing others with
  | nil => exact List.nil_prefix
  | cons one words ih =>
    obtain ⟨rest, texts⟩ := begins
    rw [List.flatten_cons, List.append_assoc] at texts
    cases others with
    | nil =>
      have nothing := (List.append_eq_nil_iff.mp texts).1
      exact absurd nothing (some one (each one List.mem_cons_self))
    | cons other others =>
      rw [List.flatten_cons] at texts
      have same := free one other _ _ (each one List.mem_cons_self) (every other List.mem_cons_self)
        texts
      subst same
      refine (List.prefix_cons_inj one).mpr (ih ?_ ?_ ⟨rest, List.append_cancel_left texts⟩)
      · exact fun text member => each text (List.mem_cons_of_mem _ member)
      · exact fun text member => every text (List.mem_cons_of_mem _ member)

/-- A text of words is cut into words in one way. -/
theorem flatten_inj {words others : List (List Symbol)} (free : PrefixFree word)
    (some : ∀ text, word text → text ≠ []) (each : ∀ text ∈ words, word text)
    (every : ∀ text ∈ others, word text) (texts : words.flatten = others.flatten) :
    words = others := by
  have begins := free.flatten_prefix some each every (texts ▸ List.prefix_rfl)
  have ends := free.flatten_prefix some every each (texts ▸ List.prefix_rfl)
  exact begins.eq_of_length_le ends.length_le

end PrefixFree

end MotorInfoUpload.Grammar
