import Mathlib.Data.List.DropRight
import Mathlib.Data.List.TakeWhile

/-!
# Stripping a list at both ends

The elements that a predicate calls blank are removed from the front and from
the back of a list.  An element that is not blank separates what happens on
its two sides.
-/

namespace LogParse

section Strip

variable {α β : Type*} (p : α → Bool)

def strip (text : List α) : List α := (text.dropWhile p).rdropWhile p

variable {p} {text lead tail before after : List α} {separator : α}

/-- The blank elements in front of the first one that is not blank. -/
theorem exists_first_not_blank (some_not : ¬ ∀ ch ∈ text, p ch = true) :
    ∃ before separator after, text = before ++ separator :: after ∧
      (∀ ch ∈ before, p ch = true) ∧ ¬ p separator = true := by
  have split := List.takeWhile_append_dropWhile (p := p) (l := text)
  cases rest : text.dropWhile p with
  | nil => exact absurd (List.dropWhile_eq_nil_iff.mp rest) some_not
  | cons separator after =>
      refine ⟨text.takeWhile p, separator, after, ?_, ?_, ?_⟩
      · rw [← rest, split]
      · intro ch member
        exact List.mem_takeWhile_imp member
      · have head := List.head?_dropWhile_not p text
        simpa [rest] using head

theorem dropWhile_append_cons (solid : ¬ p separator = true) :
    (before ++ separator :: after).dropWhile p =
      before.dropWhile p ++ separator :: after := by
  induction before with
  | nil => exact List.dropWhile_cons_of_neg solid
  | cons ch before induction =>
      by_cases blank : p ch = true
      · simpa [blank] using induction
      · simp [blank]

theorem rdropWhile_append_cons (solid : ¬ p separator = true) :
    (before ++ separator :: after).rdropWhile p =
      before ++ separator :: after.rdropWhile p := by
  have reversed : (before ++ separator :: after).reverse =
      after.reverse ++ separator :: before.reverse := by
    simp
  rw [List.rdropWhile, reversed, dropWhile_append_cons solid]
  simp [List.rdropWhile]

theorem strip_append_cons (solid : ¬ p separator = true) :
    strip p (before ++ separator :: after) =
      before.dropWhile p ++ separator :: after.rdropWhile p := by
  rw [strip, dropWhile_append_cons solid, rdropWhile_append_cons solid]

theorem strip_eq_nil (blank : ∀ ch ∈ text, p ch = true) :
    strip p text = [] := by
  rw [strip, List.dropWhile_eq_nil_iff.mpr blank, List.rdropWhile_nil]

/-- The two ends may be stripped in either order. -/
theorem dropWhile_rdropWhile (text : List α) :
    (text.rdropWhile p).dropWhile p = strip p text := by
  by_cases blank : ∀ ch ∈ text, p ch = true
  · rw [strip_eq_nil blank, List.rdropWhile_eq_nil_iff.mpr blank]
    rfl
  · obtain ⟨before, separator, after, rfl, _, solid⟩ :=
      exists_first_not_blank blank
    rw [rdropWhile_append_cons solid, dropWhile_append_cons solid,
      strip_append_cons solid]

@[simp] theorem strip_dropWhile (text : List α) :
    strip p (text.dropWhile p) = strip p text := by
  rw [strip, List.dropWhile_idempotent, strip]

@[simp] theorem strip_rdropWhile (text : List α) :
    strip p (text.rdropWhile p) = strip p text := by
  rw [← dropWhile_rdropWhile, List.rdropWhile_idempotent,
    dropWhile_rdropWhile]

@[simp] theorem strip_strip (text : List α) :
    strip p (strip p text) = strip p text := by
  rw [strip.eq_def p text, strip_rdropWhile, strip_dropWhile, strip]

/-- The first element that is not blank is kept. -/
theorem head?_strip (text : List α) :
    (strip p text).head? = (text.dropWhile p).head? := by
  by_cases blank : ∀ ch ∈ text, p ch = true
  · rw [strip_eq_nil blank, List.dropWhile_eq_nil_iff.mpr blank]
  · obtain ⟨before, separator, after, rfl, blankBefore, solid⟩ :=
      exists_first_not_blank blank
    rw [strip_append_cons solid, dropWhile_append_cons solid,
      List.dropWhile_eq_nil_iff.mpr blankBefore]
    rfl

theorem strip_append_left (blank : ∀ ch ∈ lead, p ch = true) :
    strip p (lead ++ text) = strip p text := by
  rw [strip, List.dropWhile_append_of_pos blank, strip]

theorem rdropWhile_append_right (blank : ∀ ch ∈ tail, p ch = true) :
    (text ++ tail).rdropWhile p = text.rdropWhile p := by
  have blankReversed : ∀ ch ∈ tail.reverse, p ch = true := by
    simpa using blank
  rw [List.rdropWhile, List.reverse_append,
    List.dropWhile_append_of_pos blankReversed, List.rdropWhile]

theorem strip_append_right (blank : ∀ ch ∈ tail, p ch = true) :
    strip p (text ++ tail) = strip p text := by
  rw [← dropWhile_rdropWhile, rdropWhile_append_right blank,
    dropWhile_rdropWhile]

theorem strip_eq_self (first : ∀ ch ∈ text.head?, ¬ p ch = true)
    (last : ∀ ch ∈ text.getLast?, ¬ p ch = true) : strip p text = text := by
  have leading : text.dropWhile p = text := by
    cases text with
    | nil => rfl
    | cons ch text => exact List.dropWhile_cons_of_neg (first ch rfl)
  rw [strip, leading, List.rdropWhile_eq_self_iff]
  intro nonempty
  exact last _ (List.getLast?_eq_getLast_of_ne_nil nonempty)

theorem strip_subset (text : List α) : strip p text ⊆ text := by
  intro ch member
  have within := (List.rdropWhile_prefix p (text.dropWhile p)).subset member
  exact (List.dropWhile_suffix p).subset within

theorem strip_map {f : α → β} {q : β → Bool} (text : List α)
    (same : ∀ ch, q (f ch) = p ch) :
    strip q (text.map f) = (strip p text).map f := by
  have composed : q ∘ f = p := funext same
  simp only [strip, List.rdropWhile, List.dropWhile_map, composed,
    ← List.map_reverse]

end Strip

end LogParse
