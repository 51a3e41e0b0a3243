/-
# Lists put together

What cutting and inserting make of a list that is given as the join of two parts.
-/
import Mathlib.Data.List.TakeWhile

namespace GuidedXml.Lists

variable {α : Type} {p : α → Bool} {xs ys : List α}

/-- Where the second part begins, an entry is put between the parts. -/
theorem insertIdx_append (xs ys : List α) (a : α) :
    (xs ++ ys).insertIdx xs.length a = xs ++ a :: ys := by
  induction xs with
  | nil => rfl
  | cons x xs ih => simp [ih]

/-- The first part is what is taken if it passes the test and the second does not go on with it. -/
theorem takeWhile_append (hxs : ∀ x ∈ xs, p x = true) (hys : ∀ y ∈ ys.head?, p y = false) :
    (xs ++ ys).takeWhile p = xs := by
  rw [List.takeWhile_append_of_pos hxs]
  cases ys with
  | nil => simp
  | cons y ys => simp [hys y rfl]

/-- The second part is what is left if the first passes the test and the second does not go on
with it. -/
theorem dropWhile_append (hxs : ∀ x ∈ xs, p x = true) (hys : ∀ y ∈ ys.head?, p y = false) :
    (xs ++ ys).dropWhile p = ys := by
  rw [List.dropWhile_append_of_pos hxs]
  cases ys with
  | nil => rfl
  | cons y ys => simp [hys y rfl]

end GuidedXml.Lists
