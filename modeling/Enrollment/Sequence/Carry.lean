/-!
Carrying one element of an array to another place; the elements between shift by one.
-/
namespace Enrollment

/-- Move the element at `source` to `target`: those between shift by one to fill its old place. -/
def carry {α : Type} (items : Array α) (source target : Nat) : Array α :=
  match items[source]? with
  | some item => (items.eraseIdxIfInBounds source).insertIdxIfInBounds target item
  | none => items

variable {α : Type}

theorem insertIdx_length_append (before after : List α) (item : α) :
    (before ++ after).insertIdx before.length item = before ++ item :: after := by
  induction before with
  | nil => simp
  | cons first rest ih => simpa using ih

theorem eraseIdx_length_append (before after : List α) (item : α) :
    (before ++ item :: after).eraseIdx before.length = before ++ after := by
  rw [List.eraseIdx_append_of_length_le (Nat.le_refl _), Nat.sub_self, List.eraseIdx_cons_zero]

theorem rotateLeft_cons (item : α) (items : List α) :
    (item :: items).rotateLeft = items ++ [item] := by
  cases items with
  | nil => rfl
  | cons next rest => simp [List.rotateLeft]

theorem rotateRight_concat (items : List α) (item : α) :
    (items ++ [item]).rotateRight = item :: items := by
  cases items with
  | nil => rfl
  | cons first rest => simp [List.rotateRight]

/-- Carried back, an element goes in front of those it passes. -/
theorem toList_carry_back {items : Array α} (before between after : List α) (item : α)
    (h : items.toList = before ++ (between ++ item :: after)) :
    (carry items (before.length + between.length) before.length).toList =
      before ++ item :: (between ++ after) := by
  obtain rfl : items = (before ++ (between ++ item :: after)).toArray := by
    rw [← h]
  simp [carry, insertIdx_length_append, List.eraseIdx_append_of_length_le]

/-- Carried forth, an element goes behind those it passes. -/
theorem toList_carry_forth {items : Array α} (before between after : List α) (item : α)
    (h : items.toList = before ++ item :: (between ++ after)) :
    (carry items before.length (before.length + between.length)).toList =
      before ++ (between ++ item :: after) := by
  obtain rfl : items = (before ++ item :: (between ++ after)).toArray := by
    rw [← h]
  have hinsert := insertIdx_length_append (before ++ between) after item
  simpa [carry, eraseIdx_length_append] using hinsert

end Enrollment
