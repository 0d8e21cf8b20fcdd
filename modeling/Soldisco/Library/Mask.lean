import Mathlib.Data.List.Perm.Basic

/-
This file splits a list by a mask over its places.
-/

namespace Mask

variable {Item Other : Type}

/-- The items at the places of the mask that are set. -/
def select : List Bool → List Item → List Item
  | set :: mask, item :: items => if set then item :: select mask items else select mask items
  | _, _ => []

theorem select_sublist (mask : List Bool) (items : List Item) :
    (select mask items).Sublist items := by
  induction items generalizing mask with
  | nil => cases mask <;> exact .slnil
  | cons item items ih =>
      cases mask with
      | nil => exact List.nil_sublist _
      | cons set mask =>
          cases set with
          | true => exact (ih mask).cons_cons item
          | false => exact (ih mask).cons item

theorem map_select (f : Item → Other) (mask : List Bool) (items : List Item) :
    (select mask items).map f = select mask (items.map f) := by
  induction items generalizing mask with
  | nil => cases mask <;> rfl
  | cons item items ih =>
      cases mask with
      | nil => rfl
      | cons set mask =>
          cases set with
          | true => exact congrArg (f item :: ·) (ih mask)
          | false => exact ih mask

/-- The set places and the others make up the list. -/
theorem select_perm {mask : List Bool} {items : List Item} (length : mask.length = items.length) :
    (select mask items ++ select (mask.map not) items).Perm items := by
  induction items generalizing mask with
  | nil => cases mask <;> exact .refl _
  | cons item items ih =>
      cases mask with
      | nil => cases length
      | cons set mask =>
          have rest := ih (Nat.succ.inj length)
          cases set with
          | true => exact rest.cons item
          | false => exact List.perm_middle.trans (rest.cons item)

end Mask
