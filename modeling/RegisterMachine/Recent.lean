/-!
# The most recent items

A `Recent` remembers the items pushed last, up to a limit. It may hold some
older items for a while: the row of stored items is cut back to the limit only
when it has grown to twice the limit, so a push takes constant time on average.
What counts is the view `toList`, and the law of the view is that a push
appends an item and drops what is over the limit (`toList_push`).
-/

set_option autoImplicit false

namespace RegisterMachine

/-- The items pushed last, up to a limit. -/
structure Recent (α : Type) where
  limit : Nat
  stored : Array α := #[]
  deriving Inhabited

namespace Recent

variable {α : Type}

/-- The last `n` items of a list. -/
def lastOf (n : Nat) (items : List α) : List α := items.drop (items.length - n)

/-- The remembered items, the oldest first. -/
def toList (r : Recent α) : List α := lastOf r.limit r.stored.toList

/-- The number of remembered items. -/
def length (r : Recent α) : Nat := min r.limit r.stored.size

/-- Forgets all items. -/
def clear (r : Recent α) : Recent α := { r with stored := #[] }

/-- Remembers one more item. -/
def push (r : Recent α) (item : α) : Recent α :=
  if r.stored.size < 2 * r.limit then { r with stored := r.stored.push item }
  else { r with stored := (r.stored.extract (r.stored.size - r.limit)).push item }

/-- Remembers some more items, one after the other. -/
def append (r : Recent α) (items : List α) : Recent α := items.foldl push r

/-- Changes the item pushed last. -/
def amendLast (r : Recent α) (change : α → α) : Recent α :=
  { r with stored := r.stored.modify (r.stored.size - 1) change }

/-! ## The view -/

/-- Items far enough back do not matter for the last ones, nor if more of them are kept. -/
theorem lastOf_append_of_le {n kept : Nat} (le : n ≤ kept) (older newer : List α) :
    lastOf n (lastOf kept older ++ newer) = lastOf n (older ++ newer) := by
  simp only [lastOf, List.length_append, List.length_drop, List.drop_append, List.drop_drop]
  congr 2 <;> omega

theorem lastOf_append (n : Nat) (older newer : List α) :
    lastOf n (lastOf n older ++ newer) = lastOf n (older ++ newer) :=
  lastOf_append_of_le (Nat.le_refl n) older newer

/-- The last of the last items are the last ones. -/
theorem lastOf_lastOf_of_le {n kept : Nat} (le : n ≤ kept) (items : List α) :
    lastOf n (lastOf kept items) = lastOf n items := by
  have same := lastOf_append_of_le le items []
  rwa [List.append_nil, List.append_nil] at same

/-- A push appends an item and drops what is over the limit. -/
theorem toList_push (r : Recent α) (item : α) :
    (r.push item).toList = lastOf r.limit (r.toList ++ [item]) := by
  unfold toList
  rw [lastOf_append]
  unfold push
  split
  · simp
  · simp only [Array.toList_push, Array.toList_extract]
    have kept : r.stored.toList.extract (r.stored.size - r.limit) r.stored.size
        = lastOf r.limit r.stored.toList := by
      simp [lastOf, List.take_of_length_le]
    rw [kept, lastOf_append]

/-- A push keeps the limit. -/
@[simp] theorem limit_push (r : Recent α) (item : α) : (r.push item).limit = r.limit := by
  unfold push
  split <;> rfl

/-- Nothing is remembered after clearing. -/
@[simp] theorem toList_clear (r : Recent α) : r.clear.toList = [] := by
  simp [clear, toList, lastOf]

/-- The length is that of the view. -/
theorem length_toList (r : Recent α) : r.toList.length = r.length := by
  simp [toList, lastOf, length]
  omega

/-- No more items are remembered than the limit allows. -/
theorem length_le_limit (r : Recent α) : r.length ≤ r.limit := Nat.min_le_left _ _

end Recent

end RegisterMachine
