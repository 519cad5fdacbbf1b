/-!
# Buffers that grow in steps

A buffer has room for a number of items, the same to begin with and for each enlargement. It is
enlarged just before an item is stored that has no room, never earlier, so the enlargements tell how
many items were stored up to a multiple of the step.
-/

namespace CommandShell

/-- A sequence of items and the room for them. -/
structure GrowingBuffer (α : Type) where
  /-- The room at the beginning and the room that each enlargement adds. -/
  step : Nat
  /-- The room for items. -/
  capacity : Nat
  /-- The number of items. -/
  size : Nat
  /-- The items, newest first. -/
  newest : List α
  /-- The room after each enlargement, newest first. -/
  growths : List Nat

namespace GrowingBuffer

variable {α : Type}

/-- A buffer without items. -/
def empty (step : Nat) : GrowingBuffer α :=
  ⟨step, step, 0, [], []⟩

/-- Makes room for one more item if there is none. -/
def reserve (b : GrowingBuffer α) : GrowingBuffer α :=
  if b.size = b.capacity then
    { b with capacity := b.capacity + b.step, growths := (b.capacity + b.step) :: b.growths }
  else b

/-- Stores an item after the others. -/
def push (b : GrowingBuffer α) (a : α) : GrowingBuffer α :=
  { b.reserve with size := b.size + 1, newest := a :: b.newest }

/-- The items in the order in which they were stored. -/
def toList (b : GrowingBuffer α) : List α :=
  b.newest.reverse

@[simp]
theorem toList_empty (step : Nat) : (empty step : GrowingBuffer α).toList = [] :=
  rfl

/-- An item is stored after the others, whether or not room is made for it. -/
@[simp]
theorem toList_push (b : GrowingBuffer α) (a : α) : (b.push a).toList = b.toList ++ [a] := by
  simp [toList, push]

/-- The room after each enlargement, in order. -/
def growthList (b : GrowingBuffer α) : List Nat :=
  b.growths.reverse

/-- A buffer into which the items of a list were stored one after the other. -/
def ofList (step : Nat) (items : List α) : GrowingBuffer α :=
  items.foldl push (empty step)

theorem toList_foldl_push (items : List α) (b : GrowingBuffer α) :
    (items.foldl push b).toList = b.toList ++ items := by
  induction items generalizing b with
  | nil => simp
  | cons a rest ih => simp [ih]

/-- Whatever the step, a buffer holds what was stored in it, in order. -/
@[simp]
theorem toList_ofList (step : Nat) (items : List α) : (ofList step items).toList = items := by
  simp [ofList, toList_foldl_push]

end GrowingBuffer

end CommandShell
