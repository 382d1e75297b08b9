/-!
# Sorting by number

Volumes are listed in ascending order of their numbers, and volumes that share a number keep the
order in which they came.  `sortOn` is insertion sort on a key: each element goes before the first
one whose key is not smaller.
-/

namespace FailoverStorage

variable {α : Type}

/-- Inserts `a` before the first element whose key is at least its own. -/
def insertOn (key : α → UInt32) (a : α) : List α → List α
  | [] => [a]
  | b :: rest => if key a ≤ key b then a :: b :: rest else b :: insertOn key a rest

/-- **The elements in ascending order of key**, those of one key in their old order. -/
def sortOn (key : α → UInt32) : List α → List α
  | [] => []
  | a :: rest => insertOn key a (sortOn key rest)

end FailoverStorage
