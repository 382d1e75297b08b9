/-!
# Finite maps in key order

Properties of a resource, attributes of an agent and the objects of a cluster are all looked up by
key and listed in key order.  `SortedMap κ α` holds such a map as the one list of its entries whose
keys strictly ascend, so equal maps are equal values and every listing is already in order.

* `find?` is the view of a map: what a key is bound to.
* `insert`, `erase` and `adjust` change the binding of one key.
* `ofList` binds the keys of a list from left to right, so a later entry wins.
-/

namespace FailoverStorage

/-! ## Lists of entries in key order -/

/-- The keys of the entries strictly ascend. -/
abbrev KeysAscend {κ α : Type} [Ord κ] (entries : List (κ × α)) : Prop :=
  entries.Pairwise fun a b => compare a.1 b.1 = .lt

/-- Binds `key` to `value` in a list of entries in key order, replacing an entry of the same key. -/
def insertEntry {κ α : Type} [Ord κ] (key : κ) (value : α) : List (κ × α) → List (κ × α)
  | [] => [(key, value)]
  | e :: rest =>
    match compare key e.1 with
    | .lt => (key, value) :: e :: rest
    | .eq => (key, value) :: rest
    | .gt => e :: insertEntry key value rest

/-- An entry after `insertEntry` is the new one or was there before. -/
theorem mem_insertEntry {κ α : Type} [Ord κ] {key : κ} {value : α} {entries : List (κ × α)}
    {e : κ × α} (h : e ∈ insertEntry key value entries) : e = (key, value) ∨ e ∈ entries := by
  induction entries with
  | nil => simpa [insertEntry] using h
  | cons d rest ih =>
    unfold insertEntry at h
    split at h
    · simpa using h
    · rcases List.mem_cons.1 h with h | h
      · exact .inl h
      · exact .inr (List.mem_cons_of_mem _ h)
    · rcases List.mem_cons.1 h with h | h
      · exact .inr (h ▸ List.mem_cons_self)
      · exact (ih h).imp id (List.mem_cons_of_mem _)

/-- Inserting keeps the keys in order: the new key goes before the first key above it. -/
theorem keysAscend_insertEntry {κ α : Type} [Ord κ] [Std.TransOrd κ] [Std.LawfulEqOrd κ]
    (key : κ) (value : α) {entries : List (κ × α)} (h : KeysAscend entries) :
    KeysAscend (insertEntry key value entries) := by
  induction entries with
  | nil => simp [insertEntry]
  | cons d rest ih =>
    obtain ⟨hd, hr⟩ := List.pairwise_cons.1 h
    unfold insertEntry
    split
    · rename_i hlt
      refine List.pairwise_cons.2 ⟨fun e he => ?_, h⟩
      rcases List.mem_cons.1 he with rfl | he
      · exact hlt
      · exact Std.TransCmp.lt_trans hlt (hd e he)
    · rename_i heq
      have hk : key = d.1 := Std.LawfulEqCmp.eq_of_compare heq
      exact List.pairwise_cons.2 ⟨fun e he => hk ▸ hd e he, hr⟩
    · rename_i hgt
      refine List.pairwise_cons.2 ⟨fun e he => ?_, ih hr⟩
      rcases mem_insertEntry he with rfl | he
      · exact Std.OrientedCmp.lt_of_gt hgt
      · exact hd e he

/-! ## Maps -/

/-- **A finite map from `κ` to `α`**, as its entries in strictly ascending key order. -/
structure SortedMap (κ α : Type) [Ord κ] where
  /-- The bindings, one for each key. -/
  entries : List (κ × α)
  /-- The keys ascend, so none occurs twice. -/
  ascending : KeysAscend entries

namespace SortedMap

variable {κ α β : Type} [Ord κ]

instance [DecidableEq κ] [DecidableEq α] : DecidableEq (SortedMap κ α) := fun m n =>
  decidable_of_iff (m.entries = n.entries) <| by
    cases m; cases n; simp

/-- The map without bindings. -/
def empty : SortedMap κ α := ⟨[], .nil⟩

instance : Inhabited (SortedMap κ α) := ⟨empty⟩

/-- What `key` is bound to. -/
def find? [DecidableEq κ] (m : SortedMap κ α) (key : κ) : Option α :=
  (m.entries.find? fun e => e.1 = key).map (·.2)

/-- Whether `key` is bound. -/
def contains [DecidableEq κ] (m : SortedMap κ α) (key : κ) : Bool := (m.find? key).isSome

/-- The keys in order. -/
def keys (m : SortedMap κ α) : List κ := m.entries.map (·.1)

/-- The values in the order of their keys. -/
def values (m : SortedMap κ α) : List α := m.entries.map (·.2)

/-- Whether nothing is bound. -/
def isEmpty (m : SortedMap κ α) : Bool := m.entries.isEmpty

/-- Binds `key` to `value`, in place of what it was bound to. -/
def insert [Std.TransOrd κ] [Std.LawfulEqOrd κ] (m : SortedMap κ α) (key : κ) (value : α) :
    SortedMap κ α :=
  ⟨insertEntry key value m.entries, keysAscend_insertEntry key value m.ascending⟩

/-- Keeps the bindings that satisfy `p`. -/
def filter (p : κ → α → Bool) (m : SortedMap κ α) : SortedMap κ α :=
  ⟨m.entries.filter fun e => p e.1 e.2, m.ascending.filter _⟩

/-- Removes the binding of `key`. -/
def erase [DecidableEq κ] (m : SortedMap κ α) (key : κ) : SortedMap κ α :=
  m.filter fun k _ => k ≠ key

/-- Changes what every key is bound to. -/
def mapValues (f : κ → α → β) (m : SortedMap κ α) : SortedMap κ β :=
  ⟨m.entries.map fun e => (e.1, f e.1 e.2), List.pairwise_map.2 m.ascending⟩

/-- Changes what `key` is bound to, if it is bound. -/
def adjust [DecidableEq κ] (m : SortedMap κ α) (key : κ) (f : α → α) : SortedMap κ α :=
  m.mapValues fun k v => if k = key then f v else v

/-- Binds the keys of a list one after another. -/
def ofList [Std.TransOrd κ] [Std.LawfulEqOrd κ] (bindings : List (κ × α)) : SortedMap κ α :=
  bindings.foldl (fun m e => m.insert e.1 e.2) empty

/-- Adds the bindings of `n` to `m`; where both bind a key, `n` wins. -/
def override [Std.TransOrd κ] [Std.LawfulEqOrd κ] (m n : SortedMap κ α) : SortedMap κ α :=
  n.entries.foldl (fun acc e => acc.insert e.1 e.2) m

end SortedMap

end FailoverStorage
