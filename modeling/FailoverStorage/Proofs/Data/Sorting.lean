import FailoverStorage.Data.Sorting
import Mathlib.Data.List.Sort
import Mathlib.Tactic.Common

/-!
# Sorted lists of volumes

`sortOn` is the insertion sort of the library on a key, so it permutes and orders.  What proofs
about volumes use is the converse: a list whose keys ascend already is left as it is
(`sortOn_of_ascending`).
-/

namespace FailoverStorage

variable {α : Type} (key : α → UInt32)

/-- The keys of a list strictly ascend. -/
def Ascending (l : List α) : Prop := l.Pairwise fun a b => key a < key b

lemma sortOn_eq_insertionSort (l : List α) :
    sortOn key l = l.insertionSort fun a b => key a ≤ key b := by
  have hinsert : ∀ a l, insertOn key a l = l.orderedInsert (fun a b => key a ≤ key b) a := by
    intro a l
    induction l with
    | nil => rfl
    | cons b rest ih => simp only [insertOn, List.orderedInsert_cons, ih]
  induction l with
  | nil => rfl
  | cons a rest ih => rw [sortOn, ih, hinsert, List.insertionSort_cons]

lemma sortOn_perm (l : List α) : (sortOn key l).Perm l := by
  rw [sortOn_eq_insertionSort]
  exact List.perm_insertionSort _ l

@[simp] lemma mem_sortOn {l : List α} {a : α} : a ∈ sortOn key l ↔ a ∈ l :=
  (sortOn_perm key l).mem_iff

/-- Sorting puts elements in order. -/
lemma pairwise_sortOn (l : List α) : (sortOn key l).Pairwise fun a b => key a ≤ key b := by
  have : Std.Total fun a b : α => key a ≤ key b := ⟨fun a b => UInt32.le_total _ _⟩
  have : IsTrans α fun a b : α => key a ≤ key b := ⟨fun a b c => UInt32.le_trans⟩
  rw [sortOn_eq_insertionSort]
  exact List.pairwise_insertionSort _ l

/-- **A list in order stays as it is.** -/
lemma sortOn_of_pairwise {l : List α} (h : l.Pairwise fun a b => key a ≤ key b) :
    sortOn key l = l := by
  rw [sortOn_eq_insertionSort]
  exact List.Pairwise.insertionSort_eq h

lemma sortOn_of_ascending {l : List α} (h : Ascending key l) : sortOn key l = l :=
  sortOn_of_pairwise key (h.imp fun hab => UInt32.le_of_lt hab)

/-- Sorting looks at the keys alone. -/
lemma sortOn_map {β : Type} (f : β → α) (l : List β) :
    sortOn key (l.map f) = (sortOn (key ∘ f) l).map f := by
  rw [sortOn_eq_insertionSort, sortOn_eq_insertionSort]
  exact (List.map_insertionSort _ _ f l fun _ _ _ _ => Iff.rfl).symm

/-- Sorting puts elements with distinct keys in strict order. -/
lemma ascending_sortOn {l : List α} (h : (l.map key).Nodup) : Ascending key (sortOn key l) := by
  have hsorted := pairwise_sortOn key l
  have hnodup : (sortOn key l).Pairwise fun a b => key a ≠ key b := by
    have := ((sortOn_perm key l).map key).nodup_iff.2 h
    rwa [List.Nodup, List.pairwise_map] at this
  exact (hsorted.and hnodup).imp fun ⟨hle, hne⟩ => UInt32.lt_of_le_of_ne hle hne

variable {key} in
/-- No key occurs twice in a list in order. -/
lemma Ascending.nodup {l : List α} (h : Ascending key l) : (l.map key).Nodup := by
  refine List.pairwise_map.2 (h.imp fun {a b} hlt heq => ?_)
  rw [heq] at hlt
  exact UInt32.lt_irrefl _ hlt

variable {key} in
/-- Lists in order that are permutations of each other are the same. -/
lemma Ascending.eq_of_perm {l m : List α} (hl : Ascending key l) (hm : Ascending key m)
    (h : l.Perm m) : l = m :=
  h.eq_of_pairwise (fun _ _ _ _ hab hba => absurd (UInt32.lt_trans hab hba) (UInt32.lt_irrefl _))
    hl hm

/-- **An element that is put in its place among others** goes out again. -/
lemma filter_sortOn_append {l : List α} {a : α} (h : Ascending key l) (ha : key a ∉ l.map key) :
    (sortOn key (l ++ [a])).filter (key · ≠ key a) = l := by
  have hkept : l.filter (key · ≠ key a) = l :=
    List.filter_eq_self.2 fun b hb => decide_eq_true fun heq => ha (List.mem_map.2 ⟨b, hb, heq⟩)
  have hperm := (sortOn_perm key (l ++ [a])).filter (key · ≠ key a)
  have hnodup : ((l ++ [a]).map key).Nodup := by
    rw [List.map_append]
    exact List.nodup_append.2 ⟨h.nodup, List.nodup_singleton _, fun b hb c hc heq =>
      ha (List.mem_singleton.1 hc ▸ heq ▸ hb)⟩
  rw [List.filter_append, hkept, List.filter_singleton] at hperm
  simp only [ne_eq, not_true_eq_false, decide_false, Bool.cond_false, List.append_nil] at hperm
  exact Ascending.eq_of_perm ((ascending_sortOn key hnodup).filter _) h hperm

end FailoverStorage
