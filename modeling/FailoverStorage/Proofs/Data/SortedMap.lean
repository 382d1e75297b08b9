import FailoverStorage.Data.SortedMap
import Mathlib.Data.List.Sort
import Mathlib.Tactic.Common

/-!
# Looking up in finite maps

A map is determined by what its keys are bound to (`SortedMap.ext_find?`), because its keys ascend:
an entry is in the list exactly if its key is bound to its value (`find?_eq_some_iff`).  So every
operation is described by what `find?` sees after it, and no proof about maps has to look at the
order of entries again.
-/

namespace FailoverStorage

variable {κ α β : Type} [Ord κ] [Std.TransOrd κ]

/-- Two entries of one key are the same entry. -/
lemma KeysAscend.unique {entries : List (κ × α)} (h : KeysAscend entries) {k : κ} {v w : α}
    (hv : (k, v) ∈ entries) (hw : (k, w) ∈ entries) : v = w := by
  induction entries with
  | nil => simp at hv
  | cons e rest ih =>
      obtain ⟨he, hrest⟩ := List.pairwise_cons.1 h
      have hself : ∀ u, (k, u) ∈ rest → k ≠ e.1 := fun u hu heq =>
        absurd (he _ hu) (by simp [heq, Std.ReflCmp.compare_self])
      rcases List.mem_cons.1 hv with rfl | hv'
      · rcases List.mem_cons.1 hw with hw' | hw'
        · exact ((Prod.ext_iff.1 hw').2).symm
        · exact absurd rfl (hself w hw')
      · rcases List.mem_cons.1 hw with rfl | hw'
        · exact absurd rfl (hself v hv')
        · exact ih hrest hv' hw'

/-- What an insertion leaves in the list, besides the new entry: the entries of the other keys. -/
lemma mem_insertEntry_iff [DecidableEq κ] [Std.LawfulEqOrd κ] {key k : κ} {value v : α}
    {entries : List (κ × α)}
    (h : KeysAscend entries) : (k, v) ∈ insertEntry key value entries
      ↔ if k = key then v = value else (k, v) ∈ entries := by
  induction entries with
  | nil => by_cases hk : k = key <;> simp [insertEntry, hk]
  | cons e rest ih =>
      obtain ⟨he, hrest⟩ := List.pairwise_cons.1 h
      have hkey : ∀ x ∈ rest, x.1 ≠ e.1 := fun x hx heq =>
        absurd (he x hx) (by simp [heq, Std.ReflCmp.compare_self])
      unfold insertEntry
      split
      · rename_i hlt
        by_cases hk : k = key
        · subst hk
          have hne : ∀ x ∈ e :: rest, x.1 ≠ k := by
            intro x hx heq
            rcases List.mem_cons.1 hx with rfl | hx
            · simp [heq, Std.ReflCmp.compare_self] at hlt
            · have := Std.TransCmp.lt_trans hlt (he x hx)
              simp [heq, Std.ReflCmp.compare_self] at this
          have hnot : (k, v) ∉ e :: rest := fun hx => hne _ hx rfl
          simp [List.mem_cons.not.1 hnot]
        · simp [hk]
      · rename_i heq
        obtain rfl : key = e.1 := Std.LawfulEqCmp.eq_of_compare heq
        by_cases hk : k = e.1
        · subst hk
          have hnot : (e.1, v) ∉ rest := fun hx => hkey _ hx rfl
          simp [hnot]
        · have hne : (k, v) ≠ e := fun heq => hk (by rw [← heq])
          simp [hk, hne]
      · rename_i hgt
        have hne : key ≠ e.1 := fun heq => by simp [heq, Std.ReflCmp.compare_self] at hgt
        rw [List.mem_cons, ih hrest]
        by_cases hk : k = key
        · subst hk
          have : (k, v) ≠ e := fun heq => hne (by rw [← heq])
          simp [this]
        · simp [hk]

namespace SortedMap

/-! ## Entries and bindings -/

section

variable [DecidableEq κ]

/-- **A key is bound to a value exactly if the entry is listed.** -/
lemma find?_eq_some_iff {m : SortedMap κ α} {k : κ} {v : α} :
    m.find? k = some v ↔ (k, v) ∈ m.entries := by
  unfold find?
  constructor
  · intro h
    obtain ⟨e, he, rfl⟩ := Option.map_eq_some_iff.1 h
    have hk : e.1 = k := by simpa using List.find?_some he
    subst hk
    exact List.mem_of_find?_eq_some he
  · intro h
    cases he : m.entries.find? fun e => e.1 = k with
    | none => exact absurd (List.find?_eq_none.1 he _ h) (by simp)
    | some e =>
        have hk : e.1 = k := by simpa using List.find?_some he
        subst hk
        exact congrArg some (m.ascending.unique (List.mem_of_find?_eq_some he) h)

/-- A lookup described by the entries that it can return. -/
lemma find?_eq_of_iff {m : SortedMap κ α} {k : κ} {o : Option α}
    (h : ∀ v, (k, v) ∈ m.entries ↔ o = some v) : m.find? k = o := by
  refine Option.ext fun v => ?_
  rw [find?_eq_some_iff, h]

/-- **Maps that bind every key alike are equal.** -/
lemma ext_find? {m n : SortedMap κ α} (h : ∀ k, m.find? k = n.find? k) : m = n := by
  have hentries : m.entries = n.entries := by
    have : Std.Irrefl fun a b : κ × α => compare a.1 b.1 = .lt :=
      ⟨fun a => by simp [Std.ReflCmp.compare_self]⟩
    have : Std.Antisymm fun a b : κ × α => compare a.1 b.1 = .lt :=
      ⟨fun a b hab hba => absurd (Std.TransCmp.lt_trans hab hba)
        (by simp [Std.ReflCmp.compare_self])⟩
    refine m.ascending.eq_of_mem_iff n.ascending fun e => ?_
    rw [← Prod.eta e, ← find?_eq_some_iff, ← find?_eq_some_iff, h]
  cases m
  cases n
  simpa using hentries

omit [Std.TransOrd κ] in
@[simp] lemma find?_empty (k : κ) : (empty : SortedMap κ α).find? k = none := rfl

omit [DecidableEq κ] in
/-- No key is bound twice. -/
lemma nodup_keys (m : SortedMap κ α) : m.keys.Nodup := by
  refine List.pairwise_map.2 (m.ascending.imp fun {a b} hlt heq => ?_)
  have hrefl : compare b.1 b.1 = .eq := Std.ReflCmp.compare_self
  rw [heq, hrefl] at hlt
  cases hlt

omit [Std.TransOrd κ] in
/-- Values that know their keys are found by them in the listing. -/
lemma find?_values {m : SortedMap κ α} {key : α → κ} (h : ∀ e ∈ m.entries, key e.2 = e.1) (k : κ) :
    m.values.find? (fun v => key v = k) = m.find? k := by
  have hentries : m.entries.find? (fun e => key e.2 = k) = m.entries.find? (fun e => e.1 = k) := by
    generalize m.entries = entries at h
    induction entries with
    | nil => rfl
    | cons e rest ih =>
        rw [List.find?_cons, List.find?_cons, h e List.mem_cons_self,
          ih fun d hd => h d (List.mem_cons_of_mem _ hd)]
  rw [values, List.find?_map, find?, ← hentries]
  rfl

/-- Entries that are all of one key are one entry at most. -/
lemma length_filter_le_one {m : SortedMap κ α} {p : κ × α → Bool}
    (h : ∀ k k' v v', m.find? k = some v → m.find? k' = some v' → p (k, v) = true →
      p (k', v') = true → k = k') : (m.entries.filter p).length ≤ 1 := by
  have hnodup : ((m.entries.filter p).map Prod.fst).Nodup :=
    m.nodup_keys.sublist (List.filter_sublist.map _)
  have hone : ∀ x ∈ m.entries.filter p, ∀ y ∈ m.entries.filter p, x.1 = y.1 := by
    intro x hx y hy
    rw [List.mem_filter] at hx hy
    exact h _ _ _ _ (find?_eq_some_iff.2 hx.1) (find?_eq_some_iff.2 hy.1) hx.2 hy.2
  match m.entries.filter p, hnodup, hone with
  | [], _, _ => exact Nat.zero_le 1
  | [_], _, _ => exact le_refl 1
  | x :: y :: rest, hnodup, hone =>
      exact absurd (hone x (by simp) y (by simp)) fun heq => by simp [heq] at hnodup

omit [Std.TransOrd κ] in
lemma keys_erase (m : SortedMap κ α) (key : κ) : (m.erase key).keys = m.keys.filter (· ≠ key) := by
  simp only [erase, filter, keys, List.filter_map]
  rfl

/-- **A map is one of its bindings and the others**, up to order. -/
lemma perm_cons_erase {m : SortedMap κ α} {k : κ} {v : α} (h : m.find? k = some v) :
    m.entries.Perm ((k, v) :: (m.erase k).entries) := by
  have hmem := find?_eq_some_iff.1 h
  have hnodup : m.entries.Nodup := List.Nodup.of_map Prod.fst m.nodup_keys
  have hrest : (k, v) ∉ (m.erase k).entries := fun hin => by
    simpa using (List.mem_filter.1 hin).2
  refine (List.perm_ext_iff_of_nodup hnodup
    (List.nodup_cons.2 ⟨hrest, hnodup.filter _⟩)).2 fun e => ?_
  rw [List.mem_cons, erase, filter, List.mem_filter]
  refine ⟨fun he => ?_, ?_⟩
  · by_cases hkey : e.1 = k
    · subst hkey
      exact .inl (Prod.ext rfl (m.ascending.unique he hmem))
    · exact .inr ⟨he, by simpa using hkey⟩
  · rintro (rfl | ⟨he, -⟩)
    · exact hmem
    · exact he

omit [Std.TransOrd κ] in
/-- There is nothing to remove of a key that is not bound. -/
lemma erase_of_find?_eq_none {m : SortedMap κ α} {k : κ} (h : m.find? k = none) :
    m.erase k = m := by
  have hentries : (m.erase k).entries = m.entries := by
    refine List.filter_eq_self.2 fun e he => ?_
    have hnone : m.entries.find? (fun e => e.1 = k) = none := Option.map_eq_none_iff.1 h
    simpa using List.find?_eq_none.1 hnone e he
  cases m
  simpa [erase, filter] using hentries

lemma mem_values_iff {m : SortedMap κ α} {v : α} : v ∈ m.values ↔ ∃ k, m.find? k = some v := by
  simp [values, find?_eq_some_iff]

lemma mem_keys_iff {m : SortedMap κ α} {k : κ} : k ∈ m.keys ↔ (m.find? k).isSome := by
  rw [Option.isSome_iff_exists, keys]
  simp [find?_eq_some_iff]

omit [Std.TransOrd κ] in
lemma contains_iff {m : SortedMap κ α} {k : κ} : m.contains k = true ↔ ∃ v, m.find? k = some v := by
  rw [contains, Option.isSome_iff_exists]

/-! ## Operations -/

@[simp] lemma find?_filter (p : κ → α → Bool) (m : SortedMap κ α) (k : κ) :
    (m.filter p).find? k = (m.find? k).filter (p k) := by
  refine find?_eq_of_iff fun v => ?_
  rw [filter, List.mem_filter, ← find?_eq_some_iff, Option.filter_eq_some_iff]

@[simp] lemma find?_mapValues (f : κ → α → β) (m : SortedMap κ α) (k : κ) :
    (m.mapValues f).find? k = (m.find? k).map (f k) := by
  refine find?_eq_of_iff fun v => ?_
  simp only [mapValues, List.mem_map, Prod.mk.injEq, Prod.exists, Option.map_eq_some_iff,
    find?_eq_some_iff]
  constructor
  · rintro ⟨k', w, hw, rfl, rfl⟩
    exact ⟨w, hw, rfl⟩
  · rintro ⟨w, hw, rfl⟩
    exact ⟨k, w, hw, rfl, rfl⟩

@[simp] lemma find?_erase (m : SortedMap κ α) (key k : κ) :
    (m.erase key).find? k = if k = key then none else m.find? k := by
  rw [erase, find?_filter]
  by_cases hk : k = key
  · cases m.find? k <;> simp [hk]
  · cases m.find? k <;> simp [hk]

@[simp] lemma find?_adjust (m : SortedMap κ α) (key : κ) (f : α → α) (k : κ) :
    (m.adjust key f).find? k = if k = key then (m.find? k).map f else m.find? k := by
  rw [adjust, find?_mapValues]
  by_cases hk : k = key <;> simp [hk]

variable [Std.LawfulEqOrd κ]

@[simp] lemma find?_insert (m : SortedMap κ α) (key k : κ) (v : α) :
    (m.insert key v).find? k = if k = key then some v else m.find? k := by
  refine find?_eq_of_iff fun w => ?_
  rw [insert, mem_insertEntry_iff m.ascending, ← find?_eq_some_iff]
  by_cases hk : k = key <;> simp [hk, eq_comm]

/-- A new binding adds its value. -/
lemma mem_values_insert {m : SortedMap κ α} {k : κ} (h : m.find? k = none) {v w : α} :
    w ∈ (m.insert k v).values ↔ w = v ∨ w ∈ m.values := by
  simp only [mem_values_iff, find?_insert]
  constructor
  · rintro ⟨k', hw⟩
    split at hw
    · exact .inl (Option.some.inj hw).symm
    · exact .inr ⟨k', hw⟩
  · rintro (rfl | ⟨k', hw⟩)
    · exact ⟨k, if_pos rfl⟩
    · refine ⟨k', (if_neg fun heq => ?_).trans hw⟩
      rw [heq, h] at hw
      cases hw

/-- Binding a key to what it is bound to already changes nothing. -/
lemma insert_of_find? {m : SortedMap κ α} {k : κ} {v : α} (h : m.find? k = some v) :
    m.insert k v = m := by
  refine ext_find? fun k' => ?_
  rw [find?_insert]
  by_cases hk : k' = k <;> simp [hk, h]

/-! ## Maps from lists

Binding the keys of a list from left to right makes the last binding of a key count.  In a list in
key order there is only one.
-/

/-- What a key is bound to after the bindings of a list. -/
lemma find?_foldl_insert (bindings : List (κ × α)) (m : SortedMap κ α) (k : κ) :
    (bindings.foldl (fun m e => m.insert e.1 e.2) m).find? k
      = bindings.foldl (fun o e => if k = e.1 then some e.2 else o) (m.find? k) := by
  induction bindings generalizing m with
  | nil => rfl
  | cons e rest ih => rw [List.foldl_cons, ih, find?_insert, List.foldl_cons]

omit [DecidableEq κ] in
/-- Only what a list binds is bound by its map. -/
lemma mem_of_mem_ofList {bindings : List (κ × α)} {e : κ × α}
    (h : e ∈ (ofList bindings).entries) : e ∈ bindings := by
  have hfold : ∀ m : SortedMap κ α, e ∈ (bindings.foldl (fun m e => m.insert e.1 e.2) m).entries →
      e ∈ m.entries ∨ e ∈ bindings := by
    clear h
    induction bindings with
    | nil => exact fun m hm => .inl hm
    | cons d bindings ih =>
        intro m hm
        rcases ih _ hm with hm | hm
        · rcases mem_insertEntry hm with rfl | hm
          · exact .inr List.mem_cons_self
          · exact .inl hm
        · exact .inr (List.mem_cons_of_mem _ hm)
  rcases hfold .empty h with h | h
  · cases h
  · exact h

lemma find?_ofList (bindings : List (κ × α)) (k : κ) :
    (ofList bindings).find? k
      = bindings.foldl (fun o e => if k = e.1 then some e.2 else o) none :=
  find?_foldl_insert bindings empty k

omit [Std.LawfulEqOrd κ] in
/-- Among keys that ascend the last binding of a key is its only one. -/
lemma foldl_binding_of_keysAscend {entries : List (κ × α)} (h : KeysAscend entries) (k : κ)
    (o : Option α) : entries.foldl (fun o e => if k = e.1 then some e.2 else o) o
      = ((entries.find? fun e => e.1 = k).map (·.2)).or o := by
  induction entries generalizing o with
  | nil => rfl
  | cons e rest ih =>
      obtain ⟨he, hrest⟩ := List.pairwise_cons.1 h
      rw [List.foldl_cons, ih hrest, List.find?_cons]
      by_cases hk : k = e.1
      · have hnone : rest.find? (fun x => x.1 = k) = none := by
          refine List.find?_eq_none.2 fun x hx => ?_
          have hlt := he x hx
          simp only [hk, decide_eq_true_eq]
          exact fun heq => by simp [heq, Std.ReflCmp.compare_self] at hlt
        simp [hk ▸ hnone, hk]
      · simp [hk, Ne.symm hk]

@[simp] lemma find?_override (m n : SortedMap κ α) (k : κ) :
    (m.override n).find? k = (n.find? k).or (m.find? k) := by
  rw [override, find?_foldl_insert, foldl_binding_of_keysAscend n.ascending]
  rfl

/-- **A map is what its own entries bind.** -/
lemma foldl_insert_entries (m : SortedMap κ α) :
    m.entries.foldl (fun acc e => acc.insert e.1 e.2) empty = m := by
  refine ext_find? fun k => ?_
  rw [find?_foldl_insert, foldl_binding_of_keysAscend m.ascending, find?_empty, Option.or_none]
  rfl

end

end SortedMap

end FailoverStorage
