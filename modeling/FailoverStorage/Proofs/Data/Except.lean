import Mathlib.Tactic.Common

/-!
# Results with errors

How a chain of steps that may fail succeeds: each step does, with what the next one starts from.
A list of such steps succeeds if every one of them does.
-/

namespace FailoverStorage

variable {ε α β : Type}

/-! ## Chains -/

@[simp] lemma ok_bind (a : α) (f : α → Except ε β) : (Except.ok a >>= f) = f a := rfl

@[simp] lemma error_bind (e : ε) (f : α → Except ε β) : (Except.error e >>= f) = .error e := rfl

@[simp] lemma pure_eq_ok (a : α) : (pure a : Except ε α) = .ok a := rfl

@[simp] lemma map_ok (f : α → β) (a : α) : f <$> (Except.ok a : Except ε α) = .ok (f a) := rfl

lemma bind_eq_ok_iff {x : Except ε α} {f : α → Except ε β} {b : β} :
    (x >>= f) = .ok b ↔ ∃ a, x = .ok a ∧ f a = .ok b := by
  cases x <;> simp

lemma map_eq_ok_iff {x : Except ε α} {f : α → β} {b : β} :
    f <$> x = .ok b ↔ ∃ a, x = .ok a ∧ f a = b := by
  cases x <;> simp

lemma toOption_eq_some_iff {x : Except ε α} {a : α} : x.toOption = some a ↔ x = .ok a := by
  cases x <;> simp [Except.toOption]

/-! ## Lists -/

lemma mapM_eq_ok_map {f : α → Except ε β} {g : α → β} {l : List α}
    (h : ∀ a ∈ l, f a = .ok (g a)) : l.mapM f = .ok (l.map g) := by
  induction l with
  | nil => rfl
  | cons a l ih =>
      rw [List.mapM_cons, h a List.mem_cons_self, ih fun b hb => h b (List.mem_cons_of_mem _ hb)]
      rfl

/-- Steps over a list succeed if each of them does. -/
lemma exists_mapM_eq_ok {f : α → Except ε β} {l : List α} (h : ∀ a ∈ l, ∃ b, f a = .ok b) :
    ∃ bs, l.mapM f = .ok bs := by
  induction l with
  | nil => exact ⟨[], rfl⟩
  | cons a l ih =>
      obtain ⟨b, hb⟩ := h a List.mem_cons_self
      obtain ⟨bs, hbs⟩ := ih fun c hc => h c (List.mem_cons_of_mem _ hc)
      exact ⟨b :: bs, by rw [List.mapM_cons, hb, hbs]; rfl⟩

/-- What steps over a list come to came of one of them. -/
lemma exists_of_mem_mapM {f : α → Except ε β} {l : List α} {bs : List β} (h : l.mapM f = .ok bs)
    {b : β} (hb : b ∈ bs) : ∃ a ∈ l, f a = .ok b := by
  induction l generalizing bs with
  | nil =>
      cases h
      cases hb
  | cons a l ih =>
      rw [List.mapM_cons] at h
      obtain ⟨first, hfirst, h⟩ := bind_eq_ok_iff.1 h
      obtain ⟨rest, hrest, h⟩ := bind_eq_ok_iff.1 h
      cases h
      rcases List.mem_cons.1 hb with rfl | hb
      · exact ⟨a, List.mem_cons_self, hfirst⟩
      · obtain ⟨c, hc, heq⟩ := ih hrest hb
        exact ⟨c, List.mem_cons_of_mem _ hc, heq⟩

/-- Steps over a list fail if one of them does. -/
lemma mapM_eq_error_of_mem {f : α → Except ε β} {l : List α} {a : α} (ha : a ∈ l)
    (hfail : ∃ e, f a = .error e) : ∃ e, l.mapM f = .error e := by
  induction l with
  | nil => cases ha
  | cons b l ih =>
      rw [List.mapM_cons]
      cases hb : f b with
      | error e => exact ⟨e, rfl⟩
      | ok c =>
          rcases List.mem_cons.1 ha with rfl | ha
          · obtain ⟨e, he⟩ := hfail
            rw [he] at hb
            cases hb
          · obtain ⟨e, he⟩ := ih ha
            exact ⟨e, by rw [he]; rfl⟩

/-- Steps over lists that stand one after another. -/
lemma mapM_flatMap_eq_ok {γ : Type} {f : β → Except ε γ} {g : α → List β} {r : α → List γ}
    {l : List α} (h : ∀ a ∈ l, (g a).mapM f = .ok (r a)) :
    (l.flatMap g).mapM f = .ok (l.flatMap r) := by
  induction l with
  | nil => rfl
  | cons a l ih =>
      rw [List.flatMap_cons, List.mapM_append, h a List.mem_cons_self,
        ih fun b hb => h b (List.mem_cons_of_mem _ hb)]
      rfl

/-- If steps over a list give the list again, each of them gives what it was taken from. -/
lemma forall_of_mapM_eq_ok {f : α → Except ε α} {l : List α} (h : l.mapM f = .ok l) :
    ∀ a ∈ l, f a = .ok a := by
  induction l with
  | nil => simp
  | cons a l ih =>
      rw [List.mapM_cons] at h
      obtain ⟨first, hfirst, h⟩ := bind_eq_ok_iff.1 h
      obtain ⟨rest, hrest, h⟩ := bind_eq_ok_iff.1 h
      obtain ⟨rfl, rfl⟩ := List.cons.inj (Except.ok.inj h)
      intro b hb
      rcases List.mem_cons.1 hb with rfl | hb
      · exact hfirst
      · exact ih hrest b hb

/-- What holds at the start of a chain and is kept by its steps holds at its end. -/
lemma of_foldlM_eq_ok {f : β → α → Except ε β} {P : β → Prop} {l : List α} {b b' : β}
    (h : l.foldlM f b = .ok b') (hb : P b)
    (hstep : ∀ x a y, P x → f x a = .ok y → P y) : P b' := by
  induction l generalizing b with
  | nil =>
      cases h
      exact hb
  | cons a l ih =>
      rw [List.foldlM_cons] at h
      obtain ⟨x, hx, h⟩ := bind_eq_ok_iff.1 h
      exact ih h (hstep b a x hb hx)

end FailoverStorage
