import FailoverStorage.Text.Blank
import FailoverStorage.Text.Split
import Mathlib.Tactic.Common

/-!
# Cutting undoes joining

A text that was put together around a separator is cut into the same pieces again, provided that
no piece holds the separator.  For single separators that is `splitFirst_append` and
`splitAll_joinWith`.  For blanks, where runs of them count as one, the pieces must not be empty
either (`words_joinWith`).
-/

namespace FailoverStorage.Text

/-! ## One cut -/

lemma splitFirst_append {sep : Char} {before : List Char} (h : sep ∉ before) (after : List Char) :
    splitFirst sep (before ++ sep :: after) = some (before, after) := by
  induction before with
  | nil => simp [splitFirst]
  | cons c rest ih =>
      have hc : c ≠ sep := fun heq => h (heq ▸ List.mem_cons_self)
      have hrest : sep ∉ rest := fun hmem => h (List.mem_cons_of_mem _ hmem)
      simp [splitFirst, hc, ih hrest]

lemma splitFirst_eq_none {sep : Char} {s : List Char} (h : sep ∉ s) : splitFirst sep s = none := by
  induction s with
  | nil => rfl
  | cons c rest ih =>
      have hc : c ≠ sep := fun heq => h (heq ▸ List.mem_cons_self)
      have hrest : sep ∉ rest := fun hmem => h (List.mem_cons_of_mem _ hmem)
      simp [splitFirst, hc, ih hrest]

/-- What a cut returns is the text around the separator. -/
lemma splitFirst_eq_some {sep : Char} {s before after : List Char}
    (h : splitFirst sep s = some (before, after)) : s = before ++ sep :: after ∧ sep ∉ before := by
  induction s generalizing before with
  | nil => simp [splitFirst] at h
  | cons c rest ih =>
      unfold splitFirst at h
      split at h
      · rename_i hc
        obtain ⟨rfl, rfl⟩ : [] = before ∧ rest = after := by simpa using h
        simp [hc]
      · rename_i hc
        obtain ⟨⟨b, a⟩, hcut, heq⟩ := Option.map_eq_some_iff.1 h
        obtain ⟨rfl, rfl⟩ : c :: b = before ∧ a = after := by simpa using heq
        obtain ⟨rfl, hb⟩ := ih hcut
        exact ⟨rfl, by simp [Ne.symm hc, hb]⟩

lemma splitLast_append {sep : Char} {after : List Char} (h : sep ∉ after) (before : List Char) :
    splitLast sep (before ++ sep :: after) = some (before, after) := by
  have hreverse : (before ++ sep :: after).reverse = after.reverse ++ sep :: before.reverse := by
    simp
  rw [splitLast, hreverse, splitFirst_append (by simpa using h)]
  simp

lemma splitLast_eq_some {sep : Char} {s before after : List Char}
    (h : splitLast sep s = some (before, after)) : s = before ++ sep :: after ∧ sep ∉ after := by
  obtain ⟨⟨a, b⟩, hcut, heq⟩ := Option.map_eq_some_iff.1 h
  obtain ⟨rfl, rfl⟩ : b.reverse = before ∧ a.reverse = after := by simpa using heq
  obtain ⟨hreverse, ha⟩ := splitFirst_eq_some hcut
  refine ⟨?_, by simpa using ha⟩
  rw [← List.reverse_reverse s, hreverse]
  simp

/-! ## Given beginnings -/

lemma dropStart_eq_some_iff {start s rest : List Char} :
    dropStart start s = some rest ↔ s = start ++ rest := by
  induction start generalizing s with
  | nil => simp [dropStart, eq_comm]
  | cons a start ih =>
      cases s with
      | nil => simp [dropStart]
      | cons c s =>
          by_cases hac : a = c
          · simp [dropStart, hac, ih]
          · simp [dropStart, hac, Ne.symm hac]

@[simp] lemma dropStart_append (start rest : List Char) :
    dropStart start (start ++ rest) = some rest :=
  dropStart_eq_some_iff.2 rfl

@[simp] lemma dropEnding_append (s ending : List Char) :
    dropEnding ending (s ++ ending) = some s := by
  rw [dropEnding, List.reverse_append, dropStart_append, Option.map_some, List.reverse_reverse]

/-- What a text lacks the first character of does not occur in it. -/
lemma occurs_eq_false_of_notMem {c : Char} {part s : List Char} (h : c ∉ s) :
    occurs (c :: part) s = false := by
  induction s with
  | nil => rfl
  | cons d rest ih =>
      have hd : c ≠ d := fun heq => h (heq ▸ List.mem_cons_self)
      have hrest : c ∉ rest := fun hmem => h (List.mem_cons_of_mem _ hmem)
      rw [occurs, dropStart, if_neg hd, ih hrest]
      rfl

/-! ## All cuts -/

lemma splitAll_of_notMem {sep : Char} {s : List Char} (h : sep ∉ s) : splitAll sep s = [s] := by
  induction s with
  | nil => rfl
  | cons c rest ih =>
      have hc : c ≠ sep := fun heq => h (heq ▸ List.mem_cons_self)
      have hrest : sep ∉ rest := fun hmem => h (List.mem_cons_of_mem _ hmem)
      simp [splitAll, hc, ih hrest]

lemma splitAll_append {sep : Char} {before : List Char} (h : sep ∉ before) (after : List Char) :
    splitAll sep (before ++ sep :: after) = before :: splitAll sep after := by
  induction before with
  | nil => simp [splitAll]
  | cons c rest ih =>
      have hc : c ≠ sep := fun heq => h (heq ▸ List.mem_cons_self)
      have hrest : sep ∉ rest := fun hmem => h (List.mem_cons_of_mem _ hmem)
      simp [splitAll, hc, ih hrest]

lemma toList_joinWith_cons_cons (sep : String) (s t : String) (rest : List String) :
    (joinWith sep (s :: t :: rest)).toList
      = s.toList ++ (sep.toList ++ (joinWith sep (t :: rest)).toList) := by
  simp [joinWith, String.toList_append]

/-- **Joined pieces are cut where they were joined.** -/
lemma splitAll_joinWith {sep : Char} {text : String} (hsep : text.toList = [sep]) :
    ∀ {parts : List String}, parts ≠ [] → (∀ s ∈ parts, sep ∉ s.toList) →
      splitAll sep (joinWith text parts).toList = parts.map String.toList
  | [], hne, _ => absurd rfl hne
  | [s], _, h => by
      rw [joinWith, splitAll_of_notMem (h s List.mem_cons_self)]
      rfl
  | s :: t :: rest, _, h => by
      have ih := splitAll_joinWith hsep (List.cons_ne_nil t rest)
        fun u hu => h u (List.mem_cons_of_mem _ hu)
      rw [toList_joinWith_cons_cons, hsep, List.singleton_append,
        splitAll_append (h s List.mem_cons_self), ih]
      rfl

/-- The characters of a joined text come from its pieces or from the separator. -/
lemma mem_joinWith {sep : String} {c : Char} :
    ∀ {parts : List String}, c ∈ (joinWith sep parts).toList →
      c ∈ sep.toList ∨ ∃ s ∈ parts, c ∈ s.toList
  | [], h => by simp [joinWith] at h
  | [s], h => .inr ⟨s, List.mem_cons_self, h⟩
  | s :: t :: rest, h => by
      rw [toList_joinWith_cons_cons] at h
      rcases List.mem_append.1 h with h | h
      · exact .inr ⟨s, List.mem_cons_self, h⟩
      rcases List.mem_append.1 h with h | h
      · exact .inl h
      · rcases mem_joinWith h with h | ⟨u, hu, hc⟩
        · exact .inl h
        · exact .inr ⟨u, List.mem_cons_of_mem _ hu, hc⟩

/-! ## Words -/

/-- No character of a text is blank. -/
def IsBlankFree (s : String) : Prop := ∀ c ∈ s.toList, isBlank c = false

/-- Characters that are not blank join the current word. -/
lemma wordsFrom_append {s : List Char} (h : ∀ c ∈ s, isBlank c = false)
    (current rest : List Char) :
    wordsFrom current (s ++ rest) = wordsFrom (current ++ s) rest := by
  induction s generalizing current with
  | nil => simp
  | cons c s ih =>
      have hc := h c List.mem_cons_self
      simp only [List.cons_append, wordsFrom, hc, Bool.false_eq_true, if_false]
      rw [ih fun d hd => h d (List.mem_cons_of_mem _ hd), List.append_assoc]
      rfl

lemma words_of_isBlankFree {s : List Char} (hne : s ≠ []) (h : ∀ c ∈ s, isBlank c = false) :
    words s = [s] := by
  rw [words, ← List.append_nil s, wordsFrom_append h]
  simp [wordsFrom, hne]

/-- A blank separates what stands before it from what stands after it. -/
lemma wordsFrom_append_blank {b : Char} (hb : isBlank b = true) (current s rest : List Char) :
    wordsFrom current (s ++ b :: rest) = wordsFrom current s ++ wordsFrom [] rest := by
  induction s generalizing current with
  | nil =>
      rw [List.nil_append, wordsFrom, wordsFrom, if_pos hb]
      split <;> simp
  | cons c s ih =>
      rw [List.cons_append, wordsFrom, wordsFrom]
      split
      · split
        · rw [ih]
        · rw [ih, List.cons_append]
      · rw [ih]

/-- The words of a text contain no blanks. -/
lemma isBlank_of_mem_wordsFrom {current s w : List Char} (h : ∀ c ∈ current, isBlank c = false)
    (hw : w ∈ wordsFrom current s) : ∀ c ∈ w, isBlank c = false := by
  induction s generalizing current with
  | nil =>
      rw [wordsFrom] at hw
      split at hw
      · cases hw
      · exact List.mem_singleton.1 hw ▸ h
  | cons c s ih =>
      have hnone : ∀ c ∈ ([] : List Char), isBlank c = false := fun _ hc => nomatch hc
      rw [wordsFrom] at hw
      split at hw
      · split at hw
        · exact ih hnone hw
        · rcases List.mem_cons.1 hw with rfl | hw
          · exact h
          · exact ih hnone hw
      · rename_i hblank
        refine ih (fun d hd => ?_) hw
        rcases List.mem_append.1 hd with hd | hd
        · exact h d hd
        · exact List.mem_singleton.1 hd ▸ eq_false_of_ne_true hblank

/-- **The words of joined texts** are the words of each of them. -/
lemma words_joinWith_eq_flatMap :
    ∀ parts : List String, words (joinWith " " parts).toList
      = parts.flatMap fun s => words s.toList
  | [] => by simp [joinWith, words, wordsFrom]
  | [s] => by simp [joinWith]
  | s :: t :: rest => by
      have ih := words_joinWith_eq_flatMap (t :: rest)
      have hspace : isBlank ' ' = true := by decide
      have hsep : " ".toList = [' '] := rfl
      rw [words] at ih ⊢
      rw [toList_joinWith_cons_cons, hsep, List.singleton_append, wordsFrom_append_blank hspace, ih,
        List.flatMap_cons]
      rfl

/-- **The words of joined words are these words.** -/
lemma words_joinWith {parts : List String} (h : ∀ s ∈ parts, s ≠ "" ∧ IsBlankFree s) :
    words (joinWith " " parts).toList = parts.map String.toList := by
  have hwords : parts.flatMap (fun s => words s.toList) = parts.flatMap fun s => [s.toList] := by
    rw [List.flatMap_def, List.flatMap_def]
    refine congrArg List.flatten (List.map_congr_left fun s hs => ?_)
    obtain ⟨hne, hblank⟩ := h s hs
    exact words_of_isBlankFree (by simpa using hne) hblank
  rw [words_joinWith_eq_flatMap, hwords, ← List.map_eq_flatMap]

end FailoverStorage.Text
