import FailoverStorage.Promoter.Agent.Line
import FailoverStorage.Proofs.Data.SortedMap
import FailoverStorage.Proofs.Text.Numeral
import FailoverStorage.Proofs.Text.Split

/-!
# Reading back agent lines

An agent that can be written, which is one whose kind, name and keys are words of their own, is
what its line reads as (`Agent.ofLine_line`).  The values of its attributes do not matter: one that
is empty or holds a blank, a quote or a backslash stands between quotes, where everything can be
said, and reading it extends the word of its key to the whole attribute (`wordsFrom_quoted`).
-/

namespace FailoverStorage.Agent

open Text

/-! ## What can be written -/

/-- A text that stands for itself in a line: it is not empty and has no blanks and no quotes. -/
def IsWord (s : String) : Prop := s ≠ "" ∧ ∀ c ∈ s.toList, isBlank c = false ∧ c ≠ '"'

instance (s : String) : Decidable (IsWord s) :=
  have : Decidable (∀ c ∈ s.toList, isBlank c = false ∧ c ≠ '"') := List.decidableBAll _ _
  inferInstanceAs (Decidable (_ ∧ _))

/-- **An agent that a line can hold.** -/
structure Writable (a : Agent) : Prop where
  kind : IsWord a.kind
  name : IsWord a.name
  /-- The first equals sign of an attribute ends its key. -/
  keys : ∀ e ∈ a.attributes.entries, IsWord e.1 ∧ '=' ∉ e.1.toList

lemma isWord_append {s t : String} (hs : IsWord s) (ht : IsWord t) : IsWord (s ++ t) := by
  refine ⟨fun h => hs.1 (String.append_eq_empty_iff.1 h).1, fun c hc => ?_⟩
  rw [String.toList_append, List.mem_append] at hc
  exact hc.elim (hs.2 c) (ht.2 c)

lemma isWord_decimal (n : Nat) : IsWord (decimal n) := by
  refine ⟨decimal_ne_empty n, fun c hc => ?_⟩
  rw [toList_decimal] at hc
  obtain ⟨d, hd, rfl⟩ := mem_toDigits (by decide) hc
  exact (by decide : ∀ d < 10, isBlank (Nat.digitChar d) = false ∧ Nat.digitChar d ≠ '"') d hd

/-- An agent that is built from words can be written. -/
lemma writable_ofList {kind name : String} {attributes : List (String × String)}
    (hkind : IsWord kind) (hname : IsWord name)
    (hkeys : ∀ key ∈ attributes.map (·.1), IsWord key ∧ '=' ∉ key.toList) :
    (ofList kind name attributes).Writable :=
  { kind := hkind
    name := hname
    keys := fun _ he => hkeys _ (List.mem_map_of_mem (SortedMap.mem_of_mem_ofList he)) }

/-! ## Words -/

/-- Outside of quotes an ordinary character joins the current word. -/
lemma wordsFrom_cons {c : Char} (hblank : isBlank c = false) (hquote : c ≠ '"')
    (word : Option (List Char)) (rest : List Char) :
    wordsFrom false word (c :: rest) = wordsFrom false (some (word.getD [] ++ [c])) rest := by
  rw [wordsFrom]
  · simp [hquote, hblank]
  · simp
  · simp

/-- Outside of quotes ordinary characters join the current word. -/
lemma wordsFrom_append {s : List Char} (h : ∀ c ∈ s, isBlank c = false ∧ c ≠ '"')
    (word rest : List Char) :
    wordsFrom false (some word) (s ++ rest) = wordsFrom false (some (word ++ s)) rest := by
  induction s generalizing word with
  | nil => simp
  | cons c s ih =>
      obtain ⟨hblank, hquote⟩ := h c List.mem_cons_self
      rw [List.cons_append, wordsFrom_cons hblank hquote,
        ih fun d hd => h d (List.mem_cons_of_mem _ hd)]
      simp

/-- A word at the start of what is left begins a word. -/
lemma wordsFrom_word {s : String} (h : IsWord s) (rest : List Char) :
    wordsFrom false none (s.toList ++ rest) = wordsFrom false (some s.toList) rest := by
  obtain ⟨hne, hchars⟩ := h
  obtain ⟨c, cs, hs⟩ := List.exists_cons_of_ne_nil (l := s.toList) (by simpa using hne)
  rw [hs] at hchars ⊢
  obtain ⟨hblank, hquote⟩ := hchars c List.mem_cons_self
  rw [List.cons_append, wordsFrom_cons hblank hquote,
    wordsFrom_append fun d hd => hchars d (List.mem_cons_of_mem _ hd)]
  rfl

/-- A blank ends the current word. -/
lemma wordsFrom_space (word rest : List Char) :
    wordsFrom false (some word) (' ' :: rest) = (wordsFrom false none rest).map (word :: ·) := by
  have hspace : isBlank ' ' = true := by decide
  rw [wordsFrom]
  · simp [hspace]
  · simp
  · simp

/-- Between quotes an escaped value joins the current word, and its last quote ends the quotes. -/
lemma wordsFrom_escaped (value word rest : List Char) :
    wordsFrom true (some word) (escaped value ++ rest)
      = wordsFrom false (some (word ++ value)) rest := by
  induction value generalizing word with
  | nil =>
      rw [escaped, List.singleton_append, wordsFrom]
      · simp
      · simp
      · simp
  | cons c value ih =>
      rw [escaped]
      split
      · rw [List.cons_append, List.cons_append, wordsFrom, ih]
        simp
      · rename_i hc
        rw [not_or] at hc
        rw [List.cons_append, wordsFrom]
        · simp [hc.1, ih]
        · intro _ heq
          exact absurd heq hc.2
        · intro _ _ _ heq
          exact absurd heq hc.2

/-- A value that stands without quotes has only ordinary characters. -/
lemma ordinary_of_unquoted {value : List Char}
    (h : ¬ (value.isEmpty || value.any needsQuotes) = true) :
    ∀ c ∈ value, isBlank c = false ∧ c ≠ '"' := by
  intro c hc
  simp only [Bool.or_eq_true, not_or, List.any_eq_true, not_exists, not_and] at h
  have hneeds := h.2 c hc
  simp only [needsQuotes, Bool.or_eq_true, decide_eq_true_eq, not_or] at hneeds
  exact ⟨by simpa using hneeds.1.1, hneeds.1.2⟩

/-- **A value as it stands in a line joins the current word.** -/
lemma wordsFrom_quoted (value word rest : List Char) :
    wordsFrom false (some word) (quoted value ++ rest)
      = wordsFrom false (some (word ++ value)) rest := by
  rw [quoted]
  split
  · rw [List.cons_append, wordsFrom]
    · simp [wordsFrom_escaped]
    · simp
    · simp
  · rename_i h
    exact wordsFrom_append (ordinary_of_unquoted h) word rest

/-- The word of an attribute. -/
def attributeWord (e : String × String) : List Char := e.1.toList ++ '=' :: e.2.toList

/-- The words after the name are the attributes. -/
lemma wordsFrom_attributesText {entries : List (String × String)}
    (h : ∀ e ∈ entries, IsWord e.1 ∧ '=' ∉ e.1.toList) (word : List Char) :
    wordsFrom false (some word) (attributesText entries)
      = .ok (word :: entries.map attributeWord) := by
  induction entries generalizing word with
  | nil => simp [attributesText, wordsFrom]
  | cons e rest ih =>
      obtain ⟨key, value⟩ := e
      obtain ⟨hkey, -⟩ := h (key, value) List.mem_cons_self
      have hrest := ih fun d hd => h d (List.mem_cons_of_mem _ hd)
      have hequals : isBlank '=' = false := by decide
      rw [attributesText, List.append_assoc, List.cons_append, wordsFrom_space,
        wordsFrom_word hkey, List.cons_append, wordsFrom_cons hequals (by decide),
        wordsFrom_quoted, hrest]
      simp [attributeWord, Except.map]

/-! ## Attributes -/

/-- Reading the words of attributes binds them one after another. -/
lemma withAttributes_words {entries : List (String × String)}
    (h : ∀ e ∈ entries, IsWord e.1 ∧ '=' ∉ e.1.toList) (m : SortedMap String String) :
    withAttributes m (entries.map attributeWord)
      = .ok (entries.foldl (fun acc e => acc.insert e.1 e.2) m) := by
  induction entries generalizing m with
  | nil => rfl
  | cons e rest ih =>
      obtain ⟨hword, hequals⟩ := h e List.mem_cons_self
      have hne : e.1.toList ≠ [] := by simpa using hword.1
      have hcut : splitFirst '=' (attributeWord e) = some (e.1.toList, e.2.toList) :=
        splitFirst_append hequals _
      rw [List.map_cons, withAttributes, hcut]
      simp only [List.isEmpty_iff, hne, if_false, String.ofList_toList]
      exact ih (fun d hd => h d (List.mem_cons_of_mem _ hd)) _

/-! ## Lines -/

/-- **An agent that can be written is what its line reads as.** -/
theorem ofLine_line {a : Agent} (h : a.Writable) : ofLine a.line = .ok a := by
  have hwords : words a.line.toList = .ok (a.kind.toList :: a.name.toList
      :: a.attributes.entries.map attributeWord) := by
    rw [words, line, String.toList_ofList, List.append_assoc, wordsFrom_word h.kind,
      List.cons_append, wordsFrom_space, wordsFrom_word h.name,
      wordsFrom_attributesText h.keys]
    rfl
  have hattributes := withAttributes_words h.keys .empty
  rw [SortedMap.foldl_insert_entries] at hattributes
  rw [ofLine, hwords]
  simp [Except.bind, ofWords, hattributes, Except.map]

end FailoverStorage.Agent
