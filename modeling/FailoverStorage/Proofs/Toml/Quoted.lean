import FailoverStorage.Proofs.Text.Numeral
import FailoverStorage.Proofs.Text.Split
import FailoverStorage.Toml.Writer

/-!
# Reading back TOML strings

Every string reads back as what it was before it was written (`readQuoted_string`), and so does
every part of a key (`readPart_part`).  Three things have to be right for that.  An escape stands
for one character (`readBasic_escape`, `readMultiBasic_escape`).  In a form without escapes every
character stands for itself, because the form was chosen for that.  And the quotes that close a
string are told apart from those that belong to it: between multi-line quotes at most two stand
next to each other, so three can only be the closing ones, with up to two of the string in front.
-/

namespace FailoverStorage.Toml

open Text

/-! ## Escapes -/

lemma isPlain_of_not_isControl {c : Char} (h : isControl c = false) (hn : c ≠ '\n') :
    isPlain c = true := by
  simpa [isControl, hn] using h

/-- The code of a control character stands for it. -/
lemma exists_codeEscape {c : Char} (h : isControl c = true) :
    ∃ x₁ x₂ x₃ x₄, codeEscape c = ['\\', 'u', x₁, x₂, x₃, x₄]
      ∧ scalar? [x₁, x₂, x₃, x₄] = some c := by
  have hlt : c.toNat < 0x80 := by
    simp only [isControl, isPlain, Bool.and_eq_true, Bool.not_eq_true', Bool.or_eq_false_iff,
      Bool.and_eq_false_iff, decide_eq_false_iff_not, ne_eq, decide_eq_true_eq] at h
    omega
  have hdigits := digitsFrom?_hexadecimal_toUpper 4 c.toNat 0
  have hmod : c.toNat % Nat.pow 16 4 = c.toNat := Nat.mod_eq_of_lt (Nat.lt_trans hlt (by decide))
  rw [hmod] at hdigits
  have hvalid : c.toNat.isValidChar := c.valid
  refine ⟨_, _, _, _, rfl, ?_⟩
  rw [scalar?, digits?]
  · refine (congrArg (Option.bind · _) hdigits).trans ?_
    simp [hvalid]
  · simp

/-- What a character is written as between double quotes, where neither quotes nor line feeds are
concerned, is the character itself or one of two kinds of escape. -/
lemma escapeOf?_cases (c : Char) :
    (escapeOf? c = none ∧ c ≠ '\\' ∧ isControl c = false)
      ∨ (∃ e, escapeOf? c = some ['\\', e] ∧ escape? e = some c)
      ∨ ∃ x₁ x₂ x₃ x₄, escapeOf? c = some ['\\', 'u', x₁, x₂, x₃, x₄]
        ∧ scalar? [x₁, x₂, x₃, x₄] = some c := by
  unfold escapeOf?
  split
  · rename_i h; exact .inr (.inl ⟨'b', rfl, by rw [h]; rfl⟩)
  split
  · rename_i h; exact .inr (.inl ⟨'t', rfl, by rw [h]; rfl⟩)
  split
  · rename_i h; exact .inr (.inl ⟨'f', rfl, by rw [h]; rfl⟩)
  split
  · rename_i h; exact .inr (.inl ⟨'r', rfl, by rw [h]; rfl⟩)
  split
  · rename_i h; exact .inr (.inl ⟨'\\', rfl, by rw [h]; rfl⟩)
  split
  · rename_i h
    obtain ⟨x₁, x₂, x₃, x₄, hx, hc⟩ := exists_codeEscape h
    exact .inr (.inr ⟨x₁, x₂, x₃, x₄, by rw [hx], hc⟩)
  · rename_i hb h
    exact .inl ⟨rfl, hb, by simpa using h⟩

/-! ## Single lines -/

/-- Adds a character in front of what was read. -/
def consRead (c : Char) (r : List Char × List Char) : List Char × List Char := (c :: r.1, r.2)

lemma readBasic_escape {e c : Char} (h : escape? e = some c) (tail : List Char) :
    readBasic ('\\' :: e :: tail) = (readBasic tail).map (consRead c) := by
  have hu : e ≠ 'u' := by rintro rfl; cases h
  have hU : e ≠ 'U' := by rintro rfl; cases h
  rw [readBasic]
  · rw [h]
    cases readBasic tail <;> rfl
  · intros
    exact absurd ‹_› hu
  · intros
    exact absurd ‹_› hU

lemma readBasic_code {x₁ x₂ x₃ x₄ c : Char} (h : scalar? [x₁, x₂, x₃, x₄] = some c)
    (tail : List Char) :
    readBasic ('\\' :: 'u' :: x₁ :: x₂ :: x₃ :: x₄ :: tail)
      = (readBasic tail).map (consRead c) := by
  rw [readBasic, h]
  cases readBasic tail <;> rfl

lemma readBasic_plain {c : Char} (hplain : isPlain c = true) (hq : c ≠ '"') (hb : c ≠ '\\')
    (tail : List Char) : readBasic (c :: tail) = (readBasic tail).map (consRead c) := by
  rw [readBasic]
  · simp only [hb, hplain, ne_eq, not_false_eq_true, and_self, if_true]
    rfl
  · exact hq
  · intros
    exact absurd ‹_› hb
  · intros
    exact absurd ‹_› hb
  · intros
    exact absurd ‹_› hb

/-- **A string between double quotes on one line reads back**, whatever follows it. -/
lemma readBasic_escapedLine (s rest : List Char) :
    readBasic (escapedLine s ++ '"' :: rest) = some (s, rest) := by
  induction s with
  | nil => rw [escapedLine, List.nil_append, readBasic]
  | cons c s ih =>
      rw [escapedLine]
      split
      · rename_i hc
        rw [List.cons_append, List.cons_append, readBasic_escape (c := c) (by rw [hc]; rfl), ih]
        rfl
      split
      · rename_i hc
        rw [List.cons_append, List.cons_append, readBasic_escape (c := c) (by rw [hc]; rfl), ih]
        rfl
      · rename_i hq hn
        rcases escapeOf?_cases c with ⟨hnone, hb, hcontrol⟩ | ⟨e, he, hc⟩ | ⟨x₁, x₂, x₃, x₄, hx, hc⟩
        · rw [hnone, Option.getD_none, List.cons_append, List.nil_append, List.cons_append,
            readBasic_plain (isPlain_of_not_isControl hcontrol hn) hq hb, ih]
          rfl
        · rw [he, Option.getD_some, List.append_assoc, List.cons_append, List.cons_append,
            List.nil_append, readBasic_escape hc, ih]
          rfl
        · rw [hx, Option.getD_some]
          simp only [List.cons_append, List.nil_append]
          rw [readBasic_code hc, ih]
          rfl

/-- A string between single quotes reads back. -/
lemma readLiteral_append {s : List Char} (h : ∀ c ∈ s, isPlain c = true ∧ c ≠ '\'')
    (rest : List Char) : readLiteral (s ++ '\'' :: rest) = some (s, rest) := by
  induction s with
  | nil => rw [List.nil_append, readLiteral]
  | cons c s ih =>
      obtain ⟨hplain, hq⟩ := h c List.mem_cons_self
      rw [List.cons_append, readLiteral, ih fun d hd => h d (List.mem_cons_of_mem _ hd)]
      · simp [hplain]
      · exact hq

/-! ## Closing quotes of several lines

What follows a string in a document never begins with a quote, so up to two quotes in front of the
three closing ones belong to the string.
-/

/-- A text does not begin with a quote. -/
def NoQuote (rest : List Char) : Prop := ∀ c r, rest = c :: r → c ≠ '"' ∧ c ≠ '\''

lemma noQuote_cons {c : Char} {r : List Char} (h : c ≠ '"' ∧ c ≠ '\'') : NoQuote (c :: r) := by
  intro d t heq
  rwa [← (List.cons.inj heq).1]

lemma closing_replicate {quote : Char} {rest : List Char} (h : ∀ c r, rest = c :: r → c ≠ quote)
    {m : Nat} (hm : m ≤ 2) :
    closing quote (List.replicate m quote ++ rest) = (List.replicate m quote, rest) := by
  match m, hm with
  | 0, _ =>
      match rest with
      | [] => rfl
      | [c] => simp [closing, h c [] rfl]
      | c :: d :: r => simp [closing, h c _ rfl]
  | 1, _ =>
      match rest with
      | [] => simp [closing]
      | c :: r => simp [closing, h c _ rfl]
  | 2, _ => simp [closing, List.replicate]

/-! ## Several lines between double quotes -/

lemma readMultiBasic_escape {e c : Char} (h : escape? e = some c) (tail : List Char) :
    readMultiBasic false ('\\' :: e :: tail)
      = (readMultiBasic false tail).map (consRead c) := by
  have hu : e ≠ 'u' := by rintro rfl; cases h
  have hU : e ≠ 'U' := by rintro rfl; cases h
  have hline : endsLine (e :: tail) = false := by
    unfold endsLine
    split
    · rename_i heq; rw [(List.cons.inj heq).1] at h; cases h
    · rename_i heq; rw [(List.cons.inj heq).1] at h; cases h
    · unfold dropLineBreak?
      split
      · rename_i heq; rw [(List.cons.inj heq).1] at h
        obtain rfl : c = '\n' := by cases h
        cases h
      · rename_i heq; rw [(List.cons.inj heq).1] at h; cases h
      · rfl
  rw [readMultiBasic]
  · rw [hline, h]
    cases readMultiBasic false tail <;> rfl
  · intros
    exact absurd ‹_› hu
  · intros
    exact absurd ‹_› hU

lemma readMultiBasic_code {x₁ x₂ x₃ x₄ c : Char} (h : scalar? [x₁, x₂, x₃, x₄] = some c)
    (tail : List Char) :
    readMultiBasic false ('\\' :: 'u' :: x₁ :: x₂ :: x₃ :: x₄ :: tail)
      = (readMultiBasic false tail).map (consRead c) := by
  rw [readMultiBasic, h]
  cases readMultiBasic false tail <;> rfl

/-- A character stands for itself unless it is the first of three quotes. -/
lemma readMultiBasic_plain {c : Char} (hplain : isPlain c = true ∨ c = '\n') (hb : c ≠ '\\')
    {tail : List Char} (hq : ∀ r, c :: tail ≠ '"' :: '"' :: '"' :: r) :
    readMultiBasic false (c :: tail) = (readMultiBasic false tail).map (consRead c) := by
  have hr : c ≠ '\r' := by rintro rfl; revert hplain; decide
  rw [readMultiBasic]
  · simp only [hb, hplain, ne_eq, not_false_eq_true, and_self, if_true, Bool.false_eq_true,
      false_and, if_false]
    rfl
  · intro r h₁ h₂
    exact hq r (by rw [h₁, h₂])
  · intros
    exact absurd ‹_› hr
  · intros
    exact absurd ‹_› hb
  · intros
    exact absurd ‹_› hb
  · intros
    exact absurd ‹_› hb

/-- The escape of a character other than a quote begins with no quote. -/
lemma escapeOf?_getD_ne {c : Char} (hc : c ≠ '"') :
    ∃ x xs, (escapeOf? c).getD [c] = x :: xs ∧ x ≠ '"' := by
  rcases escapeOf?_cases c with ⟨hnone, -, -⟩ | ⟨e, he, -⟩ | ⟨x₁, x₂, x₃, x₄, hx, -⟩
  · exact ⟨c, [], by rw [hnone]; rfl, hc⟩
  · exact ⟨'\\', [e], by rw [he]; rfl, by decide⟩
  · exact ⟨'\\', ['u', x₁, x₂, x₃, x₄], by rw [hx]; rfl, by decide⟩

lemma escapedLines_quote_zero (s : List Char) :
    escapedLines 0 ('"' :: s) = '\\' :: '"' :: escapedLines 2 s := by
  simp [escapedLines]

lemma escapedLines_quote_succ (quotes : Nat) (s : List Char) :
    escapedLines (quotes + 1) ('"' :: s) = '"' :: escapedLines quotes s := by
  simp [escapedLines]

lemma escapedLines_of_ne {c : Char} (hc : c ≠ '"') (quotes : Nat) (s : List Char) :
    escapedLines quotes (c :: s) = (escapeOf? c).getD [c] ++ escapedLines 2 s := by
  simp [escapedLines, hc]

/-- Quotes that may still stand unescaped are written as they are. -/
lemma escapedLines_replicate {m quotes : Nat} (h : m ≤ quotes) :
    escapedLines quotes (List.replicate m '"') = List.replicate m '"' := by
  induction m generalizing quotes with
  | zero => rfl
  | succ m ih =>
      obtain ⟨q, rfl⟩ : ∃ q, quotes = q + 1 := ⟨quotes - 1, by omega⟩
      rw [List.replicate_succ, escapedLines_quote_succ, ih (Nat.le_of_succ_le_succ h)]

/-- Where no quote may stand unescaped, what is written begins with none. -/
lemma escapedLines_zero_ne_quote {s : List Char} (hs : s ≠ []) (tail r : List Char) :
    escapedLines 0 s ++ tail ≠ '"' :: r := by
  obtain ⟨c, s, rfl⟩ := List.exists_cons_of_ne_nil hs
  by_cases hc : c = '"'
  · subst hc
    simp [escapedLines_quote_zero]
  · obtain ⟨x, xs, hx, hne⟩ := escapeOf?_getD_ne hc
    simp [escapedLines_of_ne hc, hx, hne]

/-- A string that is not just the quotes that may still stand unescaped is not written with two
quotes in front. -/
lemma escapedLines_ne_quotes {quotes : Nat} (hquotes : quotes ≤ 1) {s : List Char}
    (hs : ∀ m ≤ quotes, s ≠ List.replicate m '"') (tail r : List Char) :
    escapedLines quotes s ++ tail ≠ '"' :: '"' :: r := by
  match quotes, hquotes with
  | 0, _ => exact escapedLines_zero_ne_quote (hs 0 (Nat.le_refl 0)) tail _
  | 1, _ =>
      obtain ⟨c, s, rfl⟩ := List.exists_cons_of_ne_nil (hs 0 (Nat.zero_le 1))
      by_cases hc : c = '"'
      · subst hc
        have hne : s ≠ [] := by
          rintro rfl
          exact hs 1 (Nat.le_refl 1) rfl
        intro heq
        rw [escapedLines_quote_succ] at heq
        exact escapedLines_zero_ne_quote hne tail r (List.cons.inj heq).2
      · obtain ⟨x, xs, hx, hne⟩ := escapeOf?_getD_ne hc
        simp [escapedLines_of_ne hc, hx, hne]

/-- **A string between three double quotes reads back.** -/
lemma readMultiBasic_escapedLines {quotes : Nat} (hquotes : quotes ≤ 2) (s : List Char)
    {rest : List Char} (hrest : NoQuote rest) :
    readMultiBasic false (escapedLines quotes s ++ '"' :: '"' :: '"' :: rest)
      = some (s, rest) := by
  have hend : ∀ m ≤ 2, readMultiBasic false
      (List.replicate m '"' ++ '"' :: '"' :: '"' :: rest) = some (List.replicate m '"', rest) := by
    intro m hm
    have hsame : List.replicate m '"' ++ '"' :: '"' :: '"' :: rest
        = '"' :: '"' :: '"' :: (List.replicate m '"' ++ rest) := by
      match m, hm with
      | 0, _ => rfl
      | 1, _ => rfl
      | 2, _ => rfl
    rw [hsame, readMultiBasic, closing_replicate (fun c r heq => (hrest c r heq).1) hm]
  induction s generalizing quotes with
  | nil => exact hend 0 (by omega)
  | cons c s ih =>
      by_cases hq : c = '"'
      · subst hq
        match quotes, hquotes with
        | 0, _ =>
            rw [escapedLines_quote_zero, List.cons_append, List.cons_append,
              readMultiBasic_escape (c := '"') rfl, ih (Nat.le_refl 2)]
            rfl
        | q + 1, hq =>
            rw [escapedLines_quote_succ]
            by_cases hs : ∃ m ≤ q, s = List.replicate m '"'
            · obtain ⟨m, hm, rfl⟩ := hs
              rw [escapedLines_replicate hm, ← List.replicate_succ]
              exact hend (m + 1) (by omega)
            · have hne := @escapedLines_ne_quotes q (by omega) _
                (fun m hm heq => hs ⟨m, hm, heq⟩) ('"' :: '"' :: '"' :: rest)
              rw [List.cons_append, readMultiBasic_plain (.inl (by decide)) (by decide),
                ih (by omega)]
              · rfl
              · intro r heq
                exact hne r (List.cons.inj heq).2
      · rw [escapedLines_of_ne hq]
        rcases escapeOf?_cases c with ⟨hnone, hb, hcontrol⟩ | ⟨e, he, hc⟩ | ⟨x₁, x₂, x₃, x₄, hx, hc⟩
        · have hplain : isPlain c = true ∨ c = '\n' := by
            by_cases hn : c = '\n'
            · exact .inr hn
            · exact .inl (isPlain_of_not_isControl hcontrol hn)
          rw [hnone, Option.getD_none, List.cons_append, List.nil_append, List.cons_append,
            readMultiBasic_plain hplain hb, ih (Nat.le_refl 2)]
          · rfl
          · intro r heq
            exact hq (List.cons.inj heq).1
        · rw [he, Option.getD_some, List.append_assoc, List.cons_append, List.cons_append,
            List.nil_append, readMultiBasic_escape hc, ih (Nat.le_refl 2)]
          rfl
        · rw [hx, Option.getD_some]
          simp only [List.cons_append, List.nil_append]
          rw [readMultiBasic_code hc, ih (Nat.le_refl 2)]
          rfl

/-! ## Several lines between single quotes -/

/-- A character stands for itself unless it is the first of three quotes. -/
lemma readMultiLiteral_plain {c : Char} (hplain : isPlain c = true ∨ c = '\n') {tail : List Char}
    (hq : ∀ r, c :: tail ≠ '\'' :: '\'' :: '\'' :: r) :
    readMultiLiteral (c :: tail) = (readMultiLiteral tail).map (consRead c) := by
  have hr : c ≠ '\r' := by rintro rfl; revert hplain; decide
  rw [readMultiLiteral]
  · simp only [hplain, if_true]
    rfl
  · intro r h₁ h₂
    exact hq r (by rw [h₁, h₂])
  · intros
    exact absurd ‹_› hr

lemma hasRun_cons {quote c : Char} {s : List Char} (h : hasRun quote (c :: s) = false) :
    (∀ r, c :: s ≠ quote :: quote :: quote :: r) ∧ hasRun quote s = false := by
  rw [hasRun, occurs, Bool.or_eq_false_iff] at h
  refine ⟨fun r heq => ?_, h.2⟩
  rw [heq] at h
  exact absurd h.1 (by simp [dropStart])

/-- **A string between three single quotes reads back** if three of them occur nowhere in it. -/
lemma readMultiLiteral_append {s : List Char} (hs : ∀ c ∈ s, isPlain c = true ∨ c = '\n')
    (hrun : hasRun '\'' s = false) {rest : List Char} (hrest : NoQuote rest) :
    readMultiLiteral (s ++ '\'' :: '\'' :: '\'' :: rest) = some (s, rest) := by
  induction s with
  | nil =>
      have hclose := closing_replicate (fun c r heq => (hrest c r heq).2) (m := 0) (by omega)
      rw [List.nil_append, readMultiLiteral]
      exact congrArg some hclose
  | cons c s ih =>
      obtain ⟨hfirst, hrun'⟩ := hasRun_cons hrun
      by_cases hm : c :: s = ['\''] ∨ c :: s = ['\'', '\'']
      · -- the whole string is one or two quotes, which touch the closing ones
        rcases hm with hm | hm
        · have hclose := closing_replicate (fun c r heq => (hrest c r heq).2) (m := 1) (by omega)
          rw [hm, List.cons_append, List.nil_append, readMultiLiteral]
          exact congrArg some hclose
        · have hclose := closing_replicate (fun c r heq => (hrest c r heq).2) (m := 2) (by omega)
          rw [hm, List.cons_append, List.cons_append, List.nil_append, readMultiLiteral]
          exact congrArg some hclose
      · rw [List.cons_append, readMultiLiteral_plain (hs c List.mem_cons_self),
          ih (fun d hd => hs d (List.mem_cons_of_mem _ hd)) hrun']
        · rfl
        · intro r heq
          match s, hm, hfirst with
          | [], hm, _ => exact hm (.inl (by rw [(List.cons.inj heq).1]))
          | [d], hm, _ =>
              obtain ⟨h₁, h₂⟩ := List.cons.inj heq
              exact hm (.inr (by rw [h₁, (List.cons.inj h₂).1]))
          | d :: e :: t, _, hfirst =>
              obtain ⟨h₁, h₂⟩ := List.cons.inj heq
              obtain ⟨h₂, h₃⟩ := List.cons.inj h₂
              exact hfirst t (by rw [h₁, h₂, (List.cons.inj h₃).1])

/-! ## The choice of a form -/

/-- One line between double quotes is not mistaken for several lines. -/
lemma escapedLine_ne_quotes (s : List Char) {rest : List Char} (hrest : NoQuote rest)
    (r : List Char) : escapedLine s ++ '"' :: rest ≠ '"' :: '"' :: r := by
  cases s with
  | nil =>
      intro heq
      exact (hrest '"' r (List.cons.inj heq).2).1 rfl
  | cons c s =>
      rw [escapedLine]
      split
      · simp
      split
      · simp
      · rename_i hc _
        obtain ⟨x, xs, hx, hne⟩ := escapeOf?_getD_ne hc
        simp [hx, hne]

lemma readQuoted_basic (s : List Char) {rest : List Char} (hrest : NoQuote rest) :
    readQuoted ('"' :: (escapedLine s ++ '"' :: rest)) = some (s, rest) := by
  rw [readQuoted, readLine, readBasic_escapedLine]
  · intro r heq
    exact escapedLine_ne_quotes s hrest r (List.cons.inj heq).2
  · intro r heq
    exact absurd (List.cons.inj heq).1 (by decide)

lemma readQuoted_literal {s : List Char} (hs : ∀ c ∈ s, isPlain c = true ∧ c ≠ '\'')
    (hne : s ≠ []) (rest : List Char) :
    readQuoted ('\'' :: (s ++ '\'' :: rest)) = some (s, rest) := by
  obtain ⟨c, t, rfl⟩ := List.exists_cons_of_ne_nil hne
  have hc := (hs c List.mem_cons_self).2
  rw [readQuoted, readLine, readLiteral_append hs]
  · intro r heq
    exact absurd (List.cons.inj heq).1 (by decide)
  · intro r heq
    exact hc (List.cons.inj (List.cons.inj heq).2).1

/-- The line break after the opening quotes is there exactly if it is needed. -/
lemma dropLineBreak?_overLines {s written : List Char}
    (hw : '\n' ∉ s → ∀ c r, written = c :: r → c ≠ '\n' ∧ c ≠ '\r') {quote : Char}
    (hq : quote ≠ '\n' ∧ quote ≠ '\r') (tail : List Char) :
    (dropLineBreak? ((if '\n' ∈ s then ['\n'] else []) ++ written ++ quote :: tail)).getD
        ((if '\n' ∈ s then ['\n'] else []) ++ written ++ quote :: tail)
      = written ++ quote :: tail := by
  have hnone : ∀ (c : Char) (r : List Char), c ≠ '\n' ∧ c ≠ '\r' →
      dropLineBreak? (c :: r) = none := by
    intro c r hc
    unfold dropLineBreak?
    split
    · rename_i heq; exact absurd (List.cons.inj heq).1 hc.1
    · rename_i heq; exact absurd (List.cons.inj heq).1 hc.2
    · rfl
  by_cases hs : '\n' ∈ s
  · simp [hs, dropLineBreak?]
  · cases written with
    | nil => simp [hs, hnone quote tail hq]
    | cons c r => simp [hs, hnone c _ (hw hs c r rfl)]

lemma escapedLines_head {quotes : Nat} {s : List Char} (hs : '\n' ∉ s) {c : Char} {r : List Char}
    (h : escapedLines quotes s = c :: r) : c ≠ '\n' ∧ c ≠ '\r' := by
  cases s with
  | nil => simp [escapedLines] at h
  | cons d s =>
      by_cases hd : d = '"'
      · subst hd
        cases quotes with
        | zero =>
            rw [escapedLines_quote_zero] at h
            rw [← (List.cons.inj h).1]
            decide
        | succ q =>
            rw [escapedLines_quote_succ] at h
            rw [← (List.cons.inj h).1]
            decide
      · have hn : d ≠ '\n' := fun heq => hs (heq ▸ List.mem_cons_self)
        rw [escapedLines_of_ne hd] at h
        rcases escapeOf?_cases d with ⟨hnone, -, hcontrol⟩ | ⟨e, he, -⟩ | ⟨x₁, x₂, x₃, x₄, hx, -⟩
        · rw [hnone] at h
          rw [← (List.cons.inj h).1]
          refine ⟨hn, ?_⟩
          rintro rfl
          revert hcontrol
          decide
        · rw [he] at h
          rw [← (List.cons.inj h).1]
          decide
        · rw [hx] at h
          rw [← (List.cons.inj h).1]
          decide

/-- A string over several lines between double quotes reads back. -/
lemma readQuoted_overLines_basic (s : List Char) {rest : List Char} (hrest : NoQuote rest) :
    readQuoted (overLines '"' s (escapedLines 2 s) ++ rest) = some (s, rest) := by
  have hdrop := @dropLineBreak?_overLines s (escapedLines 2 s)
    (fun hs c r heq => escapedLines_head hs heq) '"' (by decide) ('"' :: '"' :: rest)
  have htext : overLines '"' s (escapedLines 2 s) ++ rest
      = '"' :: '"' :: '"' :: ((if '\n' ∈ s then ['\n'] else []) ++ escapedLines 2 s
        ++ '"' :: '"' :: '"' :: rest) := by
    simp [overLines]
  rw [htext, readQuoted, hdrop, readMultiBasic_escapedLines (Nat.le_refl 2) s hrest]

/-- A string over several lines between single quotes reads back. -/
lemma readQuoted_overLines_literal {s : List Char} (hs : ∀ c ∈ s, isPlain c = true ∨ c = '\n')
    (hrun : hasRun '\'' s = false) {rest : List Char} (hrest : NoQuote rest) :
    readQuoted (overLines '\'' s s ++ rest) = some (s, rest) := by
  have hdrop := @dropLineBreak?_overLines s s
    (fun hn c r heq => by
      have hc : c ≠ '\n' := fun h => hn (heq ▸ h ▸ List.mem_cons_self)
      refine ⟨hc, ?_⟩
      rintro rfl
      have := hs '\r' (heq ▸ List.mem_cons_self)
      revert this
      decide) '\'' (by decide) ('\'' :: '\'' :: rest)
  have htext : overLines '\'' s s ++ rest
      = '\'' :: '\'' :: '\'' :: ((if '\n' ∈ s then ['\n'] else []) ++ s
        ++ '\'' :: '\'' :: '\'' :: rest) := by
    simp [overLines]
  rw [htext, readQuoted, hdrop, readMultiLiteral_append hs hrun hrest]

/-- **A string reads back from what is written for it**, whatever characters it has. -/
theorem readQuoted_string (s : List Char) {rest : List Char} (hrest : NoQuote rest) :
    readQuoted (string s ++ rest) = some (s, rest) := by
  have hplain : s.any isControl = false → ∀ c ∈ s, isPlain c = true ∨ c = '\n' := by
    intro h c hc
    by_cases hn : c = '\n'
    · exact .inr hn
    · exact .inl (isPlain_of_not_isControl (by simpa using List.any_eq_false.1 h c hc) hn)
  have hbasic : readQuoted ('"' :: escapedLine s ++ ['"'] ++ rest) = some (s, rest) := by
    simpa using readQuoted_basic s hrest
  rw [string]
  split
  · exact hbasic
  split
  · rename_i h₁ h₂
    simp only [Bool.and_eq_true, Bool.not_eq_true', decide_eq_true_eq] at h₁ h₂
    obtain ⟨⟨hcontrol, hq⟩, hn⟩ := h₂
    have hne : s ≠ [] := by
      rintro rfl
      simp at h₁
    have hs : ∀ c ∈ s, isPlain c = true ∧ c ≠ '\'' := by
      intro c hc
      refine ⟨(hplain hcontrol c hc).resolve_right fun h => hn (h ▸ hc), fun h => hq (h ▸ hc)⟩
    simpa using readQuoted_literal hs hne rest
  split
  · exact readQuoted_overLines_basic s hrest
  split
  · rename_i h
    simp only [Bool.and_eq_true, Bool.not_eq_true'] at h
    exact readQuoted_overLines_literal (hplain h.1) h.2 hrest
  split
  · exact readQuoted_overLines_basic s hrest
  · exact hbasic

/-- A string is written with a quote in front. -/
lemma exists_string_eq_cons (s : List Char) :
    ∃ q t, string s = q :: t ∧ (q = '"' ∨ q = '\'') := by
  rw [string]
  split_ifs
  all_goals exact ⟨_, _, rfl, by decide⟩

/-! ## Parts of keys -/

lemma takeWhile_isBare {s : List Char} (hs : s.all isBare = true) {rest : List Char}
    (hrest : ∀ c r, rest = c :: r → isBare c = false) :
    (s ++ rest).takeWhile isBare = s ∧ (s ++ rest).dropWhile isBare = rest := by
  have hnil : rest.takeWhile isBare = [] ∧ rest.dropWhile isBare = rest := by
    cases rest with
    | nil => exact ⟨rfl, rfl⟩
    | cons c r => simp [hrest c r rfl]
  have hall : ∀ c ∈ s, isBare c = true := by simpa using hs
  rw [List.takeWhile_append_of_pos hall, List.dropWhile_append_of_pos hall, hnil.1, hnil.2]
  simp

/-- **A part of a key reads back from what is written for it**, up to the dot, the bracket or the
blank that follows it. -/
theorem readPart_part (s : List Char) {rest : List Char}
    (hrest : ∀ c r, rest = c :: r → isBare c = false) :
    readPart (part s ++ rest) = some (String.ofList s, rest) := by
  have hbasic : readPart ('"' :: escapedLine s ++ ['"'] ++ rest)
      = some (String.ofList s, rest) := by
    have hread := readBasic_escapedLine s rest
    have hquote : isBare '"' = false := by decide
    simp [readPart, hquote, readLine, hread]
  rw [part]
  split
  · rename_i h
    simp only [Bool.and_eq_true, Bool.not_eq_true', List.isEmpty_eq_false_iff] at h
    obtain ⟨hne, hall⟩ := h
    obtain ⟨htake, hdrop⟩ := takeWhile_isBare hall hrest
    obtain ⟨c, t, rfl⟩ := List.exists_cons_of_ne_nil hne
    rw [readPart, htake, hdrop]
  split
  · rename_i h
    simp only [Bool.and_eq_true, Bool.not_eq_true', decide_eq_true_eq, List.any_eq_false,
      Bool.or_eq_true, not_or] at h
    obtain ⟨⟨hcontrol, hq⟩, -⟩ := h
    have hs : ∀ c ∈ s, isPlain c = true ∧ c ≠ '\'' := by
      intro c hc
      obtain ⟨h₁, h₂⟩ := hcontrol c hc
      exact ⟨isPlain_of_not_isControl (by simpa using h₁) h₂, fun h => hq (h ▸ hc)⟩
    have hread := readLiteral_append hs rest
    have hquote : isBare '\'' = false := by decide
    simp [readPart, hquote, readLine, hread]
  · exact hbasic

end FailoverStorage.Toml
