import FailoverStorage.Proofs.Data.Except
import FailoverStorage.Proofs.Promoter.Line
import Mathlib.Data.List.Perm.Subperm
import Mathlib.Tactic.Common

/-!
# What agent lines can spell

An agent that can be written is what its line reads as, and it takes that: a line that reads as the
agent it was written for has a kind, a name and keys that are words (`Agent.ofLine_line_iff`).  Only
values stand between quotes, although quotes are understood everywhere in a line.

The proof counts.  Reading divides the characters of a line between its words and what is dropped
(`perm_dropped`): blanks between words, quotes around parts of them, backslashes before characters.
If the line reads as the agent, every quote and every blank of the agent is in the words, which
leaves few to be dropped: two quotes around a value between quotes, and one blank before every word
but the first.  Those quotes are dropped however the line begins (`enclosing_le_count_dropped`), so
a kind, a name or a key cannot have a quote that is; and then every value begins outside of quotes,
where a blank of a kind, a name or a key would be dropped as well.
-/

namespace FailoverStorage.Agent

open Text

/-! ## What reading drops -/

/-- Where in a line the next character stands. -/
inductive Mode where
  /-- Outside of quotes. -/
  | plain
  /-- Between quotes. -/
  | quoted
  /-- Between quotes, after a backslash. -/
  | escaped
  deriving DecidableEq

namespace Mode

/-- The mode after a character. -/
def next : Mode → Char → Mode
  | plain, c => if c = '"' then quoted else plain
  | quoted, c => if c = '"' then plain else if c = '\\' then escaped else quoted
  | escaped, _ => quoted

/-- Whether a character is dropped, so that it is in no word. -/
def drops : Mode → Char → Bool
  | plain, c => c = '"' || isBlank c
  | quoted, c => c = '"' || c = '\\'
  | escaped, _ => false

/-- The mode after a text. -/
def after (m : Mode) (s : List Char) : Mode := s.foldl next m

/-- What is dropped of a text. -/
def dropped : Mode → List Char → List Char
  | _, [] => []
  | m, c :: rest => if m.drops c then c :: dropped (m.next c) rest else dropped (m.next c) rest

/-- The mode that reading begins in. -/
def start (inQuotes : Bool) : Mode := if inQuotes then quoted else plain

lemma dropped_append (m : Mode) (s t : List Char) :
    m.dropped (s ++ t) = m.dropped s ++ (m.after s).dropped t := by
  induction s generalizing m with
  | nil => rfl
  | cons c s ih =>
      rw [List.cons_append, dropped, dropped, ih]
      split <;> rfl

lemma after_cons (m : Mode) (c : Char) (s : List Char) :
    m.after (c :: s) = (m.next c).after s := rfl

lemma countP_dropped_cons (p : Char → Bool) (m : Mode) (c : Char) (rest : List Char) :
    (m.dropped (c :: rest)).countP p
      = (if m.drops c then [c].countP p else 0) + ((m.next c).dropped rest).countP p := by
  rw [dropped]
  split
  · rw [← List.singleton_append, List.countP_append]
  · rw [Nat.zero_add]

lemma next_ne_escaped (m : Mode) {c : Char} (hc : c ≠ '\\') : m.next c ≠ escaped := by
  cases m with
  | plain => by_cases hq : c = '"' <;> simp [next, hq]
  | quoted => by_cases hq : c = '"' <;> simp [next, hq, hc]
  | escaped => simp [next]

end Mode

/-- **Reading divides a line between its words and what is dropped.** -/
lemma countP_dropped (p : Char → Bool) {inQuotes : Bool} {word : Option (List Char)}
    {s : List Char} {ws : List (List Char)} (h : wordsFrom inQuotes word s = .ok ws) :
    (word.getD []).countP p + s.countP p
      = ((Mode.start inQuotes).dropped s).countP p + ws.flatten.countP p := by
  have hcons : ∀ c (rest : List Char), (c :: rest).countP p = [c].countP p + rest.countP p :=
    fun c rest => by rw [← List.singleton_append, List.countP_append]
  fun_induction wordsFrom inQuotes word s generalizing ws with
  | case1 => cases h
  | case2 word =>
      cases h
      cases word <;> simp [Mode.dropped]
  | case3 => cases h
  | case4 word c rest ih =>
      -- the backslash is dropped and the character after it is not
      have hrest := ih h
      rw [hcons, hcons c, Mode.countP_dropped_cons, Mode.countP_dropped_cons]
      simp [Mode.start, Mode.drops, Mode.next] at hrest ⊢
      omega
  | case5 inQuotes word rest _ _ ih =>
      have hrest := ih h
      rw [hcons, Mode.countP_dropped_cons]
      cases inQuotes <;> simp [Mode.start, Mode.drops, Mode.next] at hrest ⊢ <;> omega
  | case6 inQuotes word c rest _ _ hquote hblank ih =>
      obtain ⟨hc, rfl⟩ : isBlank c = true ∧ inQuotes = false := by simpa using hblank
      cases hwords : wordsFrom false none rest with
      | error fault => simp [hwords, Except.map] at h
      | ok ws' =>
          obtain rfl : word.toList ++ ws' = ws := by simpa [hwords, Except.map] using h
          have hrest := ih hwords
          rw [hcons, Mode.countP_dropped_cons]
          cases word <;> simp [Mode.start, Mode.drops, Mode.next, hquote, hc] at hrest ⊢ <;>
            omega
  | case7 inQuotes word c rest hend hescape hquote hblank ih =>
      have hrest := ih h
      rw [hcons, Mode.countP_dropped_cons]
      cases inQuotes with
      | false =>
          have hblank : isBlank c = false := by simpa using hblank
          simp [Mode.start, Mode.drops, Mode.next, hquote, hblank] at hrest ⊢
          omega
      | true =>
          have hslash : c ≠ '\\' := by
            rintro rfl
            cases rest with
            | nil => exact hend rfl rfl rfl
            | cons d rest => exact hescape d rest rfl rfl rfl
          simp [Mode.start, Mode.drops, Mode.next, hquote, hslash] at hrest ⊢
          omega

/-! ## Quotes around values -/

/-- How many quotes stand around a value. -/
def enclosing (value : List Char) : Nat :=
  if value.isEmpty || value.any needsQuotes then 2 else 0

lemma count_escaped (value : List Char) : (escaped value).count '"' = value.count '"' + 1 := by
  induction value with
  | nil => rfl
  | cons c value ih =>
      rw [escaped]
      split
      · rw [List.count_cons_of_ne (by decide), List.count_cons, List.count_cons, ih]
        omega
      · rw [List.count_cons, List.count_cons, ih]
        omega

lemma count_quoted (value : List Char) :
    (quoted value).count '"' = value.count '"' + enclosing value := by
  rw [quoted, enclosing]
  split
  · rw [List.count_cons_self, count_escaped]
  · rfl

lemma countP_isBlank_escaped (value : List Char) :
    (escaped value).countP isBlank = value.countP isBlank := by
  induction value with
  | nil => decide
  | cons c value ih =>
      rw [escaped]
      split
      · rw [List.countP_cons_of_neg (by decide), List.countP_cons, List.countP_cons, ih]
      · rw [List.countP_cons, List.countP_cons, ih]

lemma countP_isBlank_quoted (value : List Char) :
    (quoted value).countP isBlank = value.countP isBlank := by
  rw [quoted]
  split
  · rw [List.countP_cons_of_neg (by decide), countP_isBlank_escaped]
  · rfl

/-- The last quote of a value is dropped, wherever the value begins. -/
lemma count_dropped_escaped_pos {m : Mode} (hm : m ≠ .escaped) (value : List Char) :
    0 < (m.dropped (escaped value)).count '"' := by
  induction value generalizing m with
  | nil => cases m <;> simp [escaped, Mode.dropped, Mode.drops] at hm ⊢
  | cons c value ih =>
      rw [escaped, List.count]
      split
      · rename_i hc
        rw [Mode.countP_dropped_cons, Mode.countP_dropped_cons]
        cases m with
        | plain =>
            -- the backslash is an ordinary character, and a quote after it begins quotes
            rcases hc with rfl | rfl
            · simp [Mode.drops, Mode.next]
            · exact Nat.add_pos_right _ (Nat.add_pos_right _ (ih (by decide)))
        | quoted =>
            exact Nat.add_pos_right _ (Nat.add_pos_right _ (ih (m := .quoted) (by decide)))
        | escaped => exact absurd rfl hm
      · rename_i hc
        rw [Mode.countP_dropped_cons]
        exact Nat.add_pos_right _ (ih (Mode.next_ne_escaped m (not_or.1 hc).2))

/-- **The quotes around the value of an attribute are dropped**, wherever the attribute begins. -/
lemma enclosing_le_count_dropped (m : Mode) (value : List Char) :
    enclosing value ≤ (m.dropped ('=' :: quoted value)).count '"' := by
  rw [enclosing, quoted]
  split
  · have hne : m.next '=' ≠ .escaped := m.next_ne_escaped (by decide)
    have hlast : 0 < (((m.next '=').next '"').dropped (escaped value)).count '"' :=
      count_dropped_escaped_pos (Mode.next_ne_escaped _ (by decide)) value
    have hfirst : (m.next '=').drops '"' = true := by
      cases h : m.next '=' <;> simp [h, Mode.drops] at hne ⊢
    rw [List.count] at hlast ⊢
    rw [Mode.countP_dropped_cons, Mode.countP_dropped_cons, hfirst]
    simp
    omega
  · exact Nat.zero_le _

/-! ## Outside of quotes -/

/-- The quotes around a value end with it, and no blanks of it are dropped. -/
lemma scan_escaped (value : List Char) :
    Mode.quoted.after (escaped value) = .plain
      ∧ (Mode.quoted.dropped (escaped value)).countP isBlank = 0 := by
  have hslash : [ '\\'].countP isBlank = 0 := by decide
  induction value with
  | nil => decide
  | cons c value ih =>
      rw [escaped]
      split
      · simp only [Mode.after_cons, Mode.countP_dropped_cons]
        simpa [Mode.next, Mode.drops, hslash] using ih
      · rename_i hc
        obtain ⟨hquote, hslash⟩ := not_or.1 hc
        simp only [Mode.after_cons, Mode.countP_dropped_cons]
        simpa [Mode.next, Mode.drops, hquote, hslash] using ih

/-- A text without quotes stays outside of quotes, and exactly its blanks are dropped. -/
lemma scan_plain {s : List Char} (h : '"' ∉ s) :
    Mode.plain.after s = .plain ∧ (Mode.plain.dropped s).countP isBlank = s.countP isBlank := by
  induction s with
  | nil => decide
  | cons c s ih =>
      obtain ⟨hc, hs⟩ : '"' ≠ c ∧ '"' ∉ s := by simpa using h
      have hnext : Mode.plain.next c = .plain := if_neg hc.symm
      obtain ⟨hafter, hcount⟩ := ih hs
      refine ⟨by rw [Mode.after_cons, hnext, hafter], ?_⟩
      rw [Mode.countP_dropped_cons, hnext, hcount, List.countP_cons]
      cases hblank : isBlank c <;> simp [Mode.drops, hblank, hc.symm]; omega

/-- An attribute that begins outside of quotes ends there, and no blanks of its value are
dropped. -/
lemma scan_assigned (value : List Char) :
    Mode.plain.after ('=' :: quoted value) = .plain
      ∧ (Mode.plain.dropped ('=' :: quoted value)).countP isBlank = 0 := by
  have hequals : isBlank '=' = false := by decide
  have hquote : isBlank '"' = false := by decide
  rw [quoted]
  split
  · simp only [Mode.after_cons, Mode.countP_dropped_cons]
    simpa [Mode.next, Mode.drops, hequals, hquote] using scan_escaped value
  · rename_i h
    have hneeds := ordinary_of_unquoted h
    have hfree : '"' ∉ '=' :: value := by
      rw [List.mem_cons, not_or]
      exact ⟨by decide, fun hmem => (hneeds _ hmem).2 rfl⟩
    obtain ⟨hafter, hcount⟩ := scan_plain hfree
    refine ⟨hafter, ?_⟩
    rw [hcount, List.countP_eq_zero]
    rintro c (- | ⟨-, hc⟩)
    · decide
    · simp [(hneeds c hc).1]

/-- A quote outside of quotes is dropped. -/
lemma notMem_of_count_dropped_eq_zero {s : List Char}
    (h : (Mode.plain.dropped s).count '"' = 0) : '"' ∉ s := by
  induction s with
  | nil => simp
  | cons c s ih =>
      rw [List.count, Mode.countP_dropped_cons, Nat.add_eq_zero_iff] at h
      have hc : c ≠ '"' := by
        rintro rfl
        simp [Mode.drops] at h
      rw [Mode.next, if_neg hc] at h
      simpa [hc.symm] using ih h.2

/-! ## Attributes -/

section Attributes

variable {entries : List (String × String)}

/-- The quotes around the values of attributes. -/
def allEnclosing (entries : List (String × String)) : Nat :=
  (entries.map fun e => enclosing e.2.toList).sum

lemma attributesText_cons (e : String × String) (rest : List (String × String)) :
    attributesText (e :: rest)
      = (' ' :: e.1.toList) ++ (('=' :: quoted e.2.toList) ++ attributesText rest) := by
  simp [attributesText]

lemma count_attributesText (entries : List (String × String)) :
    (attributesText entries).count '"'
      = (entries.flatMap attributeWord).count '"' + allEnclosing entries := by
  induction entries with
  | nil => rfl
  | cons e rest ih =>
      rw [attributesText_cons]
      simp only [allEnclosing, attributeWord, List.flatMap_cons, List.count_append,
        List.count_cons, count_quoted, List.map_cons, List.sum_cons] at ih ⊢
      rw [ih]
      simp
      omega

lemma countP_isBlank_attributesText (entries : List (String × String)) :
    (attributesText entries).countP isBlank
      = (entries.flatMap attributeWord).countP isBlank + entries.length := by
  have hspace : isBlank ' ' = true := by decide
  induction entries with
  | nil => rfl
  | cons e rest ih =>
      rw [attributesText_cons]
      simp only [attributeWord, List.flatMap_cons, List.countP_append, List.countP_cons,
        countP_isBlank_quoted, List.length_cons, ih, hspace, if_true]
      omega

lemma allEnclosing_le_count_dropped (m : Mode) (entries : List (String × String)) :
    allEnclosing entries ≤ (m.dropped (attributesText entries)).count '"' := by
  induction entries generalizing m with
  | nil => exact Nat.zero_le _
  | cons e rest ih =>
      rw [attributesText_cons, Mode.dropped_append, Mode.dropped_append, List.count_append,
        List.count_append, allEnclosing, List.map_cons, List.sum_cons, ← allEnclosing]
      have hfirst := enclosing_le_count_dropped (m.after (' ' :: e.1.toList)) e.2.toList
      have hrest := ih ((m.after (' ' :: e.1.toList)).after ('=' :: quoted e.2.toList))
      omega

/-- **Keys have no quotes** if no more quotes are dropped than those around the values. -/
lemma quote_notMem_keys
    (h : (Mode.plain.dropped (attributesText entries)).count '"' ≤ allEnclosing entries) :
    ∀ e ∈ entries, '"' ∉ e.1.toList := by
  induction entries with
  | nil => simp
  | cons e rest ih =>
      rw [attributesText_cons, Mode.dropped_append, Mode.dropped_append, List.count_append,
        List.count_append, allEnclosing, List.map_cons, List.sum_cons, ← allEnclosing] at h
      have hvalue := enclosing_le_count_dropped (Mode.plain.after (' ' :: e.1.toList)) e.2.toList
      have hrest := allEnclosing_le_count_dropped
        ((Mode.plain.after (' ' :: e.1.toList)).after ('=' :: quoted e.2.toList)) rest
      have hkey : '"' ∉ ' ' :: e.1.toList := notMem_of_count_dropped_eq_zero (by omega)
      -- so the value begins outside of quotes, and so do the other attributes
      rw [(scan_plain hkey).1, (scan_assigned e.2.toList).1] at h hrest
      rw [(scan_plain hkey).1] at hvalue
      intro d hd
      rcases List.mem_cons.1 hd with rfl | hd
      · exact fun hmem => hkey (List.mem_cons_of_mem _ hmem)
      · exact ih (by omega) d hd

/-- Where keys have no quotes, the blanks before and in them are dropped. -/
lemma countP_isBlank_dropped_attributesText (h : ∀ e ∈ entries, '"' ∉ e.1.toList) :
    (Mode.plain.dropped (attributesText entries)).countP isBlank
      = (entries.flatMap (·.1.toList)).countP isBlank + entries.length := by
  have hspace : isBlank ' ' = true := by decide
  induction entries with
  | nil => rfl
  | cons e rest ih =>
      have hkey : '"' ∉ ' ' :: e.1.toList := by simpa using h e List.mem_cons_self
      obtain ⟨hafter, hcount⟩ := scan_plain hkey
      obtain ⟨hafter', hcount'⟩ := scan_assigned e.2.toList
      have hrest := ih fun d hd => h d (List.mem_cons_of_mem _ hd)
      rw [attributesText_cons, Mode.dropped_append, Mode.dropped_append, List.countP_append,
        List.countP_append, hafter, hafter', hcount, hcount', hrest, List.countP_cons, hspace,
        List.flatMap_cons, List.countP_append, List.length_cons, if_pos rfl]
      omega

end Attributes

/-- The attributes that were set by words have their words among them, with keys that are not
empty. -/
lemma mem_of_withAttributes {m m' : SortedMap String String} {ws : List (List Char)}
    (h : withAttributes m ws = .ok m') {e : String × String} (he : e ∈ m'.entries) :
    e ∈ m.entries ∨ attributeWord e ∈ ws ∧ e.1 ≠ "" ∧ '=' ∉ e.1.toList := by
  induction ws generalizing m with
  | nil =>
      cases h
      exact .inl he
  | cons word rest ih =>
      rw [withAttributes] at h
      split at h
      · cases h
      · rename_i key value hcut
        split at h
        · cases h
        · rename_i hempty
          obtain ⟨rfl, hequals⟩ := splitFirst_eq_some hcut
          rcases ih h with hmem | ⟨hmem, hkey⟩
          · rw [← SortedMap.find?_eq_some_iff, SortedMap.find?_insert] at hmem
            split at hmem
            · rename_i hkey
              have hvalue := Option.some.inj hmem
              refine .inr ?_
              rw [attributeWord, hkey, ← hvalue, String.toList_ofList, String.toList_ofList]
              refine ⟨List.mem_cons_self, fun hnil => hempty ?_, hequals⟩
              simpa using hnil
            · exact .inl (SortedMap.find?_eq_some_iff.1 hmem)
          · exact .inr ⟨List.mem_cons_of_mem _ hmem, hkey⟩

/-- What attributes are read from: words, each with a key that is not empty. -/
lemma mem_words_of_withAttributes {m : SortedMap String String} {ws : List (List Char)}
    (h : withAttributes .empty ws = .ok m) :
    ∀ e ∈ m.entries, attributeWord e ∈ ws ∧ e.1 ≠ "" ∧ '=' ∉ e.1.toList :=
  fun _ he => (mem_of_withAttributes h he).resolve_left (by simp [SortedMap.empty])

/-- The words of the attributes of an agent that was read are among the words after its name. -/
lemma subperm_of_withAttributes {m : SortedMap String String} {ws : List (List Char)}
    (h : withAttributes .empty ws = .ok m) : (m.entries.map attributeWord).Subperm ws := by
  have hmem := mem_words_of_withAttributes h
  refine List.subperm_of_subset (List.Nodup.map_on ?_ m.nodup_keys.of_map) ?_
  · intro e he d hd heq
    have hcut := congrArg (splitFirst '=') heq
    rw [attributeWord, attributeWord, splitFirst_append (hmem e he).2.2,
      splitFirst_append (hmem d hd).2.2] at hcut
    obtain ⟨hkey, hvalue⟩ : e.1.toList = d.1.toList ∧ e.2.toList = d.2.toList := by
      simpa using hcut
    exact Prod.ext (String.toList_inj.1 hkey) (String.toList_inj.1 hvalue)
  · intro word hword
    obtain ⟨e, he, rfl⟩ := List.mem_map.1 hword
    exact (hmem e he).1

/-! ## Lines -/

/-- What an agent line reads as comes from its words. -/
lemma exists_words_of_ofLine {s : String} {a : Agent} (h : ofLine s = .ok a) :
    ∃ rest, words s.toList = .ok (a.kind.toList :: a.name.toList :: rest)
      ∧ withAttributes .empty rest = .ok a.attributes := by
  rw [ofLine] at h
  split at h
  · rename_i agent hwords
    cases h
    obtain ⟨ws, hws, hagent⟩ := bind_eq_ok_iff.1 hwords
    rcases ws with _ | ⟨kind, _ | ⟨name, rest⟩⟩
    · cases hagent
    · cases hagent
    · obtain ⟨attributes, hattributes, rfl⟩ := map_eq_ok_iff.1 hagent
      exact ⟨rest, by simpa using hws, hattributes⟩
  · cases h

/-- The keys of an agent that was read are not empty and have no equals sign. -/
lemma keys_of_ofLine {s : String} {a : Agent} (h : ofLine s = .ok a) :
    ∀ e ∈ a.attributes.entries, e.1 ≠ "" ∧ '=' ∉ e.1.toList := by
  obtain ⟨rest, -, hattributes⟩ := exists_words_of_ofLine h
  exact fun e he => (mem_words_of_withAttributes hattributes e he).2

lemma wordsFrom_none_space (rest : List Char) :
    wordsFrom false none (' ' :: rest) = wordsFrom false none rest := by
  have hspace : isBlank ' ' = true := by decide
  rw [wordsFrom]
  · cases wordsFrom false none rest <;> simp [hspace, Except.map]
  · simp
  · simp

/-- Attributes after a blank are words of their own. -/
lemma wordsFrom_none_attributesText {entries : List (String × String)}
    (h : ∀ e ∈ entries, IsWord e.1 ∧ '=' ∉ e.1.toList) :
    wordsFrom false none (attributesText entries) = .ok (entries.map attributeWord) := by
  have hwords := wordsFrom_attributesText h []
  cases entries with
  | nil => rfl
  | cons e rest =>
      rw [attributesText_cons, List.cons_append, wordsFrom_space] at hwords
      rw [attributesText_cons, List.cons_append, wordsFrom_none_space]
      generalize wordsFrom false none _ = result at hwords ⊢
      cases result with
      | error fault => cases hwords
      | ok ws => simpa [Except.map] using hwords

/-- Ordinary characters before a blank are a word, if there are any. -/
lemma wordsFrom_ordinary {s : List Char} (h : ∀ c ∈ s, isBlank c = false ∧ c ≠ '"')
    (rest : List Char) :
    wordsFrom false none (s ++ ' ' :: rest)
      = (wordsFrom false none rest).map ([s].filter (· ≠ []) ++ ·) := by
  cases s with
  | nil =>
      rw [List.nil_append, wordsFrom_none_space]
      cases wordsFrom false none rest <;> rfl
  | cons c s =>
      rw [List.cons_append, wordsFrom_cons (h c List.mem_cons_self).1 (h c List.mem_cons_self).2,
        wordsFrom_append fun d hd => h d (List.mem_cons_of_mem _ hd), wordsFrom_space]
      rfl

/-- Ordinary characters before attributes are a word, if there are any. -/
lemma wordsFrom_ordinary_attributesText {s : List Char}
    (h : ∀ c ∈ s, isBlank c = false ∧ c ≠ '"') {entries : List (String × String)}
    (hkeys : ∀ e ∈ entries, IsWord e.1 ∧ '=' ∉ e.1.toList) :
    wordsFrom false none (s ++ attributesText entries)
      = .ok ([s].filter (· ≠ []) ++ entries.map attributeWord) := by
  cases s with
  | nil => exact wordsFrom_none_attributesText hkeys
  | cons c s =>
      rw [List.cons_append, wordsFrom_cons (h c List.mem_cons_self).1 (h c List.mem_cons_self).2,
        wordsFrom_append fun d hd => h d (List.mem_cons_of_mem _ hd),
        wordsFrom_attributesText hkeys]
      rfl

lemma line_toList (a : Agent) : a.line.toList
    = a.kind.toList ++ ((' ' :: a.name.toList) ++ attributesText a.attributes.entries) := by
  rw [line, String.toList_ofList, List.append_assoc]

section Converse

variable {a : Agent} {rest : List (List Char)}

/-- The words of a line hold what stands in the agent, if it is what the line reads as. -/
lemma countP_le_countP_flatten
    (hattributes : withAttributes .empty rest = .ok a.attributes) (p : Char → Bool) :
    a.kind.toList.countP p + a.name.toList.countP p
        + (a.attributes.entries.flatMap attributeWord).countP p
      ≤ (a.kind.toList :: a.name.toList :: rest).flatten.countP p := by
  obtain ⟨ws, hperm, hsublist⟩ := subperm_of_withAttributes hattributes
  have hrest : (a.attributes.entries.flatMap attributeWord).countP p ≤ rest.flatten.countP p := by
    obtain ⟨others, hothers⟩ := hsublist.exists_perm_append
    rw [List.flatMap_def, ← hperm.flatten.countP_eq p, hothers.flatten.countP_eq p,
      List.flatten_append, List.countP_append]
    exact Nat.le_add_right _ _
  rw [List.flatten_cons, List.flatten_cons, List.countP_append, List.countP_append]
  omega

/-- A line holds what its words hold and what is dropped. -/
lemma countP_line {ws : List (List Char)} (hwords : words a.line.toList = .ok ws)
    (p : Char → Bool) :
    a.kind.toList.countP p + ((' ' :: a.name.toList).countP p
        + (attributesText a.attributes.entries).countP p)
      = (Mode.plain.dropped a.line.toList).countP p + ws.flatten.countP p := by
  have hdivided := countP_dropped p hwords
  rw [Option.getD_none, List.countP_nil, Nat.zero_add] at hdivided
  rw [← List.countP_append, ← List.countP_append, ← line_toList, hdivided]
  rfl

/-- No more quotes are dropped than those around values, so there are no others. -/
lemma quote_notMem (hwords : words a.line.toList = .ok (a.kind.toList :: a.name.toList :: rest))
    (hattributes : withAttributes .empty rest = .ok a.attributes) :
    '"' ∉ a.kind.toList ∧ '"' ∉ ' ' :: a.name.toList
      ∧ ∀ e ∈ a.attributes.entries, '"' ∉ e.1.toList := by
  have hline := countP_line hwords (· == '"')
  have hheld := countP_le_countP_flatten hattributes (· == '"')
  simp only [← List.count.eq_1] at hline hheld
  rw [line_toList, Mode.dropped_append, Mode.dropped_append, List.count_append,
    List.count_append, count_attributesText, List.count_cons_of_ne (by decide)] at hline
  have hvalues := allEnclosing_le_count_dropped
    ((Mode.plain.after a.kind.toList).after (' ' :: a.name.toList)) a.attributes.entries
  have hkind : '"' ∉ a.kind.toList := notMem_of_count_dropped_eq_zero (by omega)
  rw [(scan_plain hkind).1] at hline hvalues
  have hname : '"' ∉ ' ' :: a.name.toList := notMem_of_count_dropped_eq_zero (by omega)
  rw [(scan_plain hname).1] at hline
  exact ⟨hkind, hname, quote_notMem_keys (by omega)⟩

/-- No more blanks are dropped than those between words, so there are no others. -/
lemma isBlank_eq_false
    (hwords : words a.line.toList = .ok (a.kind.toList :: a.name.toList :: rest))
    (hattributes : withAttributes .empty rest = .ok a.attributes) :
    (∀ c ∈ a.kind.toList, isBlank c = false) ∧ (∀ c ∈ a.name.toList, isBlank c = false)
      ∧ ∀ e ∈ a.attributes.entries, ∀ c ∈ e.1.toList, isBlank c = false := by
  have hspace : isBlank ' ' = true := by decide
  have hline := countP_line hwords isBlank
  have hheld := countP_le_countP_flatten hattributes isBlank
  obtain ⟨hkind, hname, hkeys⟩ := quote_notMem hwords hattributes
  rw [line_toList, Mode.dropped_append, Mode.dropped_append, List.countP_append,
    List.countP_append, (scan_plain hkind).1, (scan_plain hkind).2, (scan_plain hname).1,
    (scan_plain hname).2, countP_isBlank_dropped_attributesText hkeys,
    countP_isBlank_attributesText, List.countP_cons, hspace, if_pos rfl] at hline
  have hzero : ∀ {s : List Char}, s.countP isBlank = 0 → ∀ c ∈ s, isBlank c = false :=
    fun h c hc => by simpa using List.countP_eq_zero.1 h c hc
  refine ⟨hzero (by omega), hzero (by omega), fun e he c hc => ?_⟩
  exact hzero (s := a.attributes.entries.flatMap (·.1.toList)) (by omega) c
    (List.mem_flatMap.2 ⟨e, he, hc⟩)

/-- **Kinds, names and keys are words** if the line reads as the agent that it was written for. -/
theorem writable_of_ofLine_line (h : ofLine a.line = .ok a) : a.Writable := by
  obtain ⟨rest, hwords, hattributes⟩ := exists_words_of_ofLine h
  obtain ⟨hkindQuote, hnameQuote, hkeyQuote⟩ := quote_notMem hwords hattributes
  obtain ⟨hkindBlank, hnameBlank, hkeyBlank⟩ := isBlank_eq_false hwords hattributes
  have hkeys : ∀ e ∈ a.attributes.entries, IsWord e.1 ∧ '=' ∉ e.1.toList := by
    intro e he
    obtain ⟨hne, hequals⟩ := keys_of_ofLine h e he
    exact ⟨⟨hne, fun c hc => ⟨hkeyBlank e he c hc, fun h => hkeyQuote e he (h ▸ hc)⟩⟩, hequals⟩
  have hkind : ∀ c ∈ a.kind.toList, isBlank c = false ∧ c ≠ '"' :=
    fun c hc => ⟨hkindBlank c hc, fun h => hkindQuote (h ▸ hc)⟩
  have hname : ∀ c ∈ a.name.toList, isBlank c = false ∧ c ≠ '"' :=
    fun c hc => ⟨hnameBlank c hc, fun h => hnameQuote (List.mem_cons_of_mem _ (h ▸ hc))⟩
  -- the words of ordinary texts and of attributes are not empty
  have hempty : [] ∉ a.kind.toList :: a.name.toList :: rest := by
    rw [words, line_toList, List.cons_append, wordsFrom_ordinary hkind,
      wordsFrom_ordinary_attributesText hname hkeys] at hwords
    rw [← Except.ok.inj hwords]
    simp [attributeWord]
  simp only [List.mem_cons, not_or] at hempty
  exact ⟨⟨fun h => hempty.1 (by rw [h]; rfl), hkind⟩,
    ⟨fun h => hempty.2.1 (by rw [h]; rfl), hname⟩, hkeys⟩

end Converse

/-- **What a line can hold.**  An agent is what its line reads as if and only if its kind, its name
and its keys are words, which are not empty and have no blanks and no quotes, and no key has an
equals sign.  The values of its attributes may be any texts. -/
theorem ofLine_line_iff {a : Agent} :
    ofLine a.line = .ok a ↔ IsWord a.kind ∧ IsWord a.name
      ∧ ∀ key ∈ a.attributes.keys, IsWord key ∧ '=' ∉ key.toList := by
  constructor
  · intro h
    obtain ⟨hkind, hname, hkeys⟩ := writable_of_ofLine_line h
    refine ⟨hkind, hname, fun key hkey => ?_⟩
    obtain ⟨e, he, rfl⟩ := List.mem_map.1 hkey
    exact hkeys e he
  · rintro ⟨hkind, hname, hkeys⟩
    exact ofLine_line ⟨hkind, hname, fun e he => hkeys e.1 (List.mem_map_of_mem he)⟩

end FailoverStorage.Agent
