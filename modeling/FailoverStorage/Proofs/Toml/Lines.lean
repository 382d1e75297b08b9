import FailoverStorage.Proofs.Toml.Quoted

/-!
# Reading back lines

**Values.**  A text, a boolean and an array of texts read back from what is written for them
(`readValue_text`, `readValue_boolean`, `readValue_texts`), whatever follows, as long as no quote
touches the last one.

**Lines.**  `Spells text lines` says that a text is a stretch of whole lines which read as `lines`
in every document that goes on after them.  Stretches can be put together (`Spells.append`), so a
document is read section by section, and a text that consists of stretches is read to its end
(`Spells.readLines`).
-/

namespace FailoverStorage.Toml

/-! ## Values -/

lemma noQuote_newline (rest : List Char) : NoQuote ('\n' :: rest) := noQuote_cons (by decide)

lemma readScalar_text (s : String) {rest : List Char} (hrest : NoQuote rest) :
    readScalar (textValue s ++ rest) = some (.text s, rest) := by
  have hread := readQuoted_string s.toList hrest
  obtain ⟨q, t, hstring, hq⟩ := exists_string_eq_cons s.toList
  rw [textValue]
  rw [hstring] at hread ⊢
  rcases hq with rfl | rfl
  all_goals
    rw [List.cons_append] at hread ⊢
    rw [readScalar]
    · rw [hread]
      simp
    · simp
    · simp

theorem readValue_text (depth : Nat) (s : String) {rest : List Char} (hrest : NoQuote rest) :
    readValue depth (textValue s ++ rest) = some (.text s, rest) := by
  have hread := readScalar_text s hrest
  cases depth with
  | zero => exact hread
  | succ depth =>
      obtain ⟨q, t, hstring, hq⟩ := exists_string_eq_cons s.toList
      rw [textValue, hstring] at hread ⊢
      rcases hq with rfl | rfl
      all_goals
        rw [List.cons_append] at hread ⊢
        rw [readValue]
        · exact hread
        · simp
        · simp

theorem readValue_boolean (depth : Nat) (b : Bool) (rest : List Char) :
    readValue depth (booleanValue b ++ rest) = some (.boolean b, rest) := by
  cases depth with
  | zero => cases b <;> rfl
  | succ depth => cases b <;> rfl

/-! ## Arrays of texts -/

/-- The texts of an array as they stand before its closing bracket. -/
def itemsText (items : List String) : List Char :=
  ((items.map textValue).intersperse ", ".toList).flatten

lemma itemsText_cons_cons (s t : String) (items : List String) :
    itemsText (s :: t :: items) = textValue s ++ ',' :: ' ' :: itemsText (t :: items) := by
  simp [itemsText]

lemma exists_itemsText_eq_cons (s : String) (items : List String) :
    ∃ q t, itemsText (s :: items) = q :: t ∧ (q = '"' ∨ q = '\'') := by
  obtain ⟨q, t, hstring, hq⟩ := exists_string_eq_cons s.toList
  cases items with
  | nil => exact ⟨q, t, by simp [itemsText, textValue, hstring], hq⟩
  | cons u items =>
      refine ⟨q, t ++ ',' :: ' ' :: itemsText (u :: items), ?_, hq⟩
      rw [itemsText_cons_cons, textValue, hstring, List.cons_append]

lemma skipLines_itemsText (s : String) (items : List String) (rest : List Char) :
    skipLines false (itemsText (s :: items) ++ rest) = some (itemsText (s :: items) ++ rest) := by
  obtain ⟨q, t, htext, hq⟩ := exists_itemsText_eq_cons s items
  rw [htext]
  rcases hq with rfl | rfl <;> rfl

lemma length_le_itemsText (items : List String) : items.length ≤ (itemsText items).length := by
  match items with
  | [] => exact Nat.zero_le _
  | [s] =>
      obtain ⟨q, t, htext, -⟩ := exists_itemsText_eq_cons s []
      simp [htext]
  | s :: t :: items =>
      have ih := length_le_itemsText (t :: items)
      rw [itemsText_cons_cons]
      simp only [List.length_cons, List.length_append] at ih ⊢
      omega

section

variable {read : List Char → Option (Value × List Char)} {most : Nat} {s t rest : List Char}
  {q : Char} {item : Value}

/-- The last item of an array: its bracket follows. -/
lemma readItems_last (hs : skipLines false s = some (q :: t)) (hq : q ≠ ']')
    (hread : read (q :: t) = some (item, ']' :: rest)) :
    readItems read (most + 1) s = some ([item], rest) := by
  have hskip : skipLines false (']' :: rest) = some (']' :: rest) := rfl
  rw [readItems, hs]
  split
  · simp at *
  · rename_i h
    cases h
    exact absurd rfl hq
  · rename_i h
    cases h
    simp [hread, hskip]

/-- An item that is not the last one: a comma follows. -/
lemma readItems_next (hs : skipLines false s = some (q :: t)) (hq : q ≠ ']')
    (hread : read (q :: t) = some (item, ',' :: rest)) :
    readItems read (most + 1) s
      = (readItems read most rest).map fun (items, rest) => (item :: items, rest) := by
  have hskip : skipLines false (',' :: rest) = some (',' :: rest) := rfl
  rw [readItems, hs]
  split
  · simp at *
  · rename_i h
    cases h
    exact absurd rfl hq
  · rename_i h
    cases h
    cases hitems : readItems read most rest <;> simp [hread, hskip, hitems]

end

/-- The items of an array, one after another.  The blank between two of them is passed over before
the second one is read, so blanks may stand in front of the first one as well. -/
lemma readItems_itemsText (depth : Nat) (s : String) (items : List String) {most : Nat}
    (hmost : items.length < most) (front : List Char)
    (hfront : ∀ text, skipLines false (front ++ text) = skipLines false text)
    (rest : List Char) :
    readItems (readValue depth) most (front ++ (itemsText (s :: items) ++ ']' :: rest))
      = some ((s :: items).map .text, rest) := by
  induction items generalizing s most front with
  | nil =>
      obtain ⟨most, rfl⟩ : ∃ n, most = n + 1 := ⟨most - 1, by omega⟩
      have hread := readValue_text depth s (noQuote_cons (c := ']') (r := rest) (by decide))
      have hskip := (hfront _).trans (skipLines_itemsText s [] (']' :: rest))
      obtain ⟨q, t, htext, hq⟩ := exists_itemsText_eq_cons s []
      have hvalue : textValue s = itemsText [s] := by simp [itemsText]
      rw [hvalue, htext] at hread
      rw [htext] at hskip ⊢
      exact readItems_last hskip (by rcases hq with rfl | rfl <;> decide) hread
  | cons u items ih =>
      obtain ⟨most, rfl⟩ : ∃ n, most = n + 1 := ⟨most - 1, by omega⟩
      have hread := readValue_text depth s
        (noQuote_cons (c := ',') (r := ' ' :: (itemsText (u :: items) ++ ']' :: rest)) (by decide))
      have hskip := (hfront _).trans (skipLines_itemsText s (u :: items) (']' :: rest))
      obtain ⟨q, t, htext, hq⟩ := exists_itemsText_eq_cons s (u :: items)
      have hvalue : textValue s ++ ',' :: ' ' :: (itemsText (u :: items) ++ ']' :: rest)
          = itemsText (s :: u :: items) ++ ']' :: rest := by
        simp [itemsText_cons_cons]
      rw [hvalue, htext] at hread
      rw [htext] at hskip ⊢
      have hnext := ih u (Nat.lt_of_succ_lt_succ hmost) [' '] fun _ => rfl
      rw [readItems_next hskip (by rcases hq with rfl | rfl <;> decide) hread]
      rw [List.singleton_append] at hnext
      rw [hnext]
      rfl

theorem readValue_texts (depth : Nat) (items : List String) (rest : List Char) :
    readValue (depth + 1) (textsValue items ++ rest) = some (.array (items.map .text), rest) := by
  have htext : textsValue items ++ rest = '[' :: (itemsText items ++ ']' :: rest) := by
    simp [textsValue, itemsText]
  rw [htext, readValue]
  cases items with
  | nil =>
      have hnil : itemsText [] = [] := rfl
      rw [hnil, List.nil_append, List.length_cons, readItems]
      rfl
  | cons s items =>
      have hlen := length_le_itemsText (s :: items)
      rw [← List.nil_append (itemsText _ ++ _),
        readItems_itemsText depth s items _ [] (fun _ => rfl) rest]
      · rfl
      · simp only [List.length_cons, List.length_append, List.nil_append] at hlen ⊢
        omega

/-! ## Keys -/

/-- A key that needs no quotes. -/
def IsBareKey (key : String) : Prop := key.toList ≠ [] ∧ key.toList.all isBare = true

instance (key : String) : Decidable (IsBareKey key) :=
  inferInstanceAs (Decidable (key.toList ≠ [] ∧ key.toList.all isBare = true))

lemma skipBlanks_cons {c : Char} (hc : c ≠ ' ' ∧ c ≠ '\t') (rest : List Char) :
    skipBlanks (c :: rest) = c :: rest := by
  simp [skipBlanks, hc.1, hc.2]

/-- A part of a key is written with a first character that is no blank. -/
lemma skipBlanks_part (s rest : List Char) : skipBlanks (part s ++ rest) = part s ++ rest := by
  rw [part]
  split
  · rename_i h
    simp only [Bool.and_eq_true, Bool.not_eq_true', List.isEmpty_eq_false_iff] at h
    obtain ⟨hne, hall⟩ := h
    obtain ⟨c, t, rfl⟩ := List.exists_cons_of_ne_nil hne
    have hc : isBare c = true := by simpa using List.all_eq_true.1 hall c List.mem_cons_self
    refine skipBlanks_cons ⟨?_, ?_⟩ _
    · rintro rfl
      exact absurd hc (by decide)
    · rintro rfl
      exact absurd hc (by decide)
  split
  · exact skipBlanks_cons (by decide) _
  · exact skipBlanks_cons (by decide) _

/-- A key without quotes is written as it is. -/
lemma part_of_isBareKey {key : String} (h : IsBareKey key) : part key.toList = key.toList := by
  obtain ⟨hne, hall⟩ := h
  rw [part]
  simp [hne, hall]

/-- A dotted key as it is written. -/
def keyText : (path : List String) → (key : String) → List Char
  | [], key => part key.toList
  | s :: path, key => part s.toList ++ '.' :: keyText path key

/-- **A dotted key reads back**, up to what follows it and its blanks. -/
lemma readParts_keyText (path : List String) (key : String) {most : Nat}
    (hmost : path.length < most) {c : Char} {rest : List Char} (hc : isBare c = false)
    (hdot : ∀ r, skipBlanks (c :: rest) ≠ '.' :: r) :
    readParts most (keyText path key ++ c :: rest)
      = some (path ++ [key], skipBlanks (c :: rest)) := by
  obtain ⟨most, rfl⟩ : ∃ n, most = n + 1 := ⟨most - 1, by omega⟩
  induction path generalizing most with
  | nil =>
      have hread := @readPart_part key.toList (c :: rest) fun d r h => by cases h; exact hc
      rw [keyText, readParts, skipBlanks_part, hread]
      simp only [Option.bind_eq_bind, Option.bind_some, String.ofList_toList]
      rfl
  | cons s path ih =>
      obtain ⟨most, rfl⟩ : ∃ n, most = n + 1 := ⟨most - 1, by simp at hmost; omega⟩
      have hread := @readPart_part s.toList ('.' :: (keyText path key ++ c :: rest))
        fun d r h => by cases h; decide
      rw [keyText, List.append_assoc, List.cons_append, readParts, skipBlanks_part, hread]
      simp only [Option.bind_eq_bind, Option.bind_some, String.ofList_toList]
      rw [skipBlanks_cons (by decide)]
      simp only [ih most (Nat.lt_of_succ_lt_succ hmost)]
      rfl

lemma readKey_keyText {path : List String} (hpath : path.length < maxDepth) (key : String)
    {c : Char} {rest : List Char} (hc : isBare c = false)
    (hdot : ∀ r, skipBlanks (c :: rest) ≠ '.' :: r) :
    readKey (keyText path key ++ c :: rest) = some ((path, key), skipBlanks (c :: rest)) := by
  rw [readKey, readParts_keyText path key hpath hc hdot]
  simp

/-! ## Lines -/

/-- **A stretch of whole lines**: it reads as `lines` in every document that goes on after it, and
it does not have more lines, the blank ones among them, than characters. -/
def Spells (text : List Char) (lines : List Line) : Prop :=
  ∃ count ≤ text.length, ∀ most rest,
    readLines (most + count) (text ++ rest) = (readLines most rest).map (lines ++ ·)

lemma Spells.nil : Spells [] [] :=
  ⟨0, Nat.le_refl 0, fun most rest => by cases h : readLines most rest <;> simp [h]⟩

/-- Stretches of lines can be put together. -/
lemma Spells.append {s t : List Char} {lines others : List Line} (hs : Spells s lines)
    (ht : Spells t others) : Spells (s ++ t) (lines ++ others) := by
  obtain ⟨m, hm, hs⟩ := hs
  obtain ⟨n, hn, ht⟩ := ht
  refine ⟨n + m, by rw [List.length_append]; omega, fun most rest => ?_⟩
  rw [← Nat.add_assoc, List.append_assoc, hs, ht, Option.map_map]
  congr 1
  funext more
  simp

/-- **A document of whole lines is read to its end.** -/
theorem Spells.readLines {text : List Char} {lines : List Line} (h : Spells text lines) :
    readLines (text.length + 1) text = some lines := by
  obtain ⟨count, hcount, h⟩ := h
  have hread := h (text.length - count + 1) []
  have hsum : text.length - count + 1 + count = text.length + 1 := by omega
  have hnil : Toml.readLines (text.length - count + 1) [] = some [] := rfl
  rw [hsum, List.append_nil, hnil] at hread
  simpa using hread

/-- A blank line says nothing. -/
lemma Spells.blank : Spells ['\n'] [] := by
  refine ⟨1, Nat.le_refl 1, fun most rest => ?_⟩
  have hread : Toml.readLines (most + 1) ('\n' :: rest) = Toml.readLines most rest := rfl
  rw [List.singleton_append, hread]
  cases Toml.readLines most rest <;> rfl

/-- A line that begins with a character of its own is read by itself. -/
lemma Spells.one {c : Char} {s : List Char} {line : Line}
    (hc : c ≠ ' ' ∧ c ≠ '\t' ∧ c ≠ '#' ∧ c ≠ '\n' ∧ c ≠ '\r')
    (hread : ∀ rest, readOne (c :: (s ++ rest)) = some (line, rest)) :
    Spells (c :: s) [line] := by
  obtain ⟨hspace, htab, hhash, hnewline, hreturn⟩ := hc
  refine ⟨1, by simp, fun most rest => ?_⟩
  have hbreak : dropLineBreak? (c :: (s ++ rest)) = none := by
    rw [dropLineBreak?] <;> simp [hnewline, hreturn]
  rw [List.cons_append, Toml.readLines, skipBlanks_cons ⟨hspace, htab⟩]
  split
  · rename_i h
    cases h
  · rename_i h
    exact absurd (List.cons.inj h).1 hhash
  · simp only [hbreak, hread, Option.bind_eq_bind, Option.bind_some]
    cases Toml.readLines most rest <;> rfl

/-! ## Assignments and headers -/

/-- What reads back as a value at the end of a line. -/
def WritesValue (text : List Char) (v : Value) : Prop :=
  (∀ rest, readValue maxDepth (text ++ '\n' :: rest) = some (v, '\n' :: rest))
    ∧ ∀ rest, skipBlanks (text ++ '\n' :: rest) = text ++ '\n' :: rest

lemma writesValue_text (s : String) : WritesValue (textValue s) (.text s) := by
  refine ⟨fun rest => readValue_text maxDepth s (noQuote_newline rest), fun rest => ?_⟩
  obtain ⟨q, t, hstring, hq⟩ := exists_string_eq_cons s.toList
  rw [textValue, hstring, List.cons_append]
  exact skipBlanks_cons (by rcases hq with rfl | rfl <;> decide) _

lemma writesValue_boolean (b : Bool) : WritesValue (booleanValue b) (.boolean b) := by
  refine ⟨fun rest => readValue_boolean maxDepth b _, fun rest => ?_⟩
  cases b <;> rfl

lemma writesValue_texts (items : List String) :
    WritesValue (textsValue items) (.array (items.map .text)) := by
  refine ⟨fun rest => readValue_texts 78 items _, fun rest => ?_⟩
  rw [textsValue, List.cons_append, List.cons_append]
  exact skipBlanks_cons (by decide) _

/-- **A line that assigns a value to a bare key.** -/
theorem spells_assignmentLine {key : String} (hkey : IsBareKey key) {text : List Char} {v : Value}
    (hvalue : WritesValue text v) :
    Spells (assignmentLine key text) [.assignment { path := [], key, value := v }] := by
  obtain ⟨hread, hblanks⟩ := hvalue
  have hpart := part_of_isBareKey hkey
  obtain ⟨hne, hall⟩ := hkey
  obtain ⟨c, t, hct⟩ := List.exists_cons_of_ne_nil hne
  have hc : isBare c = true := by
    rw [hct] at hall
    exact List.all_eq_true.1 hall c List.mem_cons_self
  have hne' : ∀ d, isBare d = false → c ≠ d := by
    rintro d hd rfl
    rw [hc] at hd
    exact Bool.noConfusion hd
  have htext : assignmentLine key text = c :: (t ++ " = ".toList ++ text ++ ['\n']) := by
    simp [assignmentLine, hct]
  rw [htext]
  refine Spells.one ⟨hne' _ (by decide), hne' _ (by decide), hne' _ (by decide),
    hne' _ (by decide), hne' _ (by decide)⟩ fun rest => ?_
  have hkey : readKey (c :: (t ++ ' ' :: '=' :: ' ' :: (text ++ '\n' :: rest)))
      = some (([], key), '=' :: ' ' :: (text ++ '\n' :: rest)) := by
    have h := @readKey_keyText [] (by decide) key ' ' ('=' :: ' ' :: (text ++ '\n' :: rest))
      (by decide) fun r => by simp [skipBlanks]
    rw [keyText, hpart, hct] at h
    simpa [skipBlanks] using h
  have hone : readOne (c :: (t ++ ' ' :: '=' :: ' ' :: (text ++ '\n' :: rest)))
      = some (.assignment { path := [], key, value := v }, rest) := by
    have hassign : readAssignment (readValue maxDepth)
        (c :: (t ++ ' ' :: '=' :: ' ' :: (text ++ '\n' :: rest)))
          = some ({ path := [], key, value := v }, '\n' :: rest) := by
      have hskip : skipBlanks (' ' :: (text ++ '\n' :: rest)) = text ++ '\n' :: rest :=
        (hblanks rest).symm ▸ rfl
      rw [readAssignment, hkey]
      simp [dropChar, hskip, hread]
    rw [readOne]
    · rw [hassign]
      rfl
    · intro s h
      exact hne' '[' (by decide) (List.cons.inj h).1
    · intro s h
      exact hne' '[' (by decide) (List.cons.inj h).1
  simpa using hone

/-- **The header of a table.** -/
theorem spells_tableHeader {path : List String} (hpath : path.length < maxDepth) (key : String) :
    Spells ('[' :: (keyText path key ++ "]\n".toList)) [.header (.table path key)] := by
  refine Spells.one (by decide) fun rest => ?_
  have hkey := @readKey_keyText path hpath key ']' ('\n' :: rest) (by decide) fun r => by
    simp [skipBlanks]
  have hskip : skipBlanks (']' :: '\n' :: rest) = ']' :: '\n' :: rest := rfl
  have htext : keyText path key ++ "]\n".toList ++ rest
      = keyText path key ++ ']' :: '\n' :: rest := by
    simp
  rw [hskip] at hkey
  rw [htext, readOne]
  · rw [hkey]
    simp [dropChar, skipLineEnd, skipBlanks, dropLineBreak?]
  · intro s h
    have hnone : readKey ('[' :: s) = none := rfl
    rw [h, hnone] at hkey
    cases hkey

/-- **The header of one more table of a list.** -/
theorem spells_elementHeader {path : List String} (hpath : path.length < maxDepth) (key : String) :
    Spells ('[' :: '[' :: (keyText path key ++ "]]\n".toList)) [.header (.element path key)] := by
  refine Spells.one (by decide) fun rest => ?_
  have hkey := @readKey_keyText path hpath key ']' (']' :: '\n' :: rest) (by decide) fun r => by
    simp [skipBlanks]
  have hskip : skipBlanks (']' :: ']' :: '\n' :: rest) = ']' :: ']' :: '\n' :: rest := rfl
  have htext : '[' :: (keyText path key ++ "]]\n".toList) ++ rest
      = '[' :: (keyText path key ++ ']' :: ']' :: '\n' :: rest) := by
    simp
  rw [hskip] at hkey
  rw [htext, readOne, hkey]
  simp [dropChar, skipLineEnd, skipBlanks, dropLineBreak?]

end FailoverStorage.Toml
