/-!
# Cutting texts at separators

Names, addresses and controller lists are structured by single separator characters.  A text is
cut at the first occurrence, at the last one or at all of them; `joinWith` is the way back.
-/

namespace FailoverStorage.Text

/-! ## Cutting once -/

/-- What stands before and after the first `sep`, or nothing without one. -/
def splitFirst (sep : Char) : List Char → Option (List Char × List Char)
  | [] => none
  | c :: rest =>
    if c = sep then some ([], rest)
    else (splitFirst sep rest).map fun (before, after) => (c :: before, after)

/-- What stands before and after the last `sep`, or nothing without one. -/
def splitLast (sep : Char) (s : List Char) : Option (List Char × List Char) :=
  (splitFirst sep s.reverse).map fun (after, before) => (before.reverse, after.reverse)

/-- A text without the occurrences of a character at its end. -/
def dropTrailing (c : Char) (s : List Char) : List Char := (s.reverse.dropWhile (· = c)).reverse

/-- The rest of a text after a given beginning. -/
def dropStart : (start s : List Char) → Option (List Char)
  | [], s => some s
  | _ :: _, [] => none
  | a :: start, c :: s => if a = c then dropStart start s else none

/-- The text before a given ending. -/
def dropEnding (ending s : List Char) : Option (List Char) :=
  (dropStart ending.reverse s.reverse).map List.reverse

/-- What stands before and after the first occurrence of `part`, or nothing without one. -/
def splitAtText (part : List Char) : List Char → Option (List Char × List Char)
  | [] => if part.isEmpty then some ([], []) else none
  | c :: rest =>
    match dropStart part (c :: rest) with
    | some after => some ([], after)
    | none => (splitAtText part rest).map fun (before, after) => (c :: before, after)

/-- Whether `part` occurs in a text. -/
def occurs (part : List Char) : List Char → Bool
  | [] => part.isEmpty
  | c :: rest => (dropStart part (c :: rest)).isSome || occurs part rest

/-! ## Cutting everywhere -/

/-- The pieces of a text between the occurrences of `sep`; there is one more of them than of
`sep`. -/
def splitAll (sep : Char) : List Char → List (List Char)
  | [] => [[]]
  | c :: rest =>
    if c = sep then [] :: splitAll sep rest
    else match splitAll sep rest with
      | [] => [[c]]
      | piece :: pieces => (c :: piece) :: pieces

/-- Texts one after another with `sep` between them. -/
def joinWith (sep : String) : List String → String
  | [] => ""
  | [s] => s
  | s :: rest => s ++ sep ++ joinWith sep rest

end FailoverStorage.Text
