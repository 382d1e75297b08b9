/-!
# Arguments

A command line is a list of words.  On each level of commands some options are known; an option may
carry a value, attached to it or as the next word, and most options may be given only once.  All
other words are operands.  After `--` every word is an operand.
-/

namespace FailoverStorage.CommandLine

/-- What an option takes. -/
inductive Arity where
  /-- Nothing. -/
  | switch
  /-- One value, once. -/
  | single
  /-- One value each time it is given. -/
  | repeated
  deriving DecidableEq

/-- **An option of a level.** -/
structure KnownOption where
  long : String
  short : Option Char := none
  arity : Arity
  /-- Which values are possible. -/
  accepts : String → Bool := fun _ => true

/-- An option as it was given. -/
structure Given where
  long : String
  value : String

/-- What the words of a level come to. -/
inductive Scan where
  /-- The words do not fit. -/
  | misuse
  /-- The version was asked for before anything else was wrong. -/
  | version
  /-- The options and the operands; `rest` is left for the level below the first operand. -/
  | read (given : List Given) (operands : List String) (rest : List String)

/-- How the words of a level are read. -/
structure Level where
  options : List KnownOption
  /-- Whether the first operand names a command with its own level. -/
  hasCommands : Bool := false
  /-- Whether the version can be asked for. -/
  hasVersion : Bool := false

namespace Level

/-! ## Single options -/

/-- Whether a word may stand where a value is expected. -/
def isValue (word : String) : Bool := !(word.startsWith "-") || word = "-"

/-- Whether an option may be given once more. -/
def mayGive (o : KnownOption) (given : List Given) : Bool :=
  o.arity = .repeated || given.all (·.long ≠ o.long)

/-- The option that a word begins with, and the value attached to it. -/
def optionOf? (level : Level) (word : String) : Option (KnownOption × Option String) :=
  match word.toList with
  | '-' :: '-' :: name =>
    let long := String.ofList (name.takeWhile (· ≠ '='))
    let attached := match name.dropWhile (· ≠ '=') with
      | _ :: value => some (String.ofList value)
      | [] => none
    (level.options.find? (·.long = long)).map fun o => (o, attached)
  | '-' :: letter :: value =>
    let attached := match value with
      | [] => none
      | '=' :: value => some (String.ofList value)
      | value => some (String.ofList value)
    (level.options.find? (·.short = some letter)).map fun o => (o, attached)
  | _ => none

/-! ## All words -/

/-- Adds an option to those that were given before. -/
def give (o : KnownOption) (value : String) (given : List Given) : Option (List Given) :=
  if mayGive o given && o.accepts value then some (given ++ [{ long := o.long, value }]) else none

/-- Reads words one after another; `pending` is an option that still lacks its value. -/
def scanFrom (level : Level) (pending : Option KnownOption) (given : List Given)
    (operands : List String) : List String → Scan
  | [] => if pending.isSome then .misuse else .read given operands []
  | word :: rest =>
    match pending with
    | some o =>
      if isValue word then
        match give o word given with
        | some given => scanFrom level none given operands rest
        | none => .misuse
      else .misuse
    | none =>
      if word = "--" then
        if level.hasCommands then .misuse else .read given (operands ++ rest) []
      else if isValue word then
        if level.hasCommands then .read given [word] rest
        else scanFrom level none given (operands ++ [word]) rest
      else if level.hasVersion && (word = "--version" || word.startsWith "-V") then .version
      else match optionOf? level word with
        | none => .misuse
        | some (o, attached) =>
          match o.arity, attached with
          | .switch, some _ => .misuse
          | .switch, none =>
            match give o "true" given with
            | some given => scanFrom level none given operands rest
            | none => .misuse
          | _, some value =>
            match give o value given with
            | some given => scanFrom level none given operands rest
            | none => .misuse
          | _, none => scanFrom level (some o) given operands rest

/-- **Reads the words of a level.** -/
def scan (level : Level) (words : List String) : Scan := scanFrom level none [] [] words

end Level

/-- The values that were given for an option. -/
def valuesOf (long : String) (given : List Given) : List String :=
  (given.filter (·.long = long)).map (·.value)

end FailoverStorage.CommandLine
