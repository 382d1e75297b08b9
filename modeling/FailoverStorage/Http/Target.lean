import FailoverStorage.Text.Split

/-!
# Request targets

A request names what it wants by a URI: mostly a path with an optional query, but an absolute URI,
a bare authority or an asterisk are targets as well.  `path?` finds the path of a target, and tells
by its absence that the text is no URI.
-/

namespace FailoverStorage.Http.Target

open Text

/-! ## Paths and queries -/

/-- Whether a character may stand in a path.  Characters outside ASCII may. -/
def isPath (c : Char) : Bool :=
  c.isAlphanum || "!$%&'()*+,-./:;=@[\\]^_|~\"\x7b\x7d".toList.contains c || 0x7F ≤ c.toNat

/-- Whether a character may stand in a query. -/
def isQuery (c : Char) : Bool :=
  0x21 ≤ c.toNat && !"\"#<>".toList.contains c

/-- The path of a target that begins with one: what stands before a query or a fragment. -/
def localPath? (s : List Char) : Option (List Char) :=
  let path := s.takeWhile fun c => c ≠ '?' ∧ c ≠ '#'
  let query := match s.dropWhile fun c => c ≠ '?' ∧ c ≠ '#' with
    | '?' :: rest => rest.takeWhile (· ≠ '#')
    | _ => []
  if path.all isPath && query.all isQuery then some (if path.isEmpty then ['/'] else path) else none

/-! ## Authorities -/

/-- What matters of the beginning of an authority. -/
structure AuthorityScan where
  /-- The colons that may still turn out to stand before a port. -/
  colons : Nat := 0
  opened : Bool := false
  closed : Bool := false
  /-- Whether an escape stands outside a user name and a bracketed address. -/
  escaped : Bool := false
  /-- Whether the last character was an at sign. -/
  atSign : Bool := false

/-- Whether a character may stand in an authority. -/
def isAuthority (c : Char) : Bool :=
  c.isAlphanum || "!$&'()*+,-.;=_~".toList.contains c

/-- The scan of an authority with one more character. -/
def AuthorityScan.step? (scan : AuthorityScan) (c : Char) : Option AuthorityScan :=
  let scan := { scan with atSign := false }
  if c = ':' then if scan.colons < 8 then some { scan with colons := scan.colons + 1 } else none
  else if c = '[' then
    if scan.escaped || scan.opened then none else some { scan with opened := true }
  else if c = ']' then
    if !scan.opened || scan.closed then none
    else some { scan with closed := true, colons := 0, escaped := false }
  else if c = '@' then some { scan with colons := 0, escaped := false, atSign := true }
  else if c = '%' then some { scan with escaped := true }
  else if isAuthority c then some scan
  else none

/-- Whether a text is an authority: a host with an optional user and an optional port. -/
def isWellFormedAuthority (s : List Char) : Bool :=
  match s.foldlM (fun scan c => scan.step? c) ({} : AuthorityScan) with
  | some scan =>
    scan.opened = scan.closed && scan.colons ≤ 1 && !scan.atSign && !scan.escaped
  | none => false

/-! ## All targets -/

/-- Whether a character may stand in a scheme. -/
def isScheme (c : Char) : Bool := c.isAlphanum || "+-.~".toList.contains c

/-- What follows the scheme of a target; nothing if it has none. -/
def afterScheme (s : List Char) : Option (List Char) :=
  match s.dropWhile isScheme with
  | ':' :: '/' :: '/' :: rest => some rest
  | _ => none

/-- The bytes that a target has at most. -/
def maxLength : Nat := 65534

/-- The bytes that a scheme has at most. -/
def maxSchemeLength : Nat := 64

/-- **The path of a request target**, or nothing if the text is no URI.  A target without a path
has an empty one if it is a bare authority, and the root otherwise. -/
def path? (target : String) : Option (List Char) :=
  let s := target.toList
  if maxLength < target.utf8ByteSize then none
  else match s with
    | [] => none
    | ['*'] => some s
    | '/' :: _ => localPath? s
    | _ =>
      match afterScheme s with
      | none => if isWellFormedAuthority s then some [] else none
      | some rest =>
        let isEnd (c : Char) : Bool := c = '/' || c = '?' || c = '#'
        let authority := rest.takeWhile (!isEnd ·)
        if authority.isEmpty || !isWellFormedAuthority authority
            || maxSchemeLength < (s.takeWhile isScheme).length then none
        else localPath? (rest.dropWhile (!isEnd ·))

end FailoverStorage.Http.Target
