/-!
# HTTP tokens

Methods, media types and their parameters are made of token characters, header values of visible
ASCII characters, blanks and tabs.
-/

namespace FailoverStorage.Http

/-- Whether a character may stand in a token. -/
def isToken (c : Char) : Bool :=
  c.isAlphanum || "!#$%&'*+-.^_\x60|~".toList.contains c

/-- Whether a character may stand in a header value. -/
def isHeaderValue (c : Char) : Bool := (0x20 ≤ c.toNat && c.toNat < 0x7F) || c = '\t'

end FailoverStorage.Http
