import FailoverStorage.Text.Blank
import FailoverStorage.Text.Numeral
import FailoverStorage.Text.Split

/-!
# Addresses of controllers

The gateway is given a list of controllers, separated by commas.  An address may leave out the
scheme and the port; both are then filled in.  An empty list means the controller on this host.
-/

namespace FailoverStorage.Controller

open Text

/-- The controller that is used when none is named. -/
def defaultAddress : String := "http://localhost:3370"

/-- The milliseconds that a request to a controller may take. -/
def requestTimeoutMs : Nat := 10000

/-- An address with a scheme and a port. -/
def normalize (raw : List Char) : String :=
  let (scheme, host) := (splitAtText "://".toList raw).getD ("http".toList, raw)
  let host := dropTrailing '/' host
  let hasPort := match splitLast ':' host with
    | some (_, port) => (word16? (String.ofList port)).isSome
    | none => false
  String.ofList (scheme ++ "://".toList ++ host) ++ if hasPort then "" else ":3370"

/-- **The addresses that a list names.** -/
def addresses (list : String) : List String :=
  let named := ((splitAll ',' list.toList).map trim).filter (!·.isEmpty)
  if named.isEmpty then [defaultAddress] else named.map normalize

end FailoverStorage.Controller
