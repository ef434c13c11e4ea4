import SeedCoverage.Config.Basic
import SeedCoverage.Remote.Fault

/-! Requests to a remote store: for a page of one table, the rows from an offset on, with the
required fields only. -/
namespace SeedCoverage.Remote

open Text

/-- Who asks, whom, and how patiently. -/
structure Client where
  base : Text
  key : Text
  pageSize : Nat
  retry : RetryPolicy
  deriving DecidableEq, Repr

/-- A request is sent to a locator, with a key in two headers. -/
structure Request where
  url : Url
  key : Text
  deriving DecidableEq, Repr

/-- The value of the header `Authorization`. -/
def Request.authorization (request : Request) : Text := "Bearer " ++ request.key

/-- The text without the slashes at its end. -/
def trimSlashes (text : Text) : Text := dropEndWhile (· == '/') text

/-- The address of a table. -/
def tableUrl (base table : Text) : Text := trimSlashes base ++ "/rest/v1/" ++ table

/-- The parameters of a request for at most `limit` rows from `offset` on. -/
def pageQuery (spec : TableSpec) (offset limit : Nat) : List (Text × Text) :=
  [("select", join "," spec.required), ("offset", ofNat offset), ("limit", ofNat limit)]

/-- Characters that a header may hold. -/
def isHeaderChar (c : Char) : Bool := c == '\t' || (0x20 ≤ c.toNat && c.toNat != 0x7F)

/-- How long a locator may be to be asked for. -/
def urlLimit : Nat := 65534

/-- Characters that no host has that is asked; some locators have them. -/
def isUnasked (c : Char) : Bool := ("\"\x60\x7b\x7d" : Text).elem c

/-- Whether requests are made to a locator. -/
def canAsk (url : Url) : Bool :=
  (url.scheme == "http".toList || url.scheme == "https".toList) &&
    !url.host.any (List.any · isUnasked) && url.render.length ≤ urlLimit

namespace Client

/-- A client has pages of at least one row. -/
def ofParts (base key : Text) (pageSize : Nat) (retry : RetryPolicy) : Client :=
  ⟨trimSlashes base, key, max pageSize 1, retry⟩

/-- The client of settings in which neither address nor key is blank. -/
def ofSettings? (remote : RemoteSettings) (retry : RetryPolicy) : Option Client := do
  let url ← remote.url.filter fun url => !blank url
  let key ← remote.key.filter fun key => !blank key
  return ofParts url key remote.pageSize retry

/-- The request for the page of a table at `offset`. A login in the address is not part of the
locator that is asked for. -/
def request (client : Client) (spec : TableSpec) (offset : Nat) : Except Fault Request :=
  match Url.parse? (tableUrl client.base spec.name) with
  | none => .error .malformedUrl
  | some url =>
    if !url.hasHost then .error (.unsupportedUrl url)
    else if !client.key.all isHeaderChar then .error .malformedKey
    else
      let url := url.withoutLogin.withPairs (pageQuery spec offset client.pageSize)
      if canAsk url then .ok ⟨url, client.key⟩ else .error (.unsupportedUrl url)

end Client
end SeedCoverage.Remote
