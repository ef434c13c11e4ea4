import SeedCoverage.Remote.Status
import SeedCoverage.Url.Basic

/-! Why a page of a remote table cannot be had, and which of the reasons may pass. -/
namespace SeedCoverage.Remote

open Text

inductive Fault where
  /-- The address of the store is no locator. -/
  | malformedUrl
  /-- The key cannot stand in a header. -/
  | malformedKey
  /-- The locator has no host, or one that cannot be asked, or its scheme is unknown, or it is too
  long. -/
  | unsupportedUrl (url : Url)
  /-- Nothing answers. -/
  | unreachable (url : Url)
  /-- The answer, or the rest of it, does not come in time. -/
  | timedOut (reason : Text)
  /-- The exchange breaks off in another way. -/
  | brokenOff (reason : Text)
  /-- The answer is none of success. -/
  | refused (status : Nat) (table body : Text)
  /-- The answer is no list of objects, or not all of it is there. -/
  | malformedBody
  deriving DecidableEq, Repr

namespace Fault

def message : Fault → Text
  | malformedUrl => "builder error"
  | malformedKey => "builder error"
  | unsupportedUrl url => "builder error for url (" ++ url.render ++ ")"
  | unreachable url => "Connection failed: error sending request for url (" ++ url.render ++ ")"
  | timedOut reason => "Request timeout: " ++ reason
  | brokenOff reason => reason
  | refused status table body =>
    "Remote store error " ++ statusLine status ++ " for table '" ++ table ++ "': " ++ body
  | malformedBody => "Malformed response body: error decoding response body"

/-- Texts by which a fault that may pass is known. -/
def passingTexts : List Text :=
  ["timeout", "connection", "429", "rate limit", "500", "502", "503", "504"]

/-- Whether it is worth asking again: the message holds one of the texts, ASCII letter case
aside. -/
def mayPass (fault : Fault) : Bool := passingTexts.any (includes (lower fault.message))

end Fault
end SeedCoverage.Remote
