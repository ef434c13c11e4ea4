import SeedCoverage.Json.Reader
import SeedCoverage.Remote.Request
import SeedCoverage.Text.Utf8

/-! What a store answers, and the records in it. -/
namespace SeedCoverage

/-- Whether a value says something: it is neither null nor a blank string. -/
def Json.isPresent : Json → Bool
  | null => false
  | string content => !Text.blank content
  | _ => true

namespace Remote

/-- An answer, or none. Redirects have been followed: the answer is that of the last store. A reason is
given in the words of the transport. -/
inductive Reply where
  /-- Nobody takes the request. -/
  | silence
  /-- It is taken, but no answer comes in time. -/
  | late (reason : Text)
  /-- The connection is lost, or one redirect leads to another without end. -/
  | lost (reason : Text)
  | answer (status : Nat) (body : List UInt8)
  /-- An answer whose body breaks off. -/
  | tornBody (status : Nat)
  /-- An answer whose body does not come in time. -/
  | lateBody (status : Nat) (reason : Text)
  deriving DecidableEq, Repr

/-- A row of a remote table: the members of an object. -/
abbrev Record := List (Text × Json)

def recordOf? : Json → Option Record
  | .object members => some members
  | _ => none

/-- The records in a body, if it is a list of objects. -/
def records? (body : List UInt8) : Option (List Record) := do
  match ← Json.parse? (← Utf8.decode? body) with
  | .array items => items.mapM recordOf?
  | _ => none

/-- The fault of an answer whose body cannot be had: a refusal is told by its status all the same. -/
def faultWithout (cause : Fault) (spec : TableSpec) (status : Nat) : Fault :=
  if isSuccess status then cause else .refused status spec.name []

/-- The page in a reply to `request`. -/
def Reply.page (spec : TableSpec) (request : Request) : Reply → Except Fault (List Record)
  | silence => .error (.unreachable request.url)
  | late reason => .error (.timedOut reason)
  | lost reason => .error (.brokenOff reason)
  | tornBody status => .error (faultWithout .malformedBody spec status)
  | lateBody status reason => .error (faultWithout (.timedOut reason) spec status)
  | answer status body =>
    let body := if isBodiless status then [] else body
    if !isSuccess status then .error (.refused status spec.name (Utf8.decodeLossy body))
    else match records? body with
      | some records => .ok records
      | none => .error .malformedBody

/-- The required fields that say nothing in a record. -/
def missingIn (spec : TableSpec) (record : Record) : List Text :=
  spec.required.filter fun field => !((Json.member? record field).any Json.isPresent)

end Remote
end SeedCoverage
