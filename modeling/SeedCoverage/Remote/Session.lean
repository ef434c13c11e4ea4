import SeedCoverage.Number.Decimal
import SeedCoverage.Remote.Reply

/-! Asking a store for one page, and asking again after a fault that may pass. A session remembers
what was asked and how long was waited. -/
namespace SeedCoverage.Remote

/-- A wait before a request is made again: the number of the attempt that follows, from 2 on, and
the milliseconds. -/
structure Wait where
  attempt : Nat
  delay : Nat
  deriving DecidableEq, Repr

/-- The requests and waits so far, in order. -/
structure Session where
  requests : List Request := []
  waits : List Wait := []
  deriving DecidableEq, Repr

/-- A store replies to the last of the requests that were made to it. -/
abbrev Server := List Request → Reply

/-- Asks for a page once. A request that cannot be made is not part of the session. -/
def ask (server : Server) (client : Client) (spec : TableSpec) (offset : Nat) (session : Session) :
    Except Fault (List Record) × Session :=
  match client.request spec offset with
  | .error fault => (.error fault, session)
  | .ok request =>
    let requests := session.requests ++ [request]
    ((server requests).page spec request, { session with requests })

/-- Asks for a page, and up to `left` times again behind waits of which the first is `delay`. -/
def askPatiently (server : Server) (client : Client) (spec : TableSpec) (offset : Nat) :
    (left attempt delay : Nat) → Session → Except Fault (List Record) × Session
  | 0, _, _, session => ask server client spec offset session
  | left + 1, attempt, delay, session =>
    match ask server client spec offset session with
    | (.ok page, session) => (.ok page, session)
    | (.error fault, session) =>
      if fault.mayPass then
        askPatiently server client spec offset left (attempt + 1)
          (client.retry.nextDelay delay)
          { session with waits := session.waits ++ [⟨attempt + 1, delay⟩] }
      else (.error fault, session)

/-- Asks for a page as the client's policy says. -/
def fetchPage (server : Server) (client : Client) (spec : TableSpec) (offset : Nat)
    (session : Session) : Except Fault (List Record) × Session :=
  askPatiently server client spec offset client.retry.retries 1 client.retry.firstDelay session

end SeedCoverage.Remote
