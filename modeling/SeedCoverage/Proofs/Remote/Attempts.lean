import Mathlib
import SeedCoverage.Remote.Session

/-! Attempts at one page. The same request is made until an outcome is final or the policy allows no
more, with one wait between each attempt and the next; what the last attempt comes to is the outcome. -/
namespace SeedCoverage

/-- The delay behind `count` others. -/
def RetryPolicy.delay (policy : RetryPolicy) : (count : Nat) → Nat
  | 0 => policy.firstDelay
  | count + 1 => policy.nextDelay (policy.delay count)

theorem RetryPolicy.delay_succ_le (policy : RetryPolicy) (count : Nat) :
    policy.delay (count + 1) ≤ policy.longestDelay :=
  Nat.min_le_right ..

namespace Remote

/-- A page, or a fault that will not pass: what nothing is asked again for. -/
def IsFinal : Except Fault (List Record) → Prop
  | .ok _ => True
  | .error fault => fault.mayPass = false

/-- The waits behind each of `count` attempts. -/
def waitsOf (policy : RetryPolicy) (count : Nat) : List Wait :=
  (List.range count).map fun place => ⟨place + 2, policy.delay place⟩

theorem waitsOf_succ (policy : RetryPolicy) (count : Nat) :
    waitsOf policy (count + 1) = waitsOf policy count ++ [⟨count + 2, policy.delay count⟩] := by
  simp [waitsOf, List.range_succ]

theorem waitsOf_cons (policy : RetryPolicy) (count : Nat) :
    waitsOf policy (count + 1) =
      ⟨2, policy.firstDelay⟩ ::
        (List.range count).map fun place => ⟨place + 3, policy.delay (place + 1)⟩ := by
  simp [waitsOf, List.range_succ_eq_map, RetryPolicy.delay]

theorem length_waitsOf (policy : RetryPolicy) (count : Nat) :
    (waitsOf policy count).length = count := by
  simp [waitsOf]

theorem delay_le_of_mem_tail {policy : RetryPolicy} {count : Nat} {wait : Wait}
    (later : wait ∈ (waitsOf policy count).tail) : wait.delay ≤ policy.longestDelay := by
  cases count with
  | zero => cases later
  | succ count =>
    rw [waitsOf_cons] at later
    obtain ⟨place, _, rfl⟩ := List.mem_map.mp later
    exact policy.delay_succ_le place

section Attempts

variable (server : Server) (client : Client) (spec : TableSpec) (offset : Nat)

/-- The requests of `count` attempts at a page: the same one each time, if it can be made at all. -/
def attemptRequests (count : Nat) : List Request :=
  match client.request spec offset with
  | .ok request => List.replicate count request
  | .error _ => []

/-- What the attempt at a page comes to that is made behind `earlier` requests and `count` attempts. -/
def attempt (earlier : List Request) (count : Nat) : Except Fault (List Record) :=
  match client.request spec offset with
  | .ok request => (server (earlier ++ List.replicate (count + 1) request)).page spec request
  | .error fault => .error fault

/-- The number, from 1, of the first attempt whose outcome is final; `⊤` if there is none. -/
noncomputable def firstFinal (earlier : List Request) : ℕ∞ :=
  ⨅ (count : ℕ) (_ : IsFinal (attempt server client spec offset earlier count)), ((count + 1 : ℕ) : ℕ∞)

/-- The session in which `count` attempts at a page were made, and after each of them a wait. -/
def attempted (session : Session) (count : Nat) : Session where
  requests := session.requests ++ attemptRequests client spec offset count
  waits := session.waits ++ waitsOf client.retry count

variable {server client spec offset} {session : Session}

theorem attempted_zero : attempted client spec offset session 0 = session := by
  unfold attempted attemptRequests
  cases client.request spec offset <;> simp [waitsOf]

theorem attemptRequests_succ {request : Request} (asked : client.request spec offset = .ok request)
    (count : Nat) :
    attemptRequests client spec offset (count + 1) =
      attemptRequests client spec offset count ++ [request] := by
  simp only [attemptRequests, asked, List.replicate_succ']

theorem ask_attempted (server : Server) (client : Client) (spec : TableSpec) (offset : Nat)
    (session : Session) (count : Nat) :
    ask server client spec offset (attempted client spec offset session count) =
      (attempt server client spec offset session.requests count,
        { attempted client spec offset session count with
          requests := session.requests ++ attemptRequests client spec offset (count + 1) }) := by
  cases asked : client.request spec offset with
  | error fault =>
    simp only [ask, attempt, attempted, attemptRequests, asked]
  | ok request =>
    have more := attemptRequests_succ asked count
    have same : attemptRequests client spec offset (count + 1) = List.replicate (count + 1) request := by
      simp only [attemptRequests, asked]
    simp only [ask, attempt, attempted, asked]
    rw [List.append_assoc, ← more, same]

/-- The attempt behind `count` others is the last one where at most `limit` attempts follow the
first: it is the first with a final outcome, or there may be no other. -/
structure IsLast (outcomes : Nat → Except Fault (List Record)) (limit count : Nat) : Prop where
  allowed : count ≤ limit
  passing : ∀ place < count, ¬IsFinal (outcomes place)
  ends : count = limit ∨ IsFinal (outcomes count)

theorem askPatiently_attempted (server : Server) (client : Client) (spec : TableSpec) (offset : Nat)
    (session : Session) {made : Nat} (left : Nat)
    (passing : ∀ place < made,
      ¬IsFinal (attempt server client spec offset session.requests place)) :
    ∃ count, IsLast (attempt server client spec offset session.requests) (made + left) count ∧
      askPatiently server client spec offset left (made + 1) (client.retry.delay made)
          (attempted client spec offset session made) =
        (attempt server client spec offset session.requests count,
          { attempted client spec offset session count with
            requests := session.requests ++ attemptRequests client spec offset (count + 1) }) := by
  induction left generalizing made with
  | zero =>
    exact ⟨made, ⟨Nat.le_refl made, passing, .inl rfl⟩,
      ask_attempted server client spec offset session made⟩
  | succ left ih =>
    have asked := ask_attempted server client spec offset session made
    by_cases final : IsFinal (attempt server client spec offset session.requests made)
    · refine ⟨made, ⟨Nat.le_add_right .., passing, .inr final⟩, ?_⟩
      rw [askPatiently, asked]
      cases outcome : attempt server client spec offset session.requests made with
      | ok page => rfl
      | error fault =>
        rw [outcome] at final
        have stays : fault.mayPass = false := final
        simp only [stays, Bool.false_eq_true, if_false]
    · have passing' : ∀ place < made + 1,
          ¬IsFinal (attempt server client spec offset session.requests place) := by
        intro place before
        rcases Nat.lt_succ_iff_lt_or_eq.mp before with earlier | rfl
        · exact passing place earlier
        · exact final
      obtain ⟨count, last, rest⟩ := ih passing'
      rw [Nat.succ_add_eq_add_succ] at last
      refine ⟨count, last, ?_⟩
      rw [← rest, askPatiently, asked]
      cases outcome : attempt server client spec offset session.requests made with
      | ok page =>
        rw [outcome] at final
        exact absurd trivial final
      | error fault =>
        rw [outcome] at final
        have passes : fault.mayPass = true := Bool.not_eq_false _ ▸ final
        simp only [passes, if_true, attempted, waitsOf_succ, List.append_assoc]
        rfl

/-- How a page is fetched: by attempts up to the last one that the policy asks for. -/
theorem fetchPage_attempts (server : Server) (client : Client) (spec : TableSpec) (offset : Nat)
    (session : Session) :
    ∃ count, IsLast (attempt server client spec offset session.requests) client.retry.retries count ∧
      fetchPage server client spec offset session =
        (attempt server client spec offset session.requests count,
          ⟨session.requests ++ attemptRequests client spec offset (count + 1),
            session.waits ++ waitsOf client.retry count⟩) := by
  obtain ⟨count, last, got⟩ := askPatiently_attempted server client spec offset session
    client.retry.retries fun place before => absurd before (Nat.not_lt_zero place)
  rw [Nat.zero_add] at last
  rw [attempted_zero] at got
  exact ⟨count, last, got⟩

/-- The number of attempts is the number of the first final one, but no more than are allowed. -/
theorem IsLast.number {earlier : List Request} {limit count : Nat}
    (last : IsLast (attempt server client spec offset earlier) limit count) :
    ((count + 1 : ℕ) : ℕ∞) = min ((limit + 1 : ℕ) : ℕ∞) (firstFinal server client spec offset earlier) := by
  apply le_antisymm
  · apply le_min
    · exact_mod_cast Nat.succ_le_succ last.allowed
    · refine le_iInf₂ fun place final => ?_
      have behind : count ≤ place := Nat.le_of_not_lt fun before => last.passing place before final
      exact_mod_cast Nat.succ_le_succ behind
  · rcases last.ends with rfl | final
    · exact min_le_left _ _
    · exact (min_le_right _ _).trans (iInf₂_le count final)

end Attempts
end Remote
end SeedCoverage
