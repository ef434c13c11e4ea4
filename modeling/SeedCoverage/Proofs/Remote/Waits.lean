import Mathlib
import SeedCoverage.Proofs.Remote.Attempts
import SeedCoverage.Proofs.Remote.Passing

/-! How long is waited between attempts. The bound of a policy holds for every wait but the first, which
is as long as the policy says for itself. -/
namespace SeedCoverage.Remote

variable {server : Server} {client : Client} {spec : TableSpec} {offset : Nat}

theorem IsLast.eq_zero_iff {outcomes : Nat → Except Fault (List Record)} {limit count : Nat}
    (last : IsLast outcomes limit count) : count = 0 ↔ limit = 0 ∨ IsFinal (outcomes 0) := by
  constructor
  · rintro rfl
    rcases last.ends with none | final
    · exact .inl none.symm
    · exact .inr final
  · rintro (rfl | final)
    · exact Nat.le_zero.mp last.allowed
    · by_contra more
      exact last.passing 0 (Nat.pos_of_ne_zero more) final

/-- Waits are within a policy's bound if there is none, or if the first one is. -/
theorem waitsOf_within_iff (policy : RetryPolicy) (count : Nat) :
    (∀ wait ∈ waitsOf policy count, wait.delay ≤ policy.longestDelay) ↔
      count = 0 ∨ policy.firstDelay ≤ policy.longestDelay := by
  cases count with
  | zero => simp [waitsOf]
  | succ count =>
    constructor
    · intro within
      refine .inr (within ⟨2, policy.firstDelay⟩ ?_)
      rw [waitsOf_cons]
      exact List.mem_cons_self
    · rintro (none | first) wait member
      · cases none
      · rw [waitsOf_cons] at member
        rcases List.mem_cons.mp member with rfl | later
        · exact first
        · have behind : wait ∈ (waitsOf policy (count + 1)).tail := by
            rwa [waitsOf_cons]
          exact delay_le_of_mem_tail behind

/-- The waits for a page are all within the policy's bound just where its first delay is, or where no
attempt follows the first. In any case the first wait is the first delay, and all behind it are within
the bound, whatever the factor. -/
theorem waits_within_iff (server : Server) (client : Client) (spec : TableSpec) (offset : Nat)
    (session : Session) :
    ∃ waits, (fetchPage server client spec offset session).2.waits = session.waits ++ waits ∧
      ((∀ wait ∈ waits, wait.delay ≤ client.retry.longestDelay) ↔
        client.retry.firstDelay ≤ client.retry.longestDelay ∨ client.retry.retries = 0 ∨
          IsFinal (attempt server client spec offset session.requests 0)) ∧
      (∀ wait ∈ waits.head?, wait.delay = client.retry.firstDelay) ∧
      ∀ wait ∈ waits.tail, wait.delay ≤ client.retry.longestDelay := by
  obtain ⟨count, last, fetched⟩ := fetchPage_attempts server client spec offset session
  refine ⟨waitsOf client.retry count, by rw [fetched], ?_, ?_, ?_⟩
  · rw [waitsOf_within_iff, last.eq_zero_iff]
    exact or_comm
  · intro wait first
    cases count with
    | zero => cases first
    | succ count =>
      rw [waitsOf_cons] at first
      obtain rfl := Option.some.inj first
      rfl
  · intro wait later
    exact delay_le_of_mem_tail later

theorem waits_silence {request : Request} (asked : client.request spec offset = .ok request)
    (session : Session) :
    (fetchPage (fun _ => .silence) client spec offset session).2.waits =
      session.waits ++ waitsOf client.retry client.retry.retries := by
  obtain ⟨count, last, fetched⟩ := fetchPage_attempts (fun _ => .silence) client spec offset session
  have failed : attempt (fun _ => .silence) client spec offset session.requests count =
      .error (.unreachable request.url) := by
    simp only [attempt, asked, Reply.page]
  rw [fetched]
  rcases last.ends with rfl | final
  · rfl
  · rw [failed] at final
    have stays : (Fault.unreachable request.url).mayPass = false := final
    rw [unreachable_mayPass] at stays
    cases stays

/-- A client whose first wait is longer than any is meant to be. -/
def hastyClient : Client := { localClient with retry := ⟨1, 5, 1, .one⟩ }

/-- Where nothing answers, it waits five milliseconds instead of at most one. -/
theorem firstWait_beyond_bound :
    hastyClient.retry.longestDelay = 1 ∧
      (fetchPage (fun _ => .silence) hastyClient rareItems 0 {}).2.waits = [⟨2, 5⟩] := by
  obtain ⟨request, asked⟩ := exists_localRequest
  have same : hastyClient.request rareItems 0 = .ok request := asked
  exact ⟨rfl, waits_silence same {}⟩

end SeedCoverage.Remote
