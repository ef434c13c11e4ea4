import Mathlib
import SeedCoverage.Proofs.Remote.Paging
import SeedCoverage.Proofs.Text.Case
import SeedCoverage.Proofs.Text.Includes
import SeedCoverage.Proofs.Text.Pieces

/-! Which refusals a store is asked again for. A fault is known by the words of its message, and the
message of a refusal repeats the name of the table and what the store wrote: they count as well as the
status does. -/
namespace SeedCoverage

open Text

theorem Text.ofNat_inj {value other : Nat} (same : ofNat value = ofNat other) : value = other := by
  have read := congrArg (Nat.ofDigitChars 10 · 0) same
  dsimp only [ofNat] at read
  rwa [Nat.ofDigitChars_ten_toDigits, Nat.ofDigitChars_ten_toDigits] at read

theorem Text.lower_ofNat (value : Nat) : lower (ofNat value) = ofNat value := by
  refine (List.map_congr_left fun c member => ?_).trans (List.map_id _)
  have digit : c.val ≤ '9'.val :=
    of_decide_eq_true (Bool.and_eq_true_iff.mp (isDigit_of_mem_ofNat member)).2
  have code : c.toNat ≤ 57 := digit
  rcases toLower_cases c with same | ⟨least, _, _⟩
  · exact same
  · omega

namespace Remote

/-- Whether a text holds one of the texts by which a fault that may pass is known. -/
def hints (text : Text) : Bool := Fault.passingTexts.any (includes (lower text))

/-- The statuses whose own digits or reason say that the fault may pass. -/
def passingStatuses : List Nat := [408, 429, 500, 502, 503, 504]

/-- The reason of a status, as it stands in a message. -/
def reasonOf (status : Nat) : Text :=
  ((reasons.find? fun known => known.1 == status).map Prod.snd).getD "<unknown status code>"

/-- A mark that stands in none of the texts keeps them apart. -/
theorem hints_append_cons {left right : Text} {mark : Char} (plain : mark.toLower = mark)
    (absent : ∀ part ∈ Fault.passingTexts, mark ∉ part) :
    hints (left ++ mark :: right) = (hints left || hints right) := by
  rw [Bool.eq_iff_iff, Bool.or_eq_true]
  simp only [hints, List.any_eq_true, lower_append, lower_cons, plain]
  constructor
  · rintro ⟨part, known, found⟩
    rw [includes_append_cons (absent part known), Bool.or_eq_true] at found
    rcases found with front | back
    · exact .inl ⟨part, known, front⟩
    · exact .inr ⟨part, known, back⟩
  · rintro (⟨part, known, front⟩ | ⟨part, known, back⟩)
    · exact ⟨part, known, by rw [includes_append_cons (absent part known), front]; rfl⟩
    · exact ⟨part, known, by rw [includes_append_cons (absent part known), back, Bool.or_true]⟩

theorem hints_append_left {left : Text} (hinted : hints left = true) (right : Text) :
    hints (left ++ right) = true := by
  obtain ⟨part, known, found⟩ := List.any_eq_true.mp hinted
  refine List.any_eq_true.mpr ⟨part, known, ?_⟩
  rw [includes_iff, lower_append]
  exact List.infix_append_of_infix_left (includes_iff.mp found)

theorem unreachable_mayPass (url : Url) : (Fault.unreachable url).mayPass = true := by
  have spoken : hints "Connection failed: error sending request for url (" = true := by
    refine List.any_eq_true.mpr ⟨"connection", by simp [Fault.passingTexts], includes_iff.mpr ?_⟩
    exact List.IsPrefix.isInfix (by simp [lower])
  exact hints_append_left (hints_append_left spoken url.render) ")"

/-- None of the texts begins with a blank. -/
theorem hints_cons_blank (text : Text) : hints (' ' :: text) = hints text := by
  have space : ' '.toLower = ' ' := by decide
  have blankless : ∀ part ∈ Fault.passingTexts, part.head? ≠ some ' ' := by
    simp [Fault.passingTexts]
  rw [Bool.eq_iff_iff]
  simp only [hints, List.any_eq_true]
  refine exists_congr fun part => and_congr_right fun known => ?_
  rw [lower_cons, space, includes_cons_of_head (blankless part known)]

theorem hints_before_table (reason : Text) :
    hints (' ' :: (reason ++ " for table ")) = hints (reason ++ " ") := by
  -- none of the texts has an `f`, so none of them goes on into `for`
  have parted : reason ++ " for table " = reason ++ " " ++ 'f' :: ("or table " : Text) := by
    simp
  have absent : ∀ part ∈ Fault.passingTexts, 'f' ∉ part := by simp [Fault.passingTexts]
  have rest : hints "or table " = false := by
    simp [hints, Fault.passingTexts, lower, includes, List.isPrefixOf]
  rw [hints_cons_blank, parted, hints_append_cons (by decide) absent, rest, Bool.or_false]

theorem hints_reason (status : Nat) :
    hints (' ' :: (reasonOf status ++ " for table ")) = decide (status = 408 ∨ status = 504) := by
  have each : ∀ known ∈ (0, "<unknown status code>") :: reasons,
      hints ((known.2 : Text) ++ " ") = decide (known.1 = 408 ∨ known.1 = 504) := by
    decide +kernel
  rw [hints_before_table, reasonOf]
  cases found : reasons.find? fun known => known.1 == status with
  | none =>
    have missing := List.find?_eq_none.mp found
    have first := missing (408, "Request Timeout") (by simp [reasons])
    have second := missing (504, "Gateway Timeout") (by simp [reasons])
    simp only [beq_iff_eq] at first second
    have other : ¬(status = 408 ∨ status = 504) := by omega
    have unknown := each (0, "<unknown status code>") List.mem_cons_self
    dsimp only at unknown
    rw [Option.map_none, Option.getD_none, unknown, decide_eq_false other]
    rfl
  | some known =>
    have same : known.1 = status := beq_iff_eq.mp (List.find?_some (p := fun known : Nat × String =>
      known.1 == status) found)
    rw [← same]
    exact each known (List.mem_cons_of_mem _ (List.mem_of_find?_eq_some found))

/-- The codes among the texts by which a fault that may pass is known. -/
def passingCodes : List Nat := [429, 500, 502, 503, 504]

theorem ofNat_passingCodes : passingCodes.map ofNat =
    [['4', '2', '9'], ['5', '0', '0'], ['5', '0', '2'], ['5', '0', '3'], ['5', '0', '4']] := by
  decide

/-- Each of the texts is a word or a code. -/
theorem passingTexts_cases : ∀ part ∈ Fault.passingTexts,
    ((part ≠ [] ∧ ∀ c ∈ part, c.isDigit = false) ∨ ∃ code ∈ passingCodes, part = ofNat code) := by
  have codes := ofNat_passingCodes
  simp only [passingCodes, List.map_cons, List.map_nil, List.cons.injEq, and_true] at codes
  simp [Fault.passingTexts, passingCodes, codes]

theorem ofNat_mem_passingTexts {status : Nat} :
    ofNat status ∈ Fault.passingTexts ↔ status ∈ passingCodes := by
  constructor
  · intro known
    rcases passingTexts_cases _ known with ⟨some, word⟩ | ⟨code, listed, same⟩
    · obtain ⟨c, rest, digits⟩ := List.exists_cons_of_ne_nil some
      have member : c ∈ ofNat status := digits ▸ List.mem_cons_self
      have digit := isDigit_of_mem_ofNat member
      rw [word c member] at digit
      cases digit
    · rwa [ofNat_inj same]
  · intro listed
    have digits := List.mem_map_of_mem (f := ofNat) listed
    rw [ofNat_passingCodes] at digits
    have codes : ∀ code ∈ [['4', '2', '9'], ['5', '0', '0'], ['5', '0', '2'], ['5', '0', '3'],
        ['5', '0', '4']], code ∈ Fault.passingTexts := by
      simp [Fault.passingTexts]
    exact codes _ digits

/-- A code occurs in the digits of a status only as the status itself. -/
theorem includes_ofNat {status code : Nat} (three : status < 1000) (listed : code ∈ passingCodes) :
    includes (ofNat status) (ofNat code) = (ofNat status == ofNat code) := by
  have size : ∀ code ∈ passingCodes, (ofNat code).length = 3 := by decide
  have most : (ofNat status).length ≤ 3 :=
    (Nat.length_toDigits_le_iff (by decide) (by decide)).mpr three
  rw [Bool.eq_iff_iff, includes_iff, beq_iff_eq]
  constructor
  · intro inside
    exact (inside.eq_of_length_le (most.trans (size code listed).ge)).symm
  · intro same
    exact same ▸ List.infix_refl _

/-- The message of a refusal up to the name of the table. -/
def refusalHead (status : Nat) : Text := "Remote store error " ++ statusLine status ++ " for table "

theorem lower_refusalHead (status : Nat) :
    lower (refusalHead status) = lower "Remote store error " ++ ofNat status ++
      lower (' ' :: (reasonOf status ++ " for table ")) := by
  have line : statusLine status = ofNat status ++ [' '] ++ reasonOf status := rfl
  have whole : refusalHead status =
      "Remote store error " ++ ofNat status ++ ' ' :: (reasonOf status ++ " for table ") := by
    unfold refusalHead
    rw [line, List.append_assoc, List.append_assoc, List.append_assoc, List.append_assoc,
      List.singleton_append]
  rw [whole, lower_append, lower_append, lower_ofNat]

theorem includes_refusalHead_word {status : Nat} {part : Text} (known : part ∈ Fault.passingTexts)
    (word : ∀ c ∈ part, c.isDigit = false) :
    includes (lower (refusalHead status)) part =
      includes (lower (' ' :: (reasonOf status ++ " for table "))) part := by
  have apart : ∀ c ∈ ofNat status, c ∉ part := by
    intro c digit member
    have isDigit := isDigit_of_mem_ofNat digit
    rw [word c member] at isDigit
    cases isDigit
  have absent : ∀ part ∈ Fault.passingTexts, includes (lower "Remote store error ") part = false := by
    simp [Fault.passingTexts, lower, includes, List.isPrefixOf]
  have digits : ofNat status ≠ [] := Nat.toDigits_ne_nil
  rw [lower_refusalHead, includes_between digits apart, absent part known, Bool.false_or]

theorem includes_refusalHead_code {status code : Nat} (three : status < 1000)
    (listed : code ∈ passingCodes) :
    includes (lower (refusalHead status)) (ofNat code) =
      (ofNat status == ofNat code ||
        includes (lower (' ' :: (reasonOf status ++ " for table "))) (ofNat code)) := by
  have blankless : ' ' ∉ ofNat code := fun blank =>
    absurd (isDigit_of_mem_ofNat blank) (by decide)
  have front : lower "Remote store error " ++ ofNat status =
      lower "Remote store error" ++ ' ' :: ofNat status := by
    have trailing : lower "Remote store error " = lower "Remote store error" ++ [' '] := by
      simp [lower]
    rw [trailing, List.append_assoc]
    rfl
  have absent : ∀ part ∈ Fault.passingTexts, includes (lower "Remote store error") part = false := by
    simp [Fault.passingTexts, lower, includes, List.isPrefixOf]
  have space : ' '.toLower = ' ' := by decide
  rw [lower_refusalHead, front, lower_cons, space, includes_append_cons blankless,
    includes_append_cons blankless,
    includes_cons_of_head fun first => blankless (List.mem_of_head? first),
    absent _ (ofNat_mem_passingTexts.mpr listed), Bool.false_or, includes_ofNat three listed]

theorem includes_refusalHead {status : Nat} (three : status < 1000) {part : Text}
    (known : part ∈ Fault.passingTexts) :
    includes (lower (refusalHead status)) part =
      (ofNat status == part || includes (lower (' ' :: (reasonOf status ++ " for table "))) part) := by
  rcases passingTexts_cases part known with ⟨some, word⟩ | ⟨code, listed, rfl⟩
  · have other : (ofNat status == part) = false := by
      refine beq_false_of_ne fun same => ?_
      obtain ⟨c, rest, rfl⟩ := List.exists_cons_of_ne_nil some
      have digit := isDigit_of_mem_ofNat (same ▸ List.mem_cons_self : c ∈ ofNat status)
      rw [word c List.mem_cons_self] at digit
      cases digit
    rw [includes_refusalHead_word known word, other, Bool.false_or]
  · exact includes_refusalHead_code three listed

/-- Up to the name of the table the message hints at a fault that may pass for six statuses. -/
theorem hints_refusalHead {status : Nat} (three : status < 1000) :
    hints (refusalHead status) = true ↔ status ∈ passingStatuses := by
  have parts : hints (refusalHead status) = true ↔
      ofNat status ∈ Fault.passingTexts ∨
        hints (' ' :: (reasonOf status ++ " for table ")) = true := by
    simp only [hints, List.any_eq_true]
    constructor
    · rintro ⟨part, known, found⟩
      rw [includes_refusalHead three known, Bool.or_eq_true, beq_iff_eq] at found
      rcases found with rfl | reason
      · exact .inl known
      · exact .inr ⟨part, known, reason⟩
    · rintro (known | ⟨part, known, reason⟩)
      · exact ⟨_, known, by rw [includes_refusalHead three known, beq_self_eq_true, Bool.true_or]⟩
      · exact ⟨part, known, by rw [includes_refusalHead three known, reason, Bool.or_true]⟩
  rw [parts, ofNat_mem_passingTexts, hints_reason, decide_eq_true_iff]
  simp only [passingCodes, passingStatuses, List.mem_cons, List.not_mem_nil, or_false]
  omega

private theorem regroup (front status opening table body : Text) :
    front ++ status ++ (opening ++ ['\'']) ++ table ++ ['\'', ':', ' '] ++ body =
      (front ++ status ++ opening) ++
        '\'' :: (table ++ '\'' :: ([] ++ ':' :: ([] ++ ' ' :: body))) := by
  simp only [List.append_assoc, List.cons_append, List.nil_append]

/-- A refusal may pass for six statuses, and for any status where the name of the table or the body
holds one of the texts. -/
theorem refused_mayPass_iff {status : Nat} (three : status < 1000) (table body : Text) :
    (Fault.refused status table body).mayPass = true ↔
      status ∈ passingStatuses ∨ hints table = true ∨ hints body = true := by
  have parts (opening closing : Text) (first : opening = " for table " ++ ['\''])
      (second : closing = ['\'', ':', ' ']) :
      "Remote store error " ++ statusLine status ++ opening ++ table ++ closing ++ body =
        refusalHead status ++ '\'' :: (table ++ '\'' :: ([] ++ ':' :: ([] ++ ' ' :: body))) := by
    subst first second
    exact regroup _ _ _ table body
  have whole : (Fault.refused status table body).message = _ :=
    parts _ _ (by simp) (by simp)
  have quoteless : ∀ part ∈ Fault.passingTexts, '\'' ∉ part := by simp [Fault.passingTexts]
  have colonless : ∀ part ∈ Fault.passingTexts, ':' ∉ part := by simp [Fault.passingTexts]
  have nothing : hints [] = false := by simp [hints, lower, includes, Fault.passingTexts]
  have may : (Fault.refused status table body).mayPass =
      hints (Fault.refused status table body).message := rfl
  rw [may, whole, hints_append_cons (by decide) quoteless, hints_append_cons (by decide) quoteless,
    hints_append_cons (by decide) colonless, List.nil_append, hints_cons_blank, nothing, Bool.false_or,
    Bool.or_eq_true, Bool.or_eq_true, hints_refusalHead three]

/-- What the store wrote, as it stands in the message of a refusal. -/
def bodyText (status : Nat) (body : List UInt8) : Text :=
  Utf8.decodeLossy (if isBodiless status then [] else body)

/-- A reply refuses if its status is none of success. What it says is what can be read of its body. -/
inductive Refuses : Reply → Nat → Text → Prop where
  | whole {status : Nat} {body : List UInt8} (other : isSuccess status = false) :
      Refuses (.answer status body) status (bodyText status body)
  | torn {status : Nat} (other : isSuccess status = false) : Refuses (.tornBody status) status []
  | late {status : Nat} {reason : Text} (other : isSuccess status = false) :
      Refuses (.lateBody status reason) status []

theorem Refuses.page_eq {reply : Reply} {status : Nat} {said : Text} (refuses : Refuses reply status said)
    (spec : TableSpec) (request : Request) :
    reply.page spec request = .error (.refused status spec.name said) := by
  cases refuses with
  | whole other => simp [Reply.page, other, bodyText]
  | torn other => simp [Reply.page, faultWithout, other]
  | late other => simp [Reply.page, faultWithout, other]

section Asking

variable {server : Server} {client : Client} {spec : TableSpec} {offset : Nat} {session : Session}
  {request : Request}

theorem ask_request (asked : client.request spec offset = .ok request) :
    ask server client spec offset session =
      ((server (session.requests ++ [request])).page spec request,
        { session with requests := session.requests ++ [request] }) := by
  rw [ask, asked]

theorem length_lt_askPatiently (server : Server) (asked : client.request spec offset = .ok request)
    (left attempt delay : Nat) (session : Session) :
    session.requests.length <
      (askPatiently server client spec offset left attempt delay session).2.requests.length := by
  induction left generalizing attempt delay session with
  | zero =>
    rw [askPatiently, ask_request asked]
    simp
  | succ left ih =>
    rw [askPatiently, ask_request asked]
    cases (server (session.requests ++ [request])).page spec request with
    | ok page => simp
    | error fault =>
      by_cases passes : fault.mayPass = true
      · simp only [passes, if_true]
        refine Nat.lt_trans ?_ (ih _ _ _)
        simp
      · simp [passes]

/-- Where attempts are left, a page is asked for again just behind a fault that may pass. -/
theorem asked_again_iff_mayPass {fault : Fault} (asked : client.request spec offset = .ok request)
    (failed : (server (session.requests ++ [request])).page spec request = .error fault)
    (left attempt delay : Nat) :
    session.requests.length + 1 <
        (askPatiently server client spec offset (left + 1) attempt delay session).2.requests.length ↔
      fault.mayPass = true := by
  rw [askPatiently, ask_request asked, failed]
  by_cases passes : fault.mayPass = true
  · have further := length_lt_askPatiently server asked left (attempt + 1)
      (client.retry.nextDelay delay)
      ⟨session.requests ++ [request], session.waits ++ [⟨attempt + 1, delay⟩]⟩
    rw [List.length_append, List.length_singleton] at further
    simp only [passes, if_true]
    exact iff_of_true further trivial
  · simp [passes]

theorem fetchPage_again_iff_mayPass (server : Server) (session : Session) {fault : Fault}
    (asked : client.request spec offset = .ok request)
    (failed : (server (session.requests ++ [request])).page spec request = .error fault)
    (more : client.retry.retries ≠ 0) :
    session.requests.length + 1 < (fetchPage server client spec offset session).2.requests.length ↔
      fault.mayPass = true := by
  obtain ⟨left, allowed⟩ := Nat.exists_eq_succ_of_ne_zero more
  rw [fetchPage, allowed]
  exact asked_again_iff_mayPass asked failed left 1 _

/-- Where attempts are left, a refused page is asked for again just where the status is one of six, or
where the name of the table or what the refusal says holds one of the texts by which a fault that may
pass is known. A status has at most three digits. -/
theorem asked_again_iff {status : Nat} {said : Text} (asked : client.request spec offset = .ok request)
    (refuses : Refuses (server (session.requests ++ [request])) status said) (three : status < 1000)
    (left attempt delay : Nat) :
    session.requests.length + 1 <
        (askPatiently server client spec offset (left + 1) attempt delay session).2.requests.length ↔
      status ∈ passingStatuses ∨ hints spec.name = true ∨ hints said = true := by
  rw [asked_again_iff_mayPass asked (refuses.page_eq spec request), refused_mayPass_iff three]

end Asking

/-- A store that always gives the same answer. -/
def refusing (status : Nat) (body : Text) : Server := fun _ => .answer status (Utf8.encode body)

theorem exists_localRequest : ∃ request, localClient.request rareItems 0 = .ok request := by
  have possible : (localClient.request rareItems 0).isOk = true := by decide +kernel
  cases asked : localClient.request rareItems 0 with
  | ok request => exact ⟨request, rfl⟩
  | error fault =>
    rw [asked] at possible
    cases possible

theorem refusing_refuses {status : Nat} (other : isSuccess status = false) (body : Text)
    (requests : List Request) :
    Refuses (refusing status body requests) status (bodyText status (Utf8.encode body)) :=
  .whole other

/-- Neither the name of the table nor a body hints at anything, but one does that speaks of a timeout. -/
theorem hints_localAnswers :
    hints rareItems.name = false ∧ hints (bodyText 501 (Utf8.encode "x")) = false ∧
      hints (bodyText 404 (Utf8.encode "upstream timeout")) = true := by
  decide +kernel

/-- Items that are not found, with a word in the answer that speaks of a timeout. -/
theorem notFound_asked_again :
    ∃ request, localClient.request rareItems 0 = .ok request ∧
      Refuses (refusing 404 "upstream timeout" (({} : Session).requests ++ [request])) 404
        (bodyText 404 (Utf8.encode "upstream timeout")) ∧
      404 < 1000 ∧
      ({} : Session).requests.length + 1 <
        (askPatiently (refusing 404 "upstream timeout") localClient rareItems 0 (2 + 1) 1 500
          {}).2.requests.length := by
  obtain ⟨request, asked⟩ := exists_localRequest
  have refuses := refusing_refuses (show isSuccess 404 = false from rfl) "upstream timeout"
    (({} : Session).requests ++ [request])
  have again := asked_again_iff asked refuses (by decide) 2 1 500
  obtain ⟨-, -, timeout⟩ := hints_localAnswers
  exact ⟨request, asked, refuses, by decide, again.mpr (.inr (.inr timeout))⟩

/-- A server error is given up at once although the policy allows more attempts, and items that are not
found are asked for again. -/
theorem refusals_misjudged :
    localClient.retry.retries = 3 ∧
      ¬({} : Session).requests.length + 1 <
        (fetchPage (refusing 501 "x") localClient rareItems 0 {}).2.requests.length ∧
      ({} : Session).requests.length + 1 <
        (fetchPage (refusing 404 "upstream timeout") localClient rareItems 0
          {}).2.requests.length := by
  obtain ⟨request, asked⟩ := exists_localRequest
  have refused (status : Nat) (body : Text) (other : isSuccess status = false) :=
    fetchPage_again_iff_mayPass (refusing status body) {} asked
      ((refusing_refuses other body [request]).page_eq rareItems request) (by decide)
  rw [refused 501 "x" (by decide), refused 404 "upstream timeout" (by decide),
    refused_mayPass_iff (by decide), refused_mayPass_iff (by decide)]
  obtain ⟨name, nothing, timeout⟩ := hints_localAnswers
  refine ⟨rfl, ?_, .inr (.inr timeout)⟩
  rintro (status | named | said)
  · exact absurd status (by decide)
  · rw [name] at named
    cases named
  · rw [nothing] at said
    cases said

end Remote
end SeedCoverage
