import Countinghouse.Proofs.Bank.Lifetime
import Countinghouse.Proofs.Operation.Decisive
import Countinghouse.Proofs.Token.Authority

/-!
# What becomes of a renewal

Anybody may present any text as a refresh token, and any session may be stored under the identifier
that it says. `Bank.renewalObjections` are what stands against the renewal, in the order in which
it is looked at, and `Bank.renewal_is_decided` says that they decide. A renewal writes nothing, so
it can be repeated and comes to the same.
-/

namespace Countinghouse

namespace Attempt

variable {α : Type}

/-- The attempt is made again and again, along one course after another, each time on the tables
that the time before left. -/
def repeatedly (attempt : Attempt α) :
    List Course → Tables → List (Except BankError α) × Tables
  | [], tables => ([], tables)
  | course :: rest, tables =>
    let (result, trial) := attempt.tryOut course tables
    let (results, after) := attempt.repeatedly rest trial.tables
    (result :: results, after)

/-- An attempt that changes nothing finds the same tables every time. -/
theorem repeatedly_eq {attempt : Attempt α} {courses : List Course} {tables : Tables}
    (unchanged : ∀ course ∈ courses, (attempt.tryOut course tables).2.tables = tables) :
    attempt.repeatedly courses tables =
      (courses.map fun course => (attempt.tryOut course tables).1, tables) := by
  induction courses with
  | nil => rfl
  | cons course rest inductionHypothesis =>
      have same := unchanged course List.mem_cons_self
      have later := inductionHypothesis fun other member =>
        unchanged other (List.mem_cons_of_mem course member)
      simp only [repeatedly, same, later, List.map_cons]

end Attempt

namespace Bank

open Attempt

variable {bank : Bank} {tables : Tables} {token : String} {now : Instant} {claims : Claims}
  {session : Session}

/-! ## What stands against a renewal -/

/-- The token is accepted as a refresh token, and this is the session under its identifier. -/
structure Presents (bank : Bank) (tables : Tables) (now : Instant) (token : String)
    (claims : Claims) (session : Session) : Prop where
  accepted : bank.authority.verifyKind now token .refresh = .ok claims
  stored : tables.session? claims.id = some session

/-- What stands against a renewal, in the order in which it is looked at. -/
def renewalObjections (bank : Bank) (tables : Tables) (now : Instant) (token : String) :
    List (BankError → Prop) :=
  [fun error => (∀ claims, bank.authority.verifyKind now token .refresh ≠ .ok claims) ∧
      error = .invalidToken,
    fun error => (∃ claims, bank.authority.verifyKind now token .refresh = .ok claims ∧
      tables.session? claims.id = none) ∧ error = .invalidToken,
    fun error => (∃ claims session, bank.Presents tables now token claims session ∧
      session.isBlocked = true) ∧ error = .blockedRefreshToken,
    fun error => (∃ claims session, bank.Presents tables now token claims session ∧
      session.expiresAt.nanos < now.nanos) ∧ error = .expiredRefreshToken,
    fun error => (∃ claims session, bank.Presents tables now token claims session ∧
      (session.username ≠ claims.username ∨ session.refreshToken ≠ token)) ∧
      error = .mismatchedRefreshTokens,
    fun error => bank.authority.expiry? now .access = none ∧
      error = .internal "token expiry out of range"]

/-- What a renewal answers when nothing stands against it: an access token for the user of the
session, by any clock that does not show a time before 1970. -/
def Renews (bank : Bank) (tables : Tables) (now : Instant) (token : String) (renewal : Renewal) :
    Prop :=
  ∃ claims session, bank.Presents tables now token claims session ∧
    (0 ≤ now.nanos → ∃ access, bank.Grants session.username now renewal access)

theorem Presents.unique (presents : bank.Presents tables now token claims session)
    {other : Claims} {otherSession : Session}
    (presentsOther : bank.Presents tables now token other otherSession) :
    other = claims ∧ otherSession = session := by
  obtain rfl := Except.ok.inj (presentsOther.accepted.symm.trans presents.accepted)
  exact ⟨rfl, Option.some.inj (presentsOther.stored.symm.trans presents.stored)⟩

/-- The session that is looked up decides on what is looked at about it. -/
theorem Presents.falls (presents : bank.Presents tables now token claims session)
    {concern : Claims → Session → Prop} (falls : ¬concern claims session) (error kind : BankError) :
    ¬((∃ claims session, bank.Presents tables now token claims session ∧ concern claims session) ∧
      error = kind) := by
  rintro ⟨⟨other, otherSession, presentsOther, stands⟩, -⟩
  obtain ⟨rfl, rfl⟩ := presents.unique presentsOther
  exact falls stands

/-- Once the session is found, what stands against the renewal stands against the session. -/
theorem Presents.decided {good : Renewal → Prop} {result : Except BankError Renewal}
    (presents : bank.Presents tables now token claims session)
    (decided : Decided good (bank.renewalObjections tables now token) result) :
    Decided good ((bank.renewalObjections tables now token).drop 2) result := by
  apply (decided.of_falls ?_).of_falls ?_
  · rintro error ⟨refused, -⟩
    exact refused claims presents.accepted
  · rintro error ⟨⟨other, accepted, missing⟩, -⟩
    obtain rfl := Except.ok.inj (presents.accepted.symm.trans accepted)
    rw [presents.stored] at missing
    cases missing

/-! ## The decision -/

/-- Once the session is found, the checks of the session decide. -/
theorem grant_decides (presents : bank.Presents tables now token claims session) :
    (bank.grant token claims (some session)).Decides (now = ·)
      (fun _ => bank.Renews tables now token)
      ((bank.renewalObjections tables now token).drop 2) tables := by
  apply undisturbed_now_bind.mpr
  rintro _ rfl
  unfold checkSession
  by_cases isBlocked : session.isBlocked = true
  · rw [if_pos isBlocked]
    exact Decides.rejects ⟨⟨claims, session, presents, isBlocked⟩, rfl⟩
  rw [if_neg isBlocked]
  apply Decides.objects fun error => presents.falls isBlocked error _
  by_cases isExpired : session.expiresAt.nanos < now.nanos
  · rw [if_pos isExpired]
    exact Decides.rejects ⟨⟨claims, session, presents, isExpired⟩, rfl⟩
  rw [if_neg isExpired]
  apply Decides.objects fun error => presents.falls isExpired error _
  by_cases isOther : session.username ≠ claims.username
  · rw [if_pos isOther]
    exact Decides.rejects ⟨⟨claims, session, presents, .inl isOther⟩, rfl⟩
  rw [if_neg isOther]
  by_cases isOld : session.refreshToken ≠ token
  · rw [if_pos isOld]
    exact Decides.rejects ⟨⟨claims, session, presents, .inr isOld⟩, rfl⟩
  rw [if_neg isOld]
  apply Decides.objects fun error => presents.falls (not_or.mpr ⟨isOther, isOld⟩) error _
  apply undisturbed_mint_bind.mpr
  rintro _ rfl id
  cases expires : bank.authority.expiry? now .access with
  | none =>
      have failed : bank.authority.issue now id .access session.username =
          .error (.internal "token expiry out of range") :=
        Authority.issue_eq_error_iff.mpr ⟨expires, rfl⟩
      rw [failed]
      exact .refused ⟨rfl, rfl⟩
  | some expiresAt =>
      have hasExpiry := Option.isSome_iff_exists.mpr ⟨expiresAt, expires⟩
      have issued : bank.authority.issue now id .access session.username = .ok _ :=
        congrArg (Except.map _) (Authority.claims_eq_ok_iff.mpr ⟨expiresAt, expires, rfl⟩)
      rw [issued]
      apply Decides.objects (by simp)
      apply undisturbed_report_bind.mpr
      refine .accepted ⟨claims, session, presents, ?_⟩
      intro isRecent
      obtain ⟨_, access, alsoIssued, grants⟩ :=
        issue_grants (Int.ediv_nonneg isRecent (by decide)) hasExpiry id session.username
      obtain ⟨rfl, rfl⟩ := Prod.mk.inj (Except.ok.inj (issued.symm.trans alsoIssued))
      exact ⟨_, grants⟩

/-- The checks decide on a renewal, whatever is presented and whatever is stored. -/
theorem renew_decides (bank : Bank) (tables : Tables) (now : Instant) (token : String) :
    (bank.renew token).Decides (now = ·) (fun _ => bank.Renews tables now token)
      (bank.renewalObjections tables now token) tables := by
  rw [renew_eq]
  apply undisturbed_now_bind.mpr
  rintro _ rfl
  cases verified : bank.authority.verifyKind now token .refresh with
  | error error =>
      obtain rfl := Authority.eq_invalidToken_of_verifyKind verified
      exact .refused ⟨by simp [verified], rfl⟩
  | ok claims =>
      apply Decides.objects (by simp [verified])
      apply Undisturbed.read_bind (fun _ => rfl)
      cases stored : tables.session? claims.id with
      | none => exact Decides.rejects ⟨⟨claims, verified, stored⟩, rfl⟩
      | some session =>
          apply Decides.objects (by simp [verified, stored])
          exact grant_decides ⟨verified, stored⟩

/-- Each objection makes one error. -/
theorem renewalObjections_single : ∀ objection ∈ bank.renewalObjections tables now token,
    ∀ one another, objection one → objection another → one = another := by
  simp only [renewalObjections, List.forall_mem_cons, List.not_mem_nil, false_implies, implies_true,
    and_true]
  refine ⟨?_, ?_, ?_, ?_, ?_, ?_⟩
  all_goals
    rintro one another ⟨-, rfl⟩ ⟨-, rfl⟩
    rfl

/-! ## What is asked of the store -/

/-- The session of a token that is accepted is looked up, nothing else is asked of the store, and
the tables stay as they are. -/
theorem renew_reads_session {course : Course} (smooth : course.IsSmooth (now = ·)) :
    ((bank.renew token).tryOut course tables).2.tables = tables ∧
      ((bank.renew token).tryOut course tables).2.calls =
        match bank.authority.verifyKind now token .refresh with
        | .ok claims => [(.getSession claims.id, none)]
        | .error _ => [] := by
  have isNow : course.answers 0 .clock = now := (smooth.inTime 0).symm
  have started : (ExceptT.lift Operation.now : Attempt Instant).run.tryOut course (.start tables) =
      (.ok now, ⟨tables, [], 1⟩) := by
    rw [← isNow]
    rfl
  unfold Attempt.tryOut
  rw [renew_eq, tryOut_bind_of_ok started]
  cases verified : bank.authority.verifyKind now token .refresh with
  | error error => exact ⟨rfl, rfl⟩
  | ok claims =>
      have accepted : (Attempt.ofExcept (.ok claims)).run.tryOut course ⟨tables, [], 1⟩ =
          (.ok claims, ⟨tables, [], 1⟩) := rfl
      have found : (Attempt.call (.getSession claims.id)).run.tryOut course ⟨tables, [], 1⟩ =
          (.ok (tables.session? claims.id), ⟨tables, [(.getSession claims.id, none)], 2⟩) :=
        tryOut_call_of_ok (smooth.noFault 1) rfl
      rw [tryOut_bind_of_ok accepted, tryOut_bind_of_ok found]
      exact ((grant_ends token claims _).tryOut course _).2

/-! ## Renewing again and again -/

/-- A renewal is decided by its checks, whatever text is presented and whatever sessions are stored.
The store is asked for the session of a token that is accepted, and for nothing else. As nothing is
changed, a renewal that is repeated while the clock stands still succeeds again or fails for the
same reason, any number of times. -/
theorem renewal_is_decided (bank : Bank) (tables : Tables) (token : String) {now : Instant}
    {course : Course} (smooth : course.IsSmooth (now = ·)) :
    let result := ((bank.renew token).tryOut course tables).1
    let trial := ((bank.renew token).tryOut course tables).2
    Decided (bank.Renews tables now token) (bank.renewalObjections tables now token) result ∧
      ((∀ claims, bank.authority.verifyKind now token .refresh ≠ .ok claims) → trial.calls = []) ∧
      (∀ claims, bank.authority.verifyKind now token .refresh = .ok claims →
        trial.calls = [(.getSession claims.id, none)]) ∧
      trial.tables = tables ∧
      ∀ courses : List Course, (∀ other ∈ courses, other.IsSmooth (now = ·)) →
        ((bank.renew token).repeatedly courses tables).2 = tables ∧
        ∀ again ∈ ((bank.renew token).repeatedly courses tables).1,
          again.map (fun _ => ()) = result.map fun _ => () := by
  intro result trial
  have decided : Decided (bank.Renews tables now token) _ result :=
    (renew_decides bank tables now token).tryOut smooth
  obtain ⟨sameTables, calls⟩ := renew_reads_session smooth
  refine ⟨decided, ?_, ?_, sameTables, ?_⟩
  · intro refused
    cases verified : bank.authority.verifyKind now token .refresh with
    | error error => simpa [verified] using calls
    | ok claims => exact absurd verified (refused claims)
  · intro claims accepted
    simpa [accepted] using calls
  · intro courses smoothly
    have same : (bank.renew token).repeatedly courses tables = _ :=
      repeatedly_eq fun other member => (renew_reads_session (smoothly other member)).1
    rw [same]
    refine ⟨rfl, ?_⟩
    intro again member
    obtain ⟨other, isOther, rfl⟩ := List.mem_map.mp member
    exact ((renew_decides bank tables now token).tryOut (smoothly other isOther)).map_eq_map
      renewalObjections_single decided

/-- The session of Alice's token is stored in another name, with another token and too early an
expiry. -/
def misplaced : Tables :=
  { onlyAlice with
    sessions := [⟨aliceClaims.id, "mallory", "", ⟨"browser", "::1"⟩, false, ⟨-1⟩, ⟨-1⟩⟩] }

/-- Alice's token is renewed as often as she asks, if her session is stored. Where it is misplaced,
it has expired before it is seen to be another's. -/
theorem renewal_is_decided_for_alice :
    (∃ renewal, ((small.renew aliceToken).tryOut (.standing ⟨0⟩) aliceLoggedIn).1 = .ok renewal ∧
        small.Renews aliceLoggedIn ⟨0⟩ aliceToken renewal) ∧
      ((small.renew aliceToken).repeatedly [.standing ⟨0⟩, .standing ⟨0⟩] aliceLoggedIn).2 =
        aliceLoggedIn ∧
      ((small.renew aliceToken).tryOut (.standing ⟨0⟩) misplaced).1 =
        .error .expiredRefreshToken := by
  have accepted : small.authority.verifyKind ⟨0⟩ aliceToken .refresh = .ok aliceClaims :=
    Authority.verifyKind_eq_ok_iff.mpr
      ⟨Authority.verify_eq_ok_iff.mpr ⟨read?_aliceToken, by decide⟩, rfl⟩
  have smooth := Course.standing_isSmooth ⟨0⟩
  refine ⟨?_, ?_, ?_⟩
  · obtain ⟨decided, -⟩ := renewal_is_decided small aliceLoggedIn aliceToken smooth
    have presents : small.Presents aliceLoggedIn ⟨0⟩ aliceToken aliceClaims _ := ⟨accepted, rfl⟩
    have decided := (presents.decided decided).of_falls fun error =>
      presents.falls Bool.false_ne_true error _
    have decided := decided.of_falls fun error => presents.falls (by decide) error _
    have decided := decided.of_falls fun error => presents.falls (by simp [aliceClaims]) error _
    have decided := decided.of_falls (by rintro error ⟨⟨⟩, -⟩)
    generalize ((small.renew aliceToken).tryOut (.standing ⟨0⟩) aliceLoggedIn).1 = result at decided
    cases decided with
    | accepted renews => exact ⟨_, rfl, renews⟩
  · obtain ⟨-, -, -, -, again⟩ := renewal_is_decided small aliceLoggedIn aliceToken smooth
    exact (again _ (by simp [smooth])).1
  · obtain ⟨decided, -⟩ := renewal_is_decided small misplaced aliceToken smooth
    have presents : small.Presents misplaced ⟨0⟩ aliceToken aliceClaims _ := ⟨accepted, rfl⟩
    have decided := (presents.decided decided).of_falls fun error =>
      presents.falls Bool.false_ne_true error _
    obtain ⟨_, ⟨-, rfl⟩, isExpired⟩ := decided.of_stands ⟨⟨_, _, presents, by decide⟩, rfl⟩
    exact isExpired

end Bank

end Countinghouse
