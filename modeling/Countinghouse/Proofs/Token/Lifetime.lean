import Countinghouse.Configuration.Basic
import Countinghouse.Ledger.Account
import Countinghouse.Proofs.Operation.Undisturbed
import Countinghouse.Proofs.Token.Authority
import Countinghouse.Proofs.Token.RoundTrip

/-!
# Lifetimes are kept exactly

A lifetime is set up as a number of seconds, is measured in milliseconds, and is added to a second
that has a date. An authority is not set up with a lifetime whose milliseconds do not fit into a
word of 64 bits. This is what makes words wide enough for everything else, `WordsSuffice`, so that
an expiry without a date is always seen to be one, and then no token is minted. A token that is
minted lasts as long as its kind was set up to, to the nanosecond, which is `Claims.Lasts`. The
lifetimes of a configuration that can be used are so short that until ten years before the last
date every token is minted, and none is out of date at once.
-/

namespace Countinghouse

/-! ## Words of 64 bits -/

/-- A word stands for an integer just when that fits. -/
theorem toInt_ofInt_eq_iff {value : Int} : (Int64.ofInt value).toInt = value ↔ Fits value := by
  unfold Fits
  constructor
  · intro same
    have least := (Int64.ofInt value).le_toInt
    have greatest := (Int64.ofInt value).toInt_lt
    omega
  · rintro ⟨least, greatest⟩
    exact Int64.toInt_ofInt_of_le (by omega) (by omega)

/-- Words with a sign are wide enough to reckon with a lifetime that begins now: for its seconds and
its milliseconds, for the present second and for the second in which the lifetime ends. -/
structure WordsSuffice (now : Instant) (lifetime : Nat) : Prop where
  seconds : (Int64.ofInt lifetime).toInt = lifetime
  milliseconds : (Int64.ofInt lifetime * Int64.ofInt 1000).toInt = lifetime * 1000
  present : (Int64.ofInt now.seconds).toInt = now.seconds
  ending : (Int64.ofInt now.seconds + Int64.ofInt lifetime).toInt = now.seconds + lifetime

/-- The longest lifetime is the longest whose milliseconds do not wrap around. -/
theorem toInt_milliseconds_eq_iff {lifetime : Nat} :
    (Int64.ofInt lifetime * Int64.ofInt 1000).toInt = lifetime * 1000 ↔
      lifetime ≤ TokenSettings.longest := by
  have notNegative : (0 : Int) ≤ lifetime := Int.natCast_nonneg lifetime
  rw [← Int64.ofInt_mul, toInt_ofInt_eq_iff]
  unfold Fits TokenSettings.longest
  omega

/-- Dates are so few that words suffice for any lifetime that can be measured, whether there is a
date at its end or not. -/
theorem wordsSuffice {now : Instant} {lifetime : Nat} (isDated : Instant.HasDate now.seconds)
    (isMeasured : lifetime ≤ TokenSettings.longest) : WordsSuffice now lifetime := by
  obtain ⟨least, greatest⟩ := isDated
  unfold Instant.earliestSecond at least
  unfold Instant.latestSecond at greatest
  have bounded : lifetime ≤ 9223372036854775 := isMeasured
  refine ⟨?_, toInt_milliseconds_eq_iff.mpr isMeasured, ?_, ?_⟩
  · exact toInt_ofInt_eq_iff.mpr ⟨by omega, by omega⟩
  · exact toInt_ofInt_eq_iff.mpr ⟨by omega, by omega⟩
  · rw [← Int64.ofInt_add]
    exact toInt_ofInt_eq_iff.mpr ⟨by omega, by omega⟩

/-! ## The times of claims -/

namespace Instant

theorem truncate_nanos_le (instant : Instant) : instant.truncate.nanos ≤ instant.nanos :=
  Int.ediv_mul_le instant.nanos (by decide : nanosPerSecond ≠ 0)

theorem nanos_lt_truncate_add (instant : Instant) :
    instant.nanos < instant.truncate.nanos + nanosPerSecond := by
  have before := Int.lt_ediv_add_one_mul_self instant.nanos (by decide : 0 < nanosPerSecond)
  rwa [Int.add_mul, Int.one_mul] at before

/-- If the last second that has a date is not over so many seconds from now, then fewer seconds from
now there is a date. -/
theorem hasDate_later {now : Instant} {count most : Nat} (isDated : HasDate now.seconds)
    (notMore : count ≤ most)
    (notOver : now.nanos + most * nanosPerSecond < (latestSecond + 1) * nanosPerSecond) :
    HasDate (now.seconds + count) := by
  have inLast : now.seconds + most ≤ latestSecond := by
    unfold nanosPerSecond at notOver
    unfold seconds nanosPerSecond
    omega
  obtain ⟨least, -⟩ := isDated
  exact ⟨by omega, by omega⟩

end Instant

/-- The claims are made in the second that the clock shows, and they hold for a lifetime to the
nanosecond. -/
structure Claims.Lasts (claims : Claims) (now : Instant) (lifetime : Nat) : Prop where
  issuedAt_le : claims.issuedAt.nanos ≤ now.nanos
  lt_issuedAt : now.nanos < claims.issuedAt.nanos + Instant.nanosPerSecond
  lasts : claims.expiresAt.nanos - claims.issuedAt.nanos = lifetime * Instant.nanosPerSecond

/-- Claims that hold for a second at least are not out of date when they are made. -/
theorem Claims.Lasts.lt_expiresAt {claims : Claims} {now : Instant} {lifetime : Nat}
    (lasts : claims.Lasts now lifetime) (positive : 1 ≤ lifetime) :
    claims.issuedAt.nanos < claims.expiresAt.nanos ∧ now.nanos < claims.expiresAt.nanos := by
  obtain ⟨early, late, difference⟩ := lasts
  unfold Instant.nanosPerSecond at late difference
  omega

/-! ## The lifetimes that can be used -/

theorem TokenKind.forall_iff {property : TokenKind → Prop} :
    (∀ kind, property kind) ↔ property .access ∧ property .refresh := by
  constructor
  · intro all
    exact ⟨all .access, all .refresh⟩
  · rintro ⟨access, refresh⟩ (_ | _)
    · exact access
    · exact refresh

/-- The lifetime that is set up for tokens of a kind, in seconds. -/
def TokenSettings.lifetime (settings : TokenSettings) : TokenKind → Nat
  | .access => settings.accessSeconds
  | .refresh => settings.refreshSeconds

namespace Configuration

theorem checkLifetime_eq_ok_iff {name : String} {seconds : Nat} :
    checkLifetime name seconds = .ok () ↔ 1 ≤ seconds ∧ seconds ≤ longestLifetime := by
  unfold checkLifetime
  split
  case isTrue inBounds => exact ⟨fun _ => inBounds, fun _ => rfl⟩
  case isFalse outOfBounds => exact ⟨nofun, fun inBounds => absurd inBounds outOfBounds⟩

/-- Two checks are passed one after the other. -/
theorem seq_eq_ok_iff {Fault : Type} {first second : Except Fault Unit} :
    (first >>= fun _ => second) = .ok () ↔ first = .ok () ∧ second = .ok () := by
  cases first with
  | error fault => exact ⟨nofun, nofun⟩
  | ok done => exact (and_iff_right rfl).symm

/-- A configuration can be used when its key is long enough and the lifetimes of both kinds are in
bounds. -/
theorem check_eq_ok_iff {configuration : Configuration} :
    configuration.check = .ok () ↔ leastKeySize ≤ configuration.token.key.utf8ByteSize ∧
      ∀ kind, 1 ≤ configuration.token.lifetime kind ∧
        configuration.token.lifetime kind ≤ longestLifetime := by
  rw [TokenKind.forall_iff]
  unfold check
  by_cases isShort : configuration.token.key.utf8ByteSize < leastKeySize
  · simp only [if_pos isShort]
    exact ⟨nofun, fun usable => absurd isShort (Nat.not_lt_of_le usable.1)⟩
  · simp only [if_neg isShort, seq_eq_ok_iff, checkLifetime_eq_ok_iff,
      Nat.le_of_not_lt isShort, true_and, TokenSettings.lifetime]

end Configuration

namespace Authority

variable {authority : Authority} {settings : TokenSettings} {now : Instant} {kind : TokenKind}

theorem lifetime_le_longest (authority : Authority) (kind : TokenKind) :
    authority.lifetime kind ≤ TokenSettings.longest := by
  cases kind with
  | access => exact authority.access_le
  | refresh => exact authority.refresh_le

/-- An authority has the lifetimes that it was set up with. -/
theorem lifetime_of_make (made : make settings = .ok authority) (kind : TokenKind) :
    authority.lifetime kind = settings.lifetime kind := by
  unfold make at made
  split at made
  case isFalse => cases made
  split at made
  case isFalse => cases made
  obtain rfl := Except.ok.inj made
  cases kind <;> rfl

/-- An authority can be set up when both lifetimes can be measured. -/
theorem exists_make_iff :
    (∃ authority, make settings = .ok authority) ↔
      ∀ kind, settings.lifetime kind ≤ TokenSettings.longest := by
  constructor
  · rintro ⟨authority, made⟩ kind
    rw [← lifetime_of_make made]
    exact authority.lifetime_le_longest kind
  · intro measured
    obtain ⟨access, refresh⟩ := TokenKind.forall_iff.mp measured
    exact ⟨_, (dif_pos access).trans (dif_pos refresh)⟩

/-- The failure tells a lifetime that cannot be measured. -/
theorem eq_tooLong_of_make {error : BankError} (failed : make settings = .error error) :
    ∃ kind, TokenSettings.longest < settings.lifetime kind ∧
      error = tooLong (settings.lifetime kind) := by
  unfold make at failed
  split at failed
  case isFalse access =>
    exact ⟨.access, Nat.lt_of_not_le access, (Except.error.inj failed).symm⟩
  split at failed
  case isFalse refresh =>
    exact ⟨.refresh, Nat.lt_of_not_le refresh, (Except.error.inj failed).symm⟩
  cases failed

/-- Setting up an authority fails when one of the lifetimes cannot be measured. -/
theorem exists_make_error_iff :
    (∃ error, make settings = .error error) ↔
      ∃ kind, TokenSettings.longest < settings.lifetime kind := by
  constructor
  · rintro ⟨error, failed⟩
    obtain ⟨kind, isTooLong, -⟩ := eq_tooLong_of_make failed
    exact ⟨kind, isTooLong⟩
  · rintro ⟨kind, isTooLong⟩
    cases made : make settings with
    | error error => exact ⟨error, rfl⟩
    | ok authority =>
        have measured := exists_make_iff.mp ⟨authority, made⟩ kind
        exact absurd measured (Nat.not_le_of_lt isTooLong)

/-! ## What is minted -/

/-- No token is issued that would expire in a second without a date. -/
theorem issue_of_noDate (noDate : ¬Instant.HasDate (now.seconds + authority.lifetime kind))
    (id : Uuid) (username : String) : authority.issue now id kind username =
      .error (.internal "token expiry out of range") := by
  refine issue_eq_error_iff.mpr ⟨?_, rfl⟩
  rw [expiry?_eq]
  exact if_neg noDate

/-- Otherwise a token is issued that lasts for the lifetime of its kind, and that is what it tells
whoever reads it. -/
theorem issue_lasts (isDated : Instant.HasDate now.seconds)
    (hasDate : Instant.HasDate (now.seconds + authority.lifetime kind)) (id : Uuid)
    (username : String) :
    ∃ token claims, authority.issue now id kind username = .ok (token, claims) ∧
      claims.Lasts now (authority.lifetime kind) ∧
      authority.read? token.toList = some claims := by
  have expires : authority.expiry? now kind =
      some (.ofSeconds (now.seconds + authority.lifetime kind)) := by
    rw [expiry?_eq]
    exact Instant.ofSeconds?_eq_some_iff.mpr ⟨hasDate, rfl⟩
  have issued : authority.claims now id kind username = .ok _ :=
    claims_eq_ok_iff.mpr ⟨_, expires, rfl⟩
  refine ⟨_, _, issue_eq_ok_iff.mpr ⟨issued, rfl⟩, ?_,
    read?_write (isWhole_of_claims isDated issued)⟩
  refine ⟨now.truncate_nanos_le, now.nanos_lt_truncate_add, ?_⟩
  calc (now.seconds + authority.lifetime kind) * Instant.nanosPerSecond -
        now.seconds * Instant.nanosPerSecond
      = (now.seconds + authority.lifetime kind - now.seconds) * Instant.nanosPerSecond :=
        (Int.sub_mul ..).symm
    _ = authority.lifetime kind * Instant.nanosPerSecond := by rw [add_sub_cancel_left]

/-- The arithmetic of lifetimes never wraps around, whatever lifetimes are set up and whenever a
token is minted.

An authority fails to be set up just when the milliseconds of one of its lifetimes are more than
64 bits with a sign can tell, and the failure is internal. Once it is set up, at any time that has a
date, words suffice for all that is reckoned with. If the second of the expiry has no date, then
minting fails, and otherwise a token is minted whose expiry is later than its issue by just the
lifetime that is set up for its kind, and whose issue is not after the present and less than a
second before it.

A configuration that can be used makes an authority. Ten years before the last date ends, or at any
earlier time, this authority mints tokens of both kinds, and the token expires after its issue, and
after the present as well. -/
theorem lifetime_never_wraps {State : Type} (surroundings : Surroundings State) (before : State)
    (settings : TokenSettings) (kind : TokenKind) (username : String) :
    let now : Instant := (surroundings.answer .clock before).1
    let minted (authority : Authority) :=
      ((authority.mint kind username).run.run surroundings before).1
    ((∃ error, make settings = .error error) ↔
      ∃ someKind, (2 ^ 63 - 1) / 1000 < settings.lifetime someKind) ∧
    (∀ error, make settings = .error error →
      ∃ someKind, (2 ^ 63 - 1) / 1000 < settings.lifetime someKind ∧
        error = tooLong (settings.lifetime someKind)) ∧
    (∀ authority, make settings = .ok authority → Instant.HasDate now.seconds →
      WordsSuffice now (settings.lifetime kind) ∧
      (¬Instant.HasDate (now.truncate.seconds + settings.lifetime kind) ∧
          minted authority = .error (.internal "token expiry out of range") ∨
        Instant.HasDate (now.truncate.seconds + settings.lifetime kind) ∧
          ∃ token claims, minted authority = .ok (token, claims) ∧
            claims.Lasts now (settings.lifetime kind) ∧
            authority.read? token.toList = some claims)) ∧
    (∀ configuration : Configuration, configuration.check = .ok () →
      configuration.token = settings →
      ∃ authority, make settings = .ok authority ∧
        (Instant.HasDate now.seconds →
          now.nanos + Configuration.longestLifetime * Instant.nanosPerSecond <
            (Instant.latestSecond + 1) * Instant.nanosPerSecond →
          ∃ token claims, minted authority = .ok (token, claims) ∧
            claims.issuedAt.nanos < claims.expiresAt.nanos ∧
            now.nanos < claims.expiresAt.nanos)) := by
  intro now minted
  refine ⟨exists_make_error_iff, fun error => eq_tooLong_of_make, fun authority made isDated => ?_,
    ?_⟩
  · obtain ⟨id, isIssued⟩ := authority.run_mint kind username surroundings before
    rw [← lifetime_of_make made, Instant.truncate, Instant.seconds_ofSeconds]
    refine ⟨wordsSuffice isDated (authority.lifetime_le_longest kind), ?_⟩
    by_cases hasDate : Instant.HasDate (now.seconds + authority.lifetime kind)
    · obtain ⟨token, claims, issued, lasts, isRead⟩ := issue_lasts isDated hasDate id username
      exact .inr ⟨hasDate, token, claims, isIssued.trans issued, lasts, isRead⟩
    · exact .inl ⟨hasDate, isIssued.trans (issue_of_noDate hasDate id username)⟩
  · rintro configuration usable rfl
    obtain ⟨-, inBounds⟩ := Configuration.check_eq_ok_iff.mp usable
    have isMeasured : Configuration.longestLifetime ≤ TokenSettings.longest := by decide
    obtain ⟨authority, made⟩ := exists_make_iff.mpr fun kind => (inBounds kind).2.trans isMeasured
    refine ⟨authority, made, fun isDated notOver => ?_⟩
    obtain ⟨id, isIssued⟩ := authority.run_mint kind username surroundings before
    obtain ⟨isPositive, isShort⟩ := lifetime_of_make made kind ▸ inBounds kind
    obtain ⟨token, claims, issued, lasts, -⟩ :=
      issue_lasts isDated (Instant.hasDate_later isDated isShort notOver) id username
    exact ⟨token, claims, isIssued.trans issued, lasts.lt_expiresAt isPositive⟩

/-- A configuration with the least key, whose lifetimes are a second and ten years. -/
def atTheLimits : Configuration :=
  { (default : Configuration) with
    token := ⟨"12345678901234567890123456789012", 1, Configuration.longestLifetime⟩ }

/-- Ten years before the last moment that has a date. -/
def tenYearsBefore : Instant :=
  ⟨(Instant.latestSecond + 1) * Instant.nanosPerSecond - 1 -
    Configuration.longestLifetime * Instant.nanosPerSecond⟩

/-- Ten years before the last moment a token that is good for ten years is minted, and a nanosecond
later there is none. A lifetime that is a second too long is refused from the start. -/
theorem lifetime_never_wraps_at_the_limits :
    atTheLimits.check = .ok () ∧
      (∃ error, make ⟨"", 1, TokenSettings.longest + 1⟩ = .error error) ∧
      ∃ authority, make atTheLimits.token = .ok authority ∧
        (∃ token claims,
          ((authority.mint .refresh "alice").run.run
            (Course.standing tenYearsBefore).surroundings (.start .empty)).1 =
              .ok (token, claims) ∧ tenYearsBefore.nanos < claims.expiresAt.nanos) ∧
        ((authority.mint .refresh "alice").run.run
          (Course.standing ⟨tenYearsBefore.nanos + 1⟩).surroundings (.start .empty)).1 =
            .error (.internal "token expiry out of range") := by
  have usable : atTheLimits.check = .ok () :=
    Configuration.check_eq_ok_iff.mpr ⟨by decide, TokenKind.forall_iff.mpr (by decide)⟩
  obtain ⟨-, -, -, usableMints⟩ := lifetime_never_wraps
    (Course.standing tenYearsBefore).surroundings (.start .empty) atTheLimits.token .refresh "alice"
  obtain ⟨fails_iff, -⟩ := lifetime_never_wraps
    (Course.standing tenYearsBefore).surroundings (.start .empty)
    ⟨"", 1, TokenSettings.longest + 1⟩ .refresh "alice"
  obtain ⟨-, -, decided, -⟩ := lifetime_never_wraps
    (Course.standing ⟨tenYearsBefore.nanos + 1⟩).surroundings (.start .empty) atTheLimits.token
    .refresh "alice"
  obtain ⟨authority, made, minted⟩ := usableMints atTheLimits usable rfl
  obtain ⟨token, claims, issued, -, later⟩ := minted (by decide) (by decide)
  refine ⟨usable, fails_iff.mpr ⟨.refresh, by decide⟩, authority, made,
    ⟨token, claims, issued, later⟩, ?_⟩
  obtain ⟨-, ⟨-, failed⟩ | ⟨hasDate, -⟩⟩ := decided authority made (by decide)
  · exact failed
  · exact absurd hasDate (by decide)

end Authority

end Countinghouse
