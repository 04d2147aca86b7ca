import Countinghouse.Token.Authority

/-!
# What the authority accepts and issues

A token is accepted for what can be read in it and for the second in which it is presented. It is
issued for the time that the clock shows, unless its expiry has no date.
-/

namespace Countinghouse.Authority

variable {authority : Authority} {now : Instant} {token : String} {kind : TokenKind}
  {claims : Claims}

theorem verify_eq_ok_iff :
    authority.verify now token = .ok claims ↔ authority.read? token.toList = some claims ∧
      0 ≤ claims.expiresAt.seconds ∧ now.seconds ≤ claims.expiresAt.seconds := by
  unfold verify
  cases authority.read? token.toList with
  | none => simp
  | some found =>
      dsimp only
      split <;> rename_i inTime
      · constructor
        · intro accepted
          obtain rfl := Except.ok.inj accepted
          exact ⟨rfl, inTime⟩
        · rintro ⟨isFound, -⟩
          exact congrArg Except.ok (Option.some.inj isFound)
      · constructor
        · intro accepted
          cases accepted
        · rintro ⟨isFound, claimed⟩
          obtain rfl := Option.some.inj isFound
          exact absurd claimed inTime

theorem verifyKind_eq_ok_iff :
    authority.verifyKind now token kind = .ok claims ↔
      authority.verify now token = .ok claims ∧ claims.kind = kind := by
  unfold verifyKind
  cases authority.verify now token with
  | error error => simp
  | ok found =>
      dsimp only
      split <;> rename_i ofKind
      · constructor
        · intro accepted
          obtain rfl := Except.ok.inj accepted
          exact ⟨rfl, ofKind⟩
        · exact And.left
      · constructor
        · intro accepted
          cases accepted
        · rintro ⟨isFound, claimed⟩
          obtain rfl := Except.ok.inj isFound
          exact absurd claimed ofKind

/-- A token that is not accepted is not said to be anything but invalid. -/
theorem eq_invalidToken_of_verify {error : BankError}
    (refused : authority.verify now token = .error error) : error = .invalidToken := by
  unfold verify at refused
  split at refused
  · split at refused
    · cases refused
    · exact (Except.error.inj refused).symm
  · exact (Except.error.inj refused).symm

theorem eq_invalidToken_of_verifyKind {error : BankError}
    (refused : authority.verifyKind now token kind = .error error) : error = .invalidToken := by
  unfold verifyKind at refused
  split at refused
  · split at refused
    · cases refused
    · exact (Except.error.inj refused).symm
  · next failed =>
      rw [← Except.error.inj refused]
      exact eq_invalidToken_of_verify failed

/-- No token is issued only when it would expire beyond all dates. -/
theorem issue_eq_error_iff {id : Uuid} {username : String} {error : BankError} :
    authority.issue now id kind username = .error error ↔
      authority.expiry? now kind = none ∧ error = .internal "token expiry out of range" := by
  unfold issue claims
  cases authority.expiry? now kind with
  | some expiresAt => exact ⟨nofun, nofun⟩
  | none =>
      constructor
      · intro failed
        exact ⟨rfl, (Except.error.inj failed).symm⟩
      · rintro ⟨-, rfl⟩
        rfl

theorem eq_internal_of_issue {id : Uuid} {username : String} {error : BankError}
    (failed : authority.issue now id kind username = .error error) :
    error = .internal "token expiry out of range" :=
  (issue_eq_error_iff.mp failed).2

/-- Minting is issuing at the time that the clock shows. -/
theorem run_mint {State : Type} (authority : Authority) (kind : TokenKind) (username : String)
    (surroundings : Surroundings State) (before : State) :
    ∃ id, ((authority.mint kind username).run.run surroundings before).1 =
      authority.issue (surroundings.answer .clock before).1 id kind username :=
  ⟨_, rfl⟩

end Countinghouse.Authority
