import Countinghouse.Proofs.Gateway.Plan

/-!
# The gate

Nobody enters a private route without an access token, and who enters is served in the name that the
token is for: what the route orders of the bank is ordered by the subject of the token, and the reply
to it goes out.
-/

namespace Countinghouse

/-- Who gives an order, where it says so. -/
def Bank.Order.caller? : Bank.Order → Option String
  | .updateUser caller _ | .user caller | .openAccount caller _ | .account caller _
  | .accounts caller | .deletedAccounts caller | .deleteAccount caller _
  | .restoreAccount caller _ | .transfer caller .. | .transferById caller _
  | .transfersOf caller .. => some caller
  | .register .. | .login .. | .renew _ => none

namespace Gateway

open Handler

/-- What the plan asks of the bank is asked by a caller. -/
def Plan.IsFor (caller : String) : Plan → Prop
  | .answer _ | .decline _ => True
  | .health => False
  | .order asked => asked.caller? = some caller

/-- Behind the gate the plan is for the caller, whatever else the request carries. -/
theorem isFor_planPrivate (caller : String) (request : Request) (verb : Verb) (route : Route) :
    (planPrivate caller request verb route).IsFor caller := by
  cases route with
  | profile =>
      simp only [planPrivate]
      split
      · exact Plan.after_body (fun _ _ _ => rfl) fun _ => trivial
      · exact rfl
  | accounts =>
      simp only [planPrivate]
      split
      · refine Plan.after_body (fun content _ _ => ?_) fun _ => trivial
        cases Currency.parse content.currency with
        | ok currency => exact rfl
        | error error => trivial
      · exact rfl
  | deletedAccounts => exact rfl
  | account text =>
      refine Plan.after_pathId (fun id => ?_) fun _ => trivial
      split <;> exact rfl
  | restoration text | transfer text => exact Plan.after_pathId (fun _ => rfl) fun _ => trivial
  | history text =>
      refine Plan.after_pathId (fun id => ?_) fun _ => trivial
      refine Plan.after_query (fun content _ => ?_) fun _ => trivial
      cases Page.make content.number content.size with
      | ok page => exact rfl
      | error error => trivial
  | transfers => exact Plan.after_body (fun _ _ _ => rfl) fun _ => trivial
  | health | users | login | renewal | documentation | description => trivial

theorem isFor_planBehind (request : Request) (route : Route) (claims : Claims) :
    (planBehind request route (.ok claims)).IsFor claims.username := by
  unfold planBehind
  cases verb? request route with
  | some verb => exact isFor_planPrivate claims.username request verb route
  | none => trivial

/-- How a request to a route is served once it is known whom it comes from. -/
structure IsServed (gateway : Gateway) (request : Request) (route : Route) (claims : Claims)
    (course : Course) (tables : Tables) : Prop where
  /-- What is done, and the reply, are those of the handler of the route, whose caller is the subject
  of the claims. Before it the clock was read and nothing else was done. -/
  outcome : (gateway.handle request).tryOut course (.start tables) =
    Prod.map (mark request route) id
      ((finish (gateway.behind request route claims)).tryOut course ⟨tables, [], 1⟩)
  /-- The handler carries out the plan for the route. -/
  isPlanned : finish (gateway.behind request route claims) =
    (planBehind request route (.ok claims)).carryOut gateway
  /-- What it orders of the bank is ordered by the subject. -/
  isFor : (planBehind request route (.ok claims)).IsFor claims.username

/-- Nobody enters a private route without an access token, and who enters acts in the name that the
token is for.

Let a path lead to a private route, and let the request carry whatever it may. When the gateway
knows whom the request comes from as the clock is read, this is by an access token that the
authority signed and that is not over. Then the request comes to what its route plans for the
subject of the token, with the reply to it, and every order in the plan has the subject for its
caller. When the gateway does not know, the store is not called and the request is refused, with a
code that depends on nothing but whether it says who is calling. The clock, the failures of the
store and its tables may be any. -/
theorem private_route_is_gated (gateway : Gateway) (request : Request) {route : Route}
    (leads : Route.ofPath? request.path = some route) (isPrivate : route.isPrivate = true)
    (course : Course) (tables : Tables) :
    (∀ claims, gateway.Knows (course.answers 0 .clock) request claims →
      claims.kind = .access ∧
      (course.answers 0 .clock).seconds ≤ claims.expiresAt.seconds ∧
      (∃ token header body, request.Presents token ∧
        gateway.bank.authority.Genuine header body token claims) ∧
      gateway.IsServed request route claims course tables) ∧
    ((∀ claims, ¬ gateway.Knows (course.answers 0 .clock) request claims) →
      ∃ reply met, (gateway.handle request).tryOut course (.start tables) =
        (reply, ⟨tables, [], met⟩) ∧ IsRefused request reply) := by
  have whole : (gateway.handle request).tryOut course (.start tables) =
      Prod.map (mark request route) id ((finish (gateway.authenticate request >>=
        gateway.behind request route)).tryOut course (.start tables)) := by
    rw [gateway.handle_eq leads isPrivate, Operation.tryOut, Operation.run_andThen]
    rfl
  refine ⟨fun claims knows => ?_, fun unknown => ?_⟩
  · obtain ⟨isAccess, inTime, genuine⟩ := knows.genuine
    have passes := @tryOut_authenticate_of_knows gateway request claims course (.start tables) knows
    refine ⟨isAccess, inTime, genuine, ?_, finish_behind request route claims,
      isFor_planBehind request route claims⟩
    rw [whole, tryOut_finish_bind_of_ok passes]
    rfl
  · obtain ⟨reply, met, fails, refused⟩ :=
      @tryOut_authenticate_of_not_knows gateway request course (.start tables) unknown
    refine ⟨mark request route reply, met, ?_, refused.status, refused.content⟩
    rw [whole, tryOut_finish_bind_of_error fails]
    rfl

/-- The tables when Alice's account 7 is deleted, or is not. -/
def accountOfAlice (isDeleted : Bool) : Tables :=
  { Tables.empty with accounts := [⟨7, "alice", 0, .usd, isDeleted, ⟨0⟩⟩] }

/-- Without a token and with a refresh token the wish is refused. With an access token it comes to
Alice's order to restore the account, which is carried out. -/
theorem private_route_is_gated_for_a_wish :
    let wishWith (kind : TokenKind) := wish.carrying (small.bank.authority.write (minute kind))
    Route.ofPath? wish.path = some (.restoration "7") ∧
    (∃ reply met, (small.handle wish).tryOut (.standing ⟨0⟩) (.start (accountOfAlice true)) =
      (reply, ⟨accountOfAlice true, [], met⟩) ∧ IsRefused wish reply) ∧
    (∃ reply met, (small.handle (wishWith .refresh)).tryOut (.standing ⟨0⟩)
      (.start (accountOfAlice true)) = (reply, ⟨accountOfAlice true, [], met⟩) ∧
        reply.status = 401) ∧
    planBehind (wishWith .access) (.restoration "7") (.ok (minute .access)) =
      .order (.restoreAccount "alice" 7) ∧
    ∃ met, (small.handle (wishWith .access)).tryOut (.standing ⟨0⟩)
      (.start (accountOfAlice true)) = (.ok .null, ⟨accountOfAlice false,
        [(.getAccount 7, none), (.restoreAccount 7, none)], met⟩) := by
  intro wishWith
  have leads : Route.ofPath? wish.path = some (.restoration "7") := by decide
  refine ⟨leads, ?_, ?_, planBehind_wish, ?_⟩
  · refine (private_route_is_gated small wish leads rfl (.standing ⟨0⟩) _).2 ?_
    rintro claims ⟨token, ⟨scheme, credential, ⟨before, bytes, after, headers, -⟩, -⟩, -⟩
    exact absurd headers (by simp [wish])
  · obtain ⟨reply, met, outcome, refused⟩ := (private_route_is_gated small
      (wishWith .refresh) leads rfl (.standing ⟨0⟩) _).2 fun claims knows => by
        cases ((knows_carrying_iff ⟨by decide, by decide⟩).mp knows).1.2
    exact ⟨reply, met, outcome, refused.status⟩
  · obtain ⟨-, -, -, served⟩ := (private_route_is_gated small (wishWith .access) leads rfl
      (.standing ⟨0⟩) (accountOfAlice true)).1 (minute .access) (knows_minute wish)
    rw [served.outcome, served.isPlanned, planBehind_wish]
    exact ⟨_, rfl⟩

end Gateway

end Countinghouse
