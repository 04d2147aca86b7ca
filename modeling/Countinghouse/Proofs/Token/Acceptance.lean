import Countinghouse.Proofs.Bank.Order
import Countinghouse.Proofs.Operation.Undisturbed
import Countinghouse.Proofs.Token.Authority
import Countinghouse.Proofs.Token.RoundTrip

/-!
# Which tokens are accepted

Every token that is minted is accepted until the second of its expiry is over, for the one thing
that it is good for. The other way round, `Authority.Genuine` says what can be found in any text
that is accepted, also in one that the authority never wrote: two parts that are written in the
one way there is to write them, and behind them the signature of just these parts. So there is
nothing in an accepted token that could be changed without changing what is signed.
-/

namespace Countinghouse

/-! ## Texts that are joined by dots -/

namespace Authority

/-- What is before the first dot of a text, and what is after it, is found in one way only. -/
theorem dotted_inj {first second firstRest secondRest : List Char} (noDot : '.' ∉ first)
    (noDotEither : '.' ∉ second) (same : first ++ '.' :: firstRest = second ++ '.' :: secondRest) :
    first = second ∧ firstRest = secondRest := by
  have taken {part rest : List Char} (noDot : '.' ∉ part) :
      (part ++ '.' :: rest).takeWhile (· != '.') = part := by
    rw [List.takeWhile_append_of_pos]
    · simp
    · intro character member
      simp only [bne_iff_ne, ne_eq]
      rintro rfl
      exact noDot member
  have samePart : first = second := by
    rw [← taken noDot, same, taken noDotEither]
  subst samePart
  exact ⟨rfl, (List.cons.inj (List.append_cancel_left same)).2⟩

/-- A text is split at a dot, and there is none after it. -/
theorem eq_of_splitLast? {text front last : List Char}
    (split : splitLast? text = some (front, last)) : text = front ++ '.' :: last ∧ '.' ∉ last := by
  unfold splitLast? at split
  have whole : text.reverse = text.reverse.takeWhile (· != '.') ++
      text.reverse.dropWhile (· != '.') := List.takeWhile_append_dropWhile.symm
  have inTail : ∀ character ∈ text.reverse.takeWhile (· != '.'), character ≠ '.' :=
    fun character member => by
      simpa using List.all_eq_true.mp List.all_takeWhile character member
  generalize text.reverse.takeWhile (· != '.') = tail at split whole inTail
  cases isRest : text.reverse.dropWhile (· != '.') with
  | nil =>
      rw [isRest, List.append_nil] at whole
      simp [← whole] at split
  | cons dot rest =>
      obtain rfl : dot = '.' := by
        have isDot := List.head?_dropWhile_not (· != '.') text.reverse
        simpa [isRest] using isDot
      rw [isRest] at whole
      obtain rfl : text = rest.reverse ++ '.' :: tail.reverse := by
        rw [← List.reverse_reverse text, whole]
        simp
      have isShort : tail.reverse.length < (rest.reverse ++ '.' :: tail.reverse).length := by
        simp only [List.length_append, List.length_cons]
        omega
      have place : (rest.reverse ++ '.' :: tail.reverse).length - tail.reverse.length - 1 =
          rest.reverse.length := by
        simp only [List.length_append, List.length_cons]
        omega
      simp only [isShort, if_true, place, List.take_left, Option.some.injEq, Prod.mk.injEq] at split
      obtain ⟨rfl, rfl⟩ := split
      exact ⟨rfl, fun member => inTail '.' (List.mem_reverse.mp member) rfl⟩

/-- A part of a token is the one text for its bytes, and those are JSON. -/
theorem eq_of_decodePart? {part : List Char} {document : Document}
    (decoded : decodePart? part = some document) :
    ∃ bytes, part = Base64.encode Base64.url bytes ∧ Document.parse? bytes = some document := by
  obtain ⟨bytes, isDecoded, parsed⟩ := Option.bind_eq_some_iff.mp decoded
  exact ⟨bytes, Base64.encode_of_decode? isDecoded, parsed⟩

theorem dot_not_mem_of_decodePart? {part : List Char} {document : Document}
    (decoded : decodePart? part = some document) : '.' ∉ part := by
  obtain ⟨bytes, rfl, -⟩ := eq_of_decodePart? decoded
  exact Base64.dot_not_mem_encode bytes

end Authority

/-! ## What a header and claims say -/

namespace TokenKind

theorem name_of_ofName? {name : String} {kind : TokenKind}
    (named : ofName? name = some kind) : kind.name = name := by
  unfold ofName? at named
  split at named
  · next isName =>
      obtain rfl := Option.some.inj named
      exact isName.symm
  · split at named
    · next isName =>
        obtain rfl := Option.some.inj named
        exact isName.symm
    · cases named

end TokenKind

namespace Header

open Document

/-- The algorithm that a header names. In a header that is a list it is the second item. -/
def algorithm? : Document → Option String
  | .object fields => only? "alg" fields >>= variant?
  | .list items => items[1]? >>= variant?
  | _ => none

theorem variant?_of_isVariantOf {document : Document} {name : String}
    (isVariant : isVariantOf [name] document = true) : document.variant? = some name := by
  unfold isVariantOf at isVariant
  obtain ⟨found, isFound, isName⟩ := (Option.any_eq_true _ _).mp isVariant
  simp only [List.contains_cons, List.contains_nil, Bool.or_false, beq_iff_eq] at isName
  rw [isFound, isName]

/-- A header that is accepted names the one algorithm that the authority signs with. -/
theorem algorithm?_of_isAccepted {document : Document} (accepted : isAccepted document = true) :
    algorithm? document = some "HS256" := by
  cases document with
  | object fields =>
      simp only [isAccepted, Bool.and_eq_true] at accepted
      obtain ⟨⟨-, named⟩, -⟩ := accepted
      obtain ⟨value, isOnly, isVariant⟩ := (Option.any_eq_true _ _).mp named
      exact Option.bind_eq_some_iff.mpr ⟨value, isOnly, variant?_of_isVariantOf isVariant⟩
  | list items =>
      simp only [isAccepted, Bool.and_eq_true, beq_iff_eq] at accepted
      obtain ⟨whole, inForm⟩ := accepted
      match items, whole, inForm with
      | _ :: second :: _, _, inForm =>
          simp only [forms, List.zip_cons_cons, List.all_cons, Bool.and_eq_true] at inForm
          exact variant?_of_isVariantOf inForm.2.1
  | null | bool _ | number _ | text _ => cases accepted

end Header

namespace Claims

open Document

/-- An object says these claims. Subject and expiry are there, each once, and so are the others. -/
structure SaidBy (claims : Claims) (fields : List (Option String × Document)) : Prop where
  subject : only? "sub" fields = some (.text claims.username)
  expiry : only? "exp" fields = some (.number claims.expiresAt.seconds)
  issue : only? "iat" fields = some (.number claims.issuedAt.seconds)
  kind : ∃ value, only? "kind" fields = some value ∧ value.variant? = some claims.kind.name
  id : ∃ text : String, only? "jti" fields = some (.text text) ∧ Uuid.parse? text = some claims.id
  isWhole : claims.IsWhole

theorem text?_eq_some {document : Document} {text : String} (isText : document.text? = some text) :
    document = .text text := by
  cases document with
  | text value => exact congrArg Document.text isText
  | null | bool _ | number _ | list _ | object _ => cases isText

/-- A number that stands for an instant is the number of its second. -/
theorem eq_of_instantOf? {document : Document} {instant : Instant}
    (isInstant : instantOf? document = some instant) :
    document = .number instant.seconds ∧ instant.IsWhole := by
  obtain ⟨seconds, isInteger, dated⟩ := Option.bind_eq_some_iff.mp isInstant
  have isNumber : document = .number seconds := by
    cases document with
    | number value => exact congrArg Document.number isInteger
    | null | bool _ | text _ | list _ | object _ => cases isInteger
  obtain ⟨hasDate, rfl⟩ := Instant.ofSeconds?_eq_some_iff.mp dated
  rw [Instant.seconds_ofSeconds]
  exact ⟨isNumber, Instant.isWhole_ofSeconds hasDate⟩

/-- Claims are read from an object that says them. -/
theorem saidBy_of_ofDocument? {document : Document} {claims : Claims}
    (read : ofDocument? document = some claims) :
    ∃ fields, document = .object fields ∧ claims.SaidBy fields := by
  cases document with
  | object fields =>
      simp only [ofDocument?, Option.bind_eq_bind, Option.bind_eq_some_iff, Option.pure_def,
        Option.some.injEq] at read
      obtain ⟨-, -, -, -, -, -, id, ⟨text, ⟨idValue, idOnly, isText⟩, isId⟩,
        username, ⟨subject, subjectOnly, isUsername⟩, kind, ⟨kindValue, kindOnly, isKind⟩,
        issuedAt, ⟨issue, issueOnly, isIssue⟩, expiresAt, ⟨expiry, expiryOnly, isExpiry⟩, rfl⟩ :=
        read
      obtain ⟨rfl, issueIsWhole⟩ := eq_of_instantOf? isIssue
      obtain ⟨rfl, expiryIsWhole⟩ := eq_of_instantOf? isExpiry
      obtain rfl := text?_eq_some isText
      obtain rfl := text?_eq_some isUsername
      obtain ⟨name, isVariant, named⟩ := Option.bind_eq_some_iff.mp isKind
      obtain rfl := TokenKind.name_of_ofName? named
      exact ⟨fields, rfl, subjectOnly, expiryOnly, issueOnly, ⟨kindValue, kindOnly, isVariant⟩,
        ⟨text, idOnly, isId⟩, ⟨issueIsWhole, expiryIsWhole⟩⟩
  | null | bool _ | number _ | text _ | list _ => cases read

end Claims

namespace Authority

variable {authority : Authority} {claims : Claims} {kind : TokenKind} {username token : String}

/-! ## What is minted is accepted -/

/-- What is minted are the claims for the time that the clock said. -/
theorem mint_eq {State : Type} {surroundings : Surroundings State} {before after : State}
    (minted : (authority.mint kind username).run.run surroundings before =
      (.ok (token, claims), after)) :
    ∃ id, authority.claims (surroundings.answer .clock before).1 id kind username = .ok claims ∧
      token = authority.write claims := by
  obtain ⟨id, isIssued⟩ := authority.run_mint kind username surroundings before
  exact ⟨id, issue_eq_ok_iff.mp (isIssued.symm.trans (congrArg Prod.fst minted))⟩

/-- A token that was minted is accepted, and it is accepted as what it was minted to be. Whatever
clock value it is presented at, as long as the second of its expiry is not over: verification
answers the very claims that were minted, verification for the kind that was asked for does so as
well, and for the other kind it fails. This is so for every key, every lifetime, every username and
every time of minting from 1970 on that has a date for the expiry. -/
theorem minted_token_is_accepted {State : Type} {surroundings : Surroundings State}
    {before after : State} (isRecent : 0 ≤ (surroundings.answer .clock before).1.nanos)
    (minted : (authority.mint kind username).run.run surroundings before =
      (.ok (token, claims), after)) :
    claims.username = username ∧ claims.kind = kind ∧
      claims.issuedAt = (surroundings.answer .clock before).1.truncate ∧
      claims.expiresAt.seconds = claims.issuedAt.seconds + authority.lifetime kind ∧
      ∀ clock : Instant, 0 ≤ clock.nanos → clock.seconds ≤ claims.expiresAt.seconds →
        authority.verify clock token = .ok claims ∧
        authority.verifyKind clock token kind = .ok claims ∧
        ∀ other, other ≠ kind → authority.verifyKind clock token other = .error .invalidToken := by
  obtain ⟨id, claimed, rfl⟩ := mint_eq minted
  have isWhole := claims_isWhole (Int.ediv_nonneg isRecent (by decide)) claimed
  obtain ⟨expiresAt, expires, rfl⟩ := claims_eq_ok_iff.mp claimed
  obtain ⟨-, rfl⟩ := expiry?_eq_some expires
  refine ⟨rfl, rfl, rfl, ?_, fun clock isClock inTime => ?_⟩
  · simp only [Instant.seconds_ofSeconds, Instant.truncate]
  have isLater : 0 ≤ clock.seconds := Int.ediv_nonneg isClock (by decide)
  have accepted := fun asked => @verifyKind_write authority _ isWhole clock asked
  have ofKind := (accepted kind).trans (if_pos ⟨⟨isLater.trans inTime, inTime⟩, rfl⟩)
  refine ⟨(verifyKind_eq_ok_iff.mp ofKind).1, ofKind, fun other different => ?_⟩
  exact (accepted other).trans (if_neg fun both => different both.2.symm)

/-- What an authority claims in the first second of 1970, when its refresh tokens are good for an
hour, for a name full of marks. -/
def marked : Claims := ⟨⟨0⟩, "a.\"\\\n\u00e9", .refresh, ⟨0⟩, ⟨3600000000000⟩⟩

/-- The token of these claims is accepted until the first second of the next hour is over, and
never as an access token. -/
theorem minted_token_is_accepted_in_its_last_second :
    ((Bank.small.authority.mint .refresh marked.username).run.run
        (Course.standing ⟨500000000⟩).surroundings (.start .empty)).1 =
          .ok (Bank.small.authority.write marked, marked) ∧
      Bank.small.authority.verify ⟨3600999999999⟩ (Bank.small.authority.write marked) =
        .ok marked ∧
      Bank.small.authority.verifyKind ⟨3600999999999⟩ (Bank.small.authority.write marked) .access =
        .error .invalidToken := by
  have claimed : Bank.small.authority.claims ⟨500000000⟩ ⟨0⟩ .refresh marked.username =
      .ok marked := rfl
  have minted : (Bank.small.authority.mint .refresh marked.username).run.run
      (Course.standing ⟨500000000⟩).surroundings (.start .empty) =
        (Bank.small.authority.issue ⟨500000000⟩ ⟨0⟩ .refresh marked.username,
          ⟨.empty, [], 2⟩) := rfl
  rw [issue_eq_ok_iff.mpr ⟨claimed, rfl⟩] at minted
  have isRecent : (0 : Int) ≤ (⟨500000000⟩ : Instant).nanos := by decide
  obtain ⟨-, -, -, -, accepted⟩ := minted_token_is_accepted isRecent minted
  obtain ⟨isVerified, -, otherKind⟩ := accepted ⟨3600999999999⟩ (by decide) (by decide)
  exact ⟨congrArg Prod.fst minted, isVerified, otherKind .access (by decide)⟩

/-! ## What is accepted is genuine -/

/-- The authority stands behind a text for what it claims. The text is a header, a body and a
signature with dots between them. Header and body are the texts of JSON documents: the header
names the algorithm, and the body says the claims. The signature is the text of the keyed hash of
what is before it. -/
structure Genuine (authority : Authority) (header body : List Char) (token : String)
    (claims : Claims) : Prop where
  signed : token = String.ofList (header ++ '.' :: body ++ '.' :: Base64.encode Base64.url
    (Sha256.keyed authority.key (String.ofList (header ++ '.' :: body)).toUTF8.toList))
  named : ∃ bytes document, header = Base64.encode Base64.url bytes ∧
    Document.parse? bytes = some document ∧ Header.algorithm? document = some "HS256"
  said : ∃ bytes fields, body = Base64.encode Base64.url bytes ∧
    Document.parse? bytes = some (.object fields) ∧ claims.SaidBy fields

theorem Genuine.toList_eq {header body : List Char}
    (genuine : authority.Genuine header body token claims) :
    token.toList = header ++ '.' :: (body ++ '.' :: authority.sign (header ++ '.' :: body)) := by
  rw [genuine.signed, String.toList_ofList, List.append_assoc]
  rfl

theorem Genuine.dot_not_mem_header {header body : List Char}
    (genuine : authority.Genuine header body token claims) : '.' ∉ header := by
  obtain ⟨bytes, -, rfl, -⟩ := genuine.named
  exact Base64.dot_not_mem_encode bytes

theorem Genuine.dot_not_mem_body {header body : List Char}
    (genuine : authority.Genuine header body token claims) : '.' ∉ body := by
  obtain ⟨bytes, -, rfl, -⟩ := genuine.said
  exact Base64.dot_not_mem_encode bytes

/-- What is read is genuine. -/
theorem genuine_of_read? (isRead : authority.read? token.toList = some claims) :
    ∃ header body, authority.Genuine header body token claims := by
  unfold read? at isRead
  simp only [Option.bind_eq_bind, Option.bind_eq_some_iff, Option.guard_eq_some'] at isRead
  obtain ⟨⟨message, signature⟩, atLast, ⟨header, body⟩, atFirst, document, isHeader, -, isAccepted,
    -, isSigned, payload, isBody, isClaims⟩ := isRead
  obtain rfl : signature = authority.sign message := isSigned
  obtain ⟨whole, -⟩ := eq_of_splitLast? atLast
  obtain ⟨rfl, -⟩ := eq_of_splitLast? atFirst
  obtain ⟨headerBytes, headerText, headerParsed⟩ := eq_of_decodePart? isHeader
  obtain ⟨bodyBytes, bodyText, bodyParsed⟩ := eq_of_decodePart? isBody
  obtain ⟨fields, rfl, said⟩ := Claims.saidBy_of_ofDocument? isClaims
  refine ⟨header, body, ?_, ?_, ?_⟩
  · rw [← String.ofList_toList (s := token), whole]
    rfl
  · exact ⟨headerBytes, document, headerText, headerParsed,
      Header.algorithm?_of_isAccepted isAccepted⟩
  · exact ⟨bodyBytes, fields, bodyText, bodyParsed, said⟩

theorem genuine_of_verify {now : Instant} (accepted : authority.verify now token = .ok claims) :
    ∃ header body, authority.Genuine header body token claims :=
  genuine_of_read? (verify_eq_ok_iff.mp accepted).1

theorem dot_not_mem_sign (authority : Authority) (message : List Char) :
    '.' ∉ authority.sign message := Base64.dot_not_mem_encode _

/-- The signature is what is after the last dot. -/
theorem Genuine.eq_sign {header body message signature : List Char}
    (genuine : authority.Genuine header body (String.ofList (message ++ '.' :: signature)) claims)
    (noDot : '.' ∉ signature) :
    message = header ++ '.' :: body ∧ signature = authority.sign (header ++ '.' :: body) := by
  have parts := genuine.toList_eq
  rw [String.toList_ofList, ← List.cons_append, ← List.append_assoc] at parts
  have split := splitLast?_append message noDot
  rw [parts, splitLast?_append _ (dot_not_mem_sign authority _)] at split
  obtain ⟨isMessage, isSignature⟩ := Prod.mk.inj (Option.some.inj split)
  exact ⟨isMessage.symm, isSignature.symm⟩

/-- Behind a message one signature is accepted at most. -/
theorem signature_unique {message signature other : List Char} {first second : Instant}
    {found : Claims} (noDot : '.' ∉ signature)
    (accepted : authority.verify first (String.ofList (message ++ '.' :: signature)) = .ok claims)
    (acceptedToo : authority.verify second (String.ofList (message ++ '.' :: other)) = .ok found) :
    other = signature := by
  obtain ⟨header, body, genuine⟩ := genuine_of_verify accepted
  obtain ⟨otherHeader, otherBody, genuineToo⟩ := genuine_of_verify acceptedToo
  obtain ⟨rfl, rfl⟩ := genuine.eq_sign noDot
  have parts := genuineToo.toList_eq
  rw [String.toList_ofList, List.append_assoc] at parts
  -- From the front, header and body are found to be the same, so the rest is as well.
  obtain ⟨rfl, rest⟩ := dotted_inj genuine.dot_not_mem_header genuineToo.dot_not_mem_header parts
  obtain ⟨rfl, same⟩ := dotted_inj genuine.dot_not_mem_body genuineToo.dot_not_mem_body rest
  exact same

/-- A text whose header names another algorithm is not accepted, whatever is behind the header. -/
theorem verify_ne_ok_of_algorithm {header rest : List Char} {document : Document} {now : Instant}
    (decoded : decodePart? header = some document)
    (other : Header.algorithm? document ≠ some "HS256") :
    authority.verify now (String.ofList (header ++ '.' :: rest)) ≠ .ok claims := by
  intro accepted
  obtain ⟨named, body, genuine⟩ := genuine_of_verify accepted
  have parts := genuine.toList_eq
  rw [String.toList_ofList] at parts
  obtain ⟨rfl, -⟩ :=
    dotted_inj (dot_not_mem_of_decodePart? decoded) genuine.dot_not_mem_header parts
  obtain ⟨bytes, found, isHeader, parsed, isNamed⟩ := genuine.named
  rw [isHeader] at decoded
  unfold decodePart? at decoded
  rw [Base64.decode?_encode Base64.url_isProper] at decoded
  obtain rfl : found = document := Option.some.inj (parsed.symm.trans decoded)
  exact other isNamed

/-- There is one failure. -/
theorem verify_eq_error {now : Instant}
    (notAccepted : ∀ claims, authority.verify now token ≠ .ok claims) :
    authority.verify now token = .error .invalidToken := by
  unfold verify at notAccepted ⊢
  split
  · next found isRead =>
      split
      · next inTime =>
          refine absurd ?_ (notAccepted found)
          simp only [isRead, if_pos inTime]
      · rfl
  · rfl

/-- The authority accepts nothing but what it stands behind, and no longer than it is good.

A text that is accepted is genuine, the second of its expiry is not over, and it is accepted at
every earlier time as well. A text that is not accepted fails in one way, and does so at every later
time. When a message is accepted with one signature, it is accepted with no other at any time,
whichever characters of the signature are changed, dropped or added. And when a header names
another algorithm, no text that begins with it is accepted, whatever it is signed with. -/
theorem acceptance_is_sound (authority : Authority) (token : String) (now : Instant) :
    (∀ claims, authority.verify now token = .ok claims →
      (∃ header body, authority.Genuine header body token claims) ∧
      now.seconds ≤ claims.expiresAt.seconds ∧
      ∀ earlier : Instant, earlier.nanos ≤ now.nanos →
        authority.verify earlier token = .ok claims) ∧
    (∀ error, authority.verify now token = .error error → error = .invalidToken ∧
      ∀ later : Instant, now.nanos ≤ later.nanos →
        authority.verify later token = .error .invalidToken) ∧
    (∀ message signature other claims, '.' ∉ signature → other ≠ signature →
      authority.verify now (String.ofList (message ++ '.' :: signature)) = .ok claims →
      ∀ clock, authority.verify clock (String.ofList (message ++ '.' :: other)) =
        .error .invalidToken) ∧
    (∀ header rest document, decodePart? header = some document →
      Header.algorithm? document ≠ some "HS256" →
      authority.verify now (String.ofList (header ++ '.' :: rest)) = .error .invalidToken) := by
  have downward {claims : Claims} {early late : Instant} (before : early.nanos ≤ late.nanos)
      (accepted : authority.verify late token = .ok claims) :
      authority.verify early token = .ok claims := by
    obtain ⟨isRead, isLater, inTime⟩ := verify_eq_ok_iff.mp accepted
    have sooner : early.seconds ≤ late.seconds := Int.ediv_le_ediv (by decide) before
    exact verify_eq_ok_iff.mpr ⟨isRead, isLater, sooner.trans inTime⟩
  refine ⟨fun claims accepted => ⟨genuine_of_verify accepted, (verify_eq_ok_iff.mp accepted).2.2,
    fun earlier before => downward before accepted⟩, fun error failed => ?_,
    fun message signature other claims noDot different accepted clock => ?_,
    fun header rest document decoded other => ?_⟩
  · have notAccepted : ∀ claims, authority.verify now token ≠ .ok claims := by
      intro claims accepted
      rw [failed] at accepted
      cases accepted
    refine ⟨?_, fun later after => verify_eq_error fun claims accepted =>
      notAccepted claims (downward after accepted)⟩
    exact Except.error.inj (failed.symm.trans (verify_eq_error notAccepted))
  · exact verify_eq_error fun found acceptedToo =>
      different (signature_unique noDot accepted acceptedToo)
  · exact verify_eq_error fun found => verify_ne_ok_of_algorithm decoded other

end Authority

end Countinghouse
