import Countinghouse.Proofs.Json.RoundTrip
import Countinghouse.Proofs.Text.Uuid
import Countinghouse.Proofs.Token.Base64
import Countinghouse.Token.Authority

/-!
# Tokens are read as they were written

The parts of a token hold no dot, so the dots between them are found again, and each part is
JSON that is read as it was written. Times are written in whole seconds: what is read is what was
written if the times of the claims are whole seconds with a date, which is `Claims.IsWhole`. The
claims of every token that is issued are.
-/

namespace Countinghouse

namespace Instant

@[simp] theorem seconds_ofSeconds (seconds : Int) : (ofSeconds seconds).seconds = seconds :=
  Int.mul_ediv_cancel seconds (by decide)

theorem ofSeconds?_eq_some_iff {seconds : Int} {instant : Instant} :
    ofSeconds? seconds = some instant ↔ HasDate seconds ∧ instant = ofSeconds seconds := by
  unfold ofSeconds?
  split <;> simp_all [eq_comm]

/-- The start of a second that has a date. -/
def IsWhole (instant : Instant) : Prop := ofSeconds? instant.seconds = some instant

instance (instant : Instant) : Decidable instant.IsWhole := by
  unfold IsWhole
  infer_instance

theorem isWhole_ofSeconds {seconds : Int} (hasDate : HasDate seconds) :
    (ofSeconds seconds).IsWhole := by
  unfold IsWhole
  rw [seconds_ofSeconds]
  exact ofSeconds?_eq_some_iff.mpr ⟨hasDate, rfl⟩

theorem IsWhole.hasDate {instant : Instant} (isWhole : instant.IsWhole) :
    HasDate instant.seconds :=
  (ofSeconds?_eq_some_iff.mp isWhole).1

theorem IsWhole.fits {instant : Instant} (isWhole : instant.IsWhole) :
    Reader.FitsNumber instant.seconds := by
  obtain ⟨least, greatest⟩ := isWhole.hasDate
  unfold earliestSecond at least
  unfold latestSecond at greatest
  constructor <;> omega

theorem IsWhole.eq {instant : Instant} (isWhole : instant.IsWhole) :
    instant = ofSeconds instant.seconds :=
  (ofSeconds?_eq_some_iff.mp isWhole).2

/-- A second is not over until a second has passed since it began. -/
theorem IsWhole.seconds_le_iff {instant : Instant} (isWhole : instant.IsWhole) (now : Instant) :
    now.seconds ≤ instant.seconds ↔ now.nanos < instant.nanos + nanosPerSecond := by
  have isStart : instant.nanos = instant.seconds * 1000000000 := congrArg nanos isWhole.eq
  rw [isStart]
  unfold seconds nanosPerSecond
  omega

end Instant

namespace TokenKind

theorem ofName?_name (kind : TokenKind) : ofName? kind.name = some kind := by
  cases kind <;> rfl

end TokenKind

namespace Claims

/-- The times of the claims can be written down without loss. -/
structure IsWhole (claims : Claims) : Prop where
  issuedAt : claims.issuedAt.IsWhole
  expiresAt : claims.expiresAt.IsWhole

theorem IsWhole.fits {claims : Claims} (isWhole : claims.IsWhole) : claims.toJson.Fits :=
  ⟨trivial, trivial, trivial, isWhole.issuedAt.fits, isWhole.expiresAt.fits, trivial⟩

/-- Claims are read from the document that they are written as. -/
theorem ofDocument?_toDocument {claims : Claims} (isWhole : claims.IsWhole) :
    ofDocument? claims.toJson.toDocument = some claims := by
  have issued : Instant.ofSeconds? claims.issuedAt.seconds = some claims.issuedAt :=
    isWhole.issuedAt
  have expires : Instant.ofSeconds? claims.expiresAt.seconds = some claims.expiresAt :=
    isWhole.expiresAt
  have kind : kindOf? (.text claims.kind.name) = some claims.kind := TokenKind.ofName?_name _
  simp [ofDocument?, toJson, Json.toDocument, Json.toFields, Document.hasKeysOnce, known,
    Document.under, Document.only?, Document.text?, Document.integer?, instantOf?, kind,
    Uuid.parse?_render, issued, expires]

end Claims

namespace Authority

/-- The last dot of a text is found if there is none after it. -/
theorem splitLast?_append (message : List Char) {last : List Char} (noDot : '.' ∉ last) :
    splitLast? (message ++ '.' :: last) = some (message, last) := by
  have isTail : ((message ++ '.' :: last).reverse.takeWhile (· != '.')).reverse = last := by
    rw [List.reverse_append, List.reverse_cons, List.append_assoc, List.singleton_append,
      List.takeWhile_append_of_pos]
    · simp
    · intro character member
      simp only [bne_iff_ne, ne_eq]
      rintro rfl
      exact noDot (List.mem_reverse.mp member)
  unfold splitLast?
  simp only [isTail]
  have isShort : last.length < (message ++ '.' :: last).length := by simp; omega
  have place : (message ++ '.' :: last).length - last.length - 1 = message.length := by simp; omega
  rw [if_pos isShort, place, List.take_left]

/-- A part of a token is read as the value that it was written for. -/
theorem decodePart?_encodePart {json : Json} (fits : json.Fits) :
    decodePart? (encodePart json) = some json.toDocument := by
  unfold decodePart? encodePart
  rw [Base64.decode?_encode Base64.url_isProper]
  exact Document.parse?_render fits

/-- The header that the authority writes is one that it accepts. -/
theorem isAccepted_header : Header.isAccepted Header.json.toDocument := by
  decide +kernel

variable {authority : Authority} {claims : Claims}

/-- A token says what it was written to say. -/
theorem read?_write (isWhole : claims.IsWhole) :
    authority.read? (authority.write claims).toList = some claims := by
  have header : decodePart? (encodePart Header.json) = some Header.json.toDocument :=
    decodePart?_encodePart ⟨trivial, trivial, trivial⟩
  have signed (message : List Char) :
      splitLast? (message ++ '.' :: authority.sign message) =
        some (message, authority.sign message) :=
    splitLast?_append message (Base64.dot_not_mem_encode _)
  have parts (first second : Json) : splitLast? (encodePart first ++ '.' :: encodePart second) =
      some (encodePart first, encodePart second) :=
    splitLast?_append _ (Base64.dot_not_mem_encode _)
  unfold read? write
  simp only [String.toList_ofList, signed, parts, Option.bind_eq_bind, Option.bind_some, header,
    isAccepted_header, guard_true, Option.pure_def, decodePart?_encodePart isWhole.fits,
    Claims.ofDocument?_toDocument isWhole]

/-- A token that the authority wrote is accepted until the second of its expiry is over, and for
what it is good for. -/
theorem verifyKind_write (isWhole : claims.IsWhole) (now : Instant) (kind : TokenKind) :
    authority.verifyKind now (authority.write claims) kind =
      if (0 ≤ claims.expiresAt.seconds ∧ now.seconds ≤ claims.expiresAt.seconds) ∧
        claims.kind = kind then .ok claims else .error .invalidToken := by
  unfold verifyKind verify
  rw [read?_write isWhole]
  by_cases inTime : 0 ≤ claims.expiresAt.seconds ∧ now.seconds ≤ claims.expiresAt.seconds
  · by_cases ofKind : claims.kind = kind
    · simp [inTime, ofKind]
    · simp [inTime, ofKind]
  · simp [inTime]

/-- A token expires when its lifetime is over, if that second has a date. -/
theorem expiry?_eq (authority : Authority) (now : Instant) (kind : TokenKind) :
    authority.expiry? now kind = Instant.ofSeconds? (now.seconds + authority.lifetime kind) := by
  have sameStart : (⟨now.truncate.nanos + authority.lifetime kind * Instant.nanosPerSecond⟩ :
      Instant) = .ofSeconds (now.seconds + authority.lifetime kind) :=
    congrArg Instant.mk (Int.add_mul ..).symm
  unfold expiry? Instant.addSeconds? Instant.ofSeconds?
  rw [sameStart, Instant.truncate, Instant.seconds_ofSeconds]

theorem expiry?_eq_some {now expiresAt : Instant} {kind : TokenKind}
    (expires : authority.expiry? now kind = some expiresAt) :
    Instant.HasDate (now.seconds + authority.lifetime kind) ∧
      expiresAt = .ofSeconds (now.seconds + authority.lifetime kind) := by
  rw [expiry?_eq] at expires
  exact Instant.ofSeconds?_eq_some_iff.mp expires

/-- What is claimed by a token that is issued. -/
theorem claims_eq_ok_iff {now : Instant} {id : Uuid} {kind : TokenKind} {username : String} :
    authority.claims now id kind username = .ok claims ↔
      ∃ expiresAt, authority.expiry? now kind = some expiresAt ∧
        claims = ⟨id, username, kind, now.truncate, expiresAt⟩ := by
  unfold Authority.claims
  cases authority.expiry? now kind with
  | none => simp
  | some expiresAt => simp [eq_comm]

theorem issue_eq_ok_iff {now : Instant} {id : Uuid} {kind : TokenKind} {username token : String} :
    authority.issue now id kind username = .ok (token, claims) ↔
      authority.claims now id kind username = .ok claims ∧ token = authority.write claims := by
  unfold issue
  cases authority.claims now id kind username with
  | error error => simp [Except.map]
  | ok issued =>
      simp only [Except.map, Except.ok.injEq, Prod.mk.injEq]
      constructor
      · rintro ⟨rfl, rfl⟩
        exact ⟨rfl, rfl⟩
      · rintro ⟨rfl, rfl⟩
        exact ⟨rfl, rfl⟩

/-- The claims of a token that is issued at an instant with a date can be written down without
loss. -/
theorem isWhole_of_claims {now : Instant} {id : Uuid} {kind : TokenKind} {username : String}
    (isDated : Instant.HasDate now.seconds)
    (issued : authority.claims now id kind username = .ok claims) : claims.IsWhole := by
  obtain ⟨expiresAt, expires, rfl⟩ := claims_eq_ok_iff.mp issued
  obtain ⟨hasDate, rfl⟩ := expiry?_eq_some expires
  exact ⟨Instant.isWhole_ofSeconds isDated, Instant.isWhole_ofSeconds hasDate⟩

theorem claims_isWhole {now : Instant} {id : Uuid} {kind : TokenKind} {username : String}
    (isRecent : 0 ≤ now.seconds)
    (issued : authority.claims now id kind username = .ok claims) : claims.IsWhole := by
  refine isWhole_of_claims ?_ issued
  obtain ⟨expiresAt, expires, rfl⟩ := claims_eq_ok_iff.mp issued
  obtain ⟨⟨-, greatest⟩, rfl⟩ := expiry?_eq_some expires
  have least : Instant.earliestSecond ≤ 0 := by decide
  exact ⟨least.trans isRecent, by omega⟩

end Authority

end Countinghouse
