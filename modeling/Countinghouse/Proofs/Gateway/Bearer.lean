import Countinghouse.Gateway.Request
import Countinghouse.Proofs.Token.Base64
import Countinghouse.Token.Authority
import Mathlib.Data.Option.Basic
import Mathlib.Order.Nat

/-!
# Tokens in requests

`Request.Says` is what a header of a request says, and `Request.Presents` what it is for a request
to present a token. Both are said of the headers as they stand, and the gateway reads just that.
Every token that an authority writes can be presented.
-/

namespace Countinghouse

/-! ## What a request presents -/

namespace Request

variable {request : Request} {name : String} {text : List Char} {token : String}

/-- The first of the headers of a name is a visible text. -/
def Says (request : Request) (name : String) (text : List Char) : Prop :=
  ∃ before bytes after, request.headers = before ++ (name, bytes) :: after ∧
    (∀ header ∈ before, header.1 ≠ name) ∧
    (∀ byte ∈ bytes, byte = 9 ∨ 32 ≤ byte ∧ byte < 127) ∧
    text = bytes.map fun byte => Char.ofNat byte.toNat

/-- The request presents a text as its token: behind the scheme `bearer`, in any case, and a
blank. -/
def Presents (request : Request) (token : String) : Prop :=
  ∃ scheme credential, request.Says "authorization" (scheme ++ ' ' :: credential) ∧
    scheme.map Char.toLower = "bearer".toList ∧ token = String.ofList (trim credential)

theorem header?_eq_some_iff {value : String} :
    request.header? name = some value ↔ request.Says name value.toList := by
  unfold header?
  simp only [Option.bind_eq_bind, Option.bind_eq_some_iff, List.find?_eq_some_iff_append,
    Option.guard_eq_some', Option.pure_def, Option.some.injEq, exists_const, Prod.exists,
    beq_iff_eq, Bool.not_eq_eq_eq_not, Bool.not_true, beq_eq_false_iff_ne, List.all_eq_true,
    Bool.or_eq_true, Bool.and_eq_true, decide_eq_true_eq]
  constructor
  · rintro ⟨found, bytes, ⟨rfl, before, after, whole, isFirst⟩, visible, rfl⟩
    exact ⟨before, bytes, after, whole, isFirst, visible, String.toList_ofList⟩
  · rintro ⟨before, bytes, after, whole, isFirst, visible, same⟩
    exact ⟨name, bytes, ⟨rfl, before, after, whole, isFirst⟩, visible,
      by rw [← same, String.ofList_toList]⟩

theorem Says.header?_eq (isText : request.Says name text) :
    request.header? name = some (String.ofList text) :=
  header?_eq_some_iff.mpr (by rwa [String.toList_ofList])

theorem authorization_of_silent (silent : ∀ text, ¬ request.Says "authorization" text) :
    request.authorization = .missing := by
  unfold authorization
  cases found : request.header? "authorization" with
  | none => rfl
  | some value => exact absurd (header?_eq_some_iff.mp found) (silent _)

theorem authorization_ne_missing (isText : request.Says "authorization" text) :
    request.authorization ≠ .missing := by
  unfold authorization
  rw [isText.header?_eq]
  dsimp only
  split <;> exact Authorization.noConfusion

/-- What is before the first blank of a text, and what is after it. -/
theorem split_at_blank {text : List Char}
    (isSome : text.drop ((text.takeWhile (· != ' ')).length + 1) ≠ []) :
    text = text.takeWhile (· != ' ') ++
      ' ' :: text.drop ((text.takeWhile (· != ' ')).length + 1) := by
  induction text with
  | nil => exact absurd rfl isSome
  | cons character rest inductionHypothesis =>
      by_cases isBlank : character = ' '
      · subst isBlank
        simp
      · rw [List.takeWhile_cons_of_pos (by simpa using isBlank)] at isSome ⊢
        simp only [List.length_cons, List.drop_succ_cons] at isSome ⊢
        exact congrArg (character :: ·) (inductionHypothesis isSome)

/-- There is no blank in a scheme. -/
theorem takeWhile_scheme {scheme credential : List Char}
    (isBearer : scheme.map Char.toLower = "bearer".toList) :
    (scheme ++ ' ' :: credential).takeWhile (· != ' ') = scheme := by
  rw [List.takeWhile_append_of_pos]
  · simp
  · intro character member
    have lower : Char.toLower character ∈ "bearer".toList :=
      isBearer ▸ List.mem_map_of_mem member
    simp only [bne_iff_ne, ne_eq]
    rintro rfl
    exact absurd lower (by decide)

/-- A request presents one token at most. -/
theorem Presents.unique {other : String} (presents : request.Presents token)
    (presentsToo : request.Presents other) : token = other := by
  obtain ⟨scheme, credential, isText, isBearer, rfl⟩ := presents
  obtain ⟨otherScheme, otherCredential, isOtherText, isBearerToo, rfl⟩ := presentsToo
  have same : scheme ++ ' ' :: credential = otherScheme ++ ' ' :: otherCredential :=
    String.ofList_injective (Option.some.inj (isText.header?_eq.symm.trans isOtherText.header?_eq))
  have sameScheme : scheme = otherScheme := by
    rw [← takeWhile_scheme isBearer, same, takeWhile_scheme isBearerToo]
  subst sameScheme
  rw [(List.cons.inj (List.append_cancel_left same)).2]

theorem toLower_ofList_eq_iff {scheme : List Char} {word : String} :
    (String.ofList scheme).toLower = word ↔ scheme.map Char.toLower = word.toList := by
  have isMap : (String.ofList scheme).toLower = (String.ofList scheme).map Char.toLower := rfl
  rw [← String.toList_inj, isMap, String.toList_map, String.toList_ofList]

theorem presents_of_bearer (bearer : request.authorization = .bearer token) :
    request.Presents token := by
  unfold authorization at bearer
  cases found : request.header? "authorization" with
  | none =>
      rw [found] at bearer
      cases bearer
  | some value =>
      rw [found] at bearer
      dsimp only at bearer
      split at bearer
      · next isBearer =>
          obtain ⟨isScheme, isSome⟩ := isBearer
          refine ⟨_, _, ?_, toLower_ofList_eq_iff.mp isScheme,
            (Authorization.bearer.inj bearer).symm⟩
          rw [← split_at_blank isSome]
          exact header?_eq_some_iff.mp found
      · cases bearer

theorem bearer_of_presents (presents : request.Presents token) (isSome : token ≠ "") :
    request.authorization = .bearer token := by
  obtain ⟨scheme, credential, isText, isBearer, rfl⟩ := presents
  have isCredential : credential ≠ [] := by
    rintro rfl
    exact isSome rfl
  have rest : (scheme ++ ' ' :: credential).drop (scheme.length + 1) = credential := by
    simp [List.drop_append]
  unfold authorization
  rw [isText.header?_eq]
  simp only [String.toList_ofList, takeWhile_scheme isBearer, toLower_ofList_eq_iff.mpr isBearer,
    rest]
  exact if_pos ⟨trivial, isCredential⟩

end Request

/-! ## A token in a header -/

/-- A character that is neither blank nor out of sight. -/
def IsGraphic (character : Char) : Prop := 32 < character.toNat ∧ character.toNat < 127

theorem Base64.graphic_encode (bytes : List UInt8) :
    ∀ character ∈ encode url bytes, IsGraphic character := by
  have graphic : ∀ sextet < 64, 32 < (url.character sextet).toNat ∧
      (url.character sextet).toNat < 127 := by decide
  intro character member
  rw [encode_eq] at member
  obtain ⟨sextet, isSextet, rfl⟩ := List.mem_map.mp member
  exact graphic sextet (sextets_lt bytes sextet isSextet)

theorem Authority.graphic_write (authority : Authority) (claims : Claims) :
    ∀ character ∈ (authority.write claims).toList, IsGraphic character := by
  intro character member
  simp only [Authority.write, String.toList_ofList, List.mem_append, List.mem_cons] at member
  rcases member with (inHeader | rfl | inBody) | rfl | inSignature
  · exact Base64.graphic_encode _ character inHeader
  · exact ⟨by decide, by decide⟩
  · exact Base64.graphic_encode _ character inBody
  · exact ⟨by decide, by decide⟩
  · exact Base64.graphic_encode _ character inSignature

namespace Request

variable {token : String}

theorem trim_of_graphic {text : List Char} (graphic : ∀ character ∈ text, IsGraphic character) :
    trim text = text := by
  have kept {part : List Char} (graphic : ∀ character ∈ part, IsGraphic character) :
      (part.dropWhile fun character => character == ' ' || character == '\t') = part := by
    cases part with
    | nil => rfl
    | cons character rest =>
        obtain ⟨visible, -⟩ := graphic character List.mem_cons_self
        refine List.dropWhile_cons_of_neg ?_
        simp only [Bool.or_eq_true, beq_iff_eq, not_or]
        constructor
        · rintro rfl
          exact absurd visible (by decide)
        · rintro rfl
          exact absurd visible (by decide)
  unfold trim
  dsimp only
  rw [kept graphic, kept fun character member => graphic character (List.mem_reverse.mp member),
    List.reverse_reverse]

/-- A request that carries a text as its token, and nothing else in its headers. -/
def carrying (request : Request) (token : String) : Request :=
  { request with
    headers := [("authorization",
      ("Bearer ".toList ++ token.toList).map fun character => UInt8.ofNat character.toNat)] }

theorem presents_carrying (request : Request)
    (graphic : ∀ character ∈ token.toList, IsGraphic character) :
    (request.carrying token).Presents token := by
  have inScheme : ∀ character ∈ "Bearer ".toList,
      32 ≤ character.toNat ∧ character.toNat < 127 := by simp
  have small : ∀ character ∈ "Bearer ".toList ++ token.toList,
      32 ≤ character.toNat ∧ character.toNat < 127 := by
    intro character member
    rcases List.mem_append.mp member with first | second
    · exact inScheme character first
    · exact ⟨(graphic character second).1.le, (graphic character second).2⟩
  have kept : ∀ character ∈ "Bearer ".toList ++ token.toList,
      (UInt8.ofNat character.toNat).toNat = character.toNat := by
    intro character member
    rw [UInt8.toNat_ofNat']
    exact Nat.mod_eq_of_lt ((small character member).2.trans (by decide))
  refine ⟨"Bearer".toList, token.toList, ⟨[], _, [], rfl, by simp, ?_, ?_⟩, by decide, ?_⟩
  · intro byte member
    obtain ⟨character, isOne, rfl⟩ := List.mem_map.mp member
    obtain ⟨low, high⟩ := small character isOne
    rw [UInt8.le_iff_toNat_le, UInt8.lt_iff_toNat_lt, kept character isOne]
    exact .inr ⟨low, high⟩
  · rw [List.map_map]
    symm
    refine (List.map_congr_left fun character member => ?_).trans (List.map_id _)
    rw [Function.comp_apply, kept character member, Char.ofNat_toNat, id]
  · rw [trim_of_graphic graphic, String.ofList_toList]

end Request

end Countinghouse
