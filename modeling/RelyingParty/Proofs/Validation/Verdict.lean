import RelyingParty.ClaimCheck
import RelyingParty.Proofs.Token.Authentic

/-!
# The verdict of the claim checks

The claim checks accept a token exactly when nine conditions on its claims hold, which are stated
here about the values of the claims as they stand in the token. Otherwise the first condition that
does not hold decides, and each way in which it can fail has a claim and a message of its own.
-/

namespace RelyingParty

open Json Text Numeric

section Traversal

variable {α ε : Type} {check : α → Except ε Unit} {list : List α}

/-- A row of checks is passed exactly when each of them is. -/
theorem forM_eq_ok_iff : forM list check = .ok () ↔ ∀ x ∈ list, check x = .ok () := by
  induction list with
  | nil => simp [pure, Except.pure]
  | cons x rest ih =>
    rw [List.forM_cons, bind_eq_ok, List.forall_mem_cons, ih]
    exact ⟨fun ⟨_, hx, hrest⟩ => ⟨hx, hrest⟩, fun ⟨hx, hrest⟩ => ⟨(), hx, hrest⟩⟩

/-- A row of checks is failed by the first that is not passed, with its error. -/
theorem forM_eq_error_iff {error : ε} :
    forM list check = .error error ↔ ∃ before x after, list = before ++ x :: after ∧
      (∀ earlier ∈ before, check earlier = .ok ()) ∧ check x = .error error := by
  induction list with
  | nil => simp [pure, Except.pure]
  | cons x rest ih =>
    rw [List.forM_cons]
    cases hx : check x with
    | error other =>
      constructor
      · intro h
        cases h
        exact ⟨[], x, rest, rfl, fun _ hmem => (nomatch hmem), hx⟩
      · rintro ⟨before, y, after, hsplit, hbefore, hy⟩
        cases before with
        | nil =>
          obtain ⟨rfl, rfl⟩ := List.cons.inj hsplit
          exact congrArg Except.error (Except.error.inj (hx.symm.trans hy))
        | cons z before =>
          obtain ⟨rfl, rfl⟩ := List.cons.inj hsplit
          cases hx.symm.trans (hbefore x List.mem_cons_self)
    | ok _ =>
      refine ih.trans ⟨?_, ?_⟩
      · rintro ⟨before, y, after, rfl, hbefore, hy⟩
        exact ⟨x :: before, y, after, rfl, List.forall_mem_cons.mpr ⟨hx, hbefore⟩, hy⟩
      · rintro ⟨before, y, after, hsplit, hbefore, hy⟩
        cases before with
        | nil =>
          obtain ⟨rfl, rfl⟩ := List.cons.inj hsplit
          cases hx.symm.trans hy
        | cons z before =>
          obtain ⟨rfl, rfl⟩ := List.cons.inj hsplit
          exact ⟨before, y, after, rfl, (List.forall_mem_cons.mp hbefore).2, hy⟩

end Traversal

namespace Token

variable {token : Token} {claim : Claim}

/-- A claim of the token is a text that is not blank. -/
def Says (token : Token) (claim : Claim) (text : String) : Prop :=
  token.claim? claim.name = some (.string text) ∧ isBlank text = false

/-- A claim of the token is a number, which stands for a time in whole seconds. -/
def Dates (token : Token) (claim : Claim) (time : Int) : Prop :=
  ∃ number, token.claim? claim.name = some (.number number) ∧ number.toInt64 = time

/-- The token is meant for an audience: the claim is its name, or an array with its name. -/
def Addresses (token : Token) (audience : String) : Prop :=
  token.claim? Claim.aud.name = some (.string audience) ∨
    ∃ items, token.claim? Claim.aud.name = some (.array items) ∧ Value.string audience ∈ items

/-- The token is meant for two audiences that differ. -/
def AddressesSeveral (token : Token) : Prop :=
  ∃ one other, token.Addresses one ∧ token.Addresses other ∧ one ≠ other

theorem text?_eq_some_iff {text : String} :
    ClaimCheck.text? token claim = some text ↔ token.Says claim text := by
  simp only [ClaimCheck.text?, string?, Option.bind_eq_some_iff, nonBlank?_eq_some_iff, Says]
  constructor
  · rintro ⟨_, ⟨value, hvalue, hstring⟩, hblank, rfl⟩
    cases value with
    | string text =>
      obtain rfl := Option.some.inj hstring
      exact ⟨hvalue, hblank⟩
    | null | bool | number | array | object => cases hstring
  · rintro ⟨hvalue, hblank⟩
    exact ⟨text, ⟨_, hvalue, rfl⟩, hblank, rfl⟩

theorem text?_eq_none_iff :
    ClaimCheck.text? token claim = none ↔ ∀ text, ¬ token.Says claim text := by
  simp only [← text?_eq_some_iff, Option.eq_none_iff_forall_ne_some, ne_eq]

theorem numeric?_eq_some_iff {time : Int} :
    token.numeric? claim.name = some time ↔ token.Dates claim time := by
  simp only [numeric?, Option.map_eq_some_iff, Option.bind_eq_some_iff, Dates]
  constructor
  · rintro ⟨number, ⟨value, hvalue, hnumber⟩, htime⟩
    cases value with
    | number found =>
      obtain rfl := Option.some.inj hnumber
      exact ⟨found, hvalue, htime⟩
    | null | bool | string | array | object => cases hnumber
  · rintro ⟨number, hvalue, htime⟩
    exact ⟨number, ⟨_, hvalue, rfl⟩, htime⟩

theorem numeric?_eq_none_iff :
    token.numeric? claim.name = none ↔ ∀ time, ¬ token.Dates claim time := by
  simp only [← numeric?_eq_some_iff, Option.eq_none_iff_forall_ne_some, ne_eq]

/-- A time is a signed 64-bit number. -/
theorem Dates.range {time : Int} (h : token.Dates claim time) :
    int64Min ≤ time ∧ time ≤ int64Max := by
  obtain ⟨number, _, rfl⟩ := h
  cases number with
  | whole n => exact ⟨int64Min_le_clampInt64 n, clampInt64_le_int64Max n⟩
  | real x => exact ⟨int64Min_le_clampInt64 _, clampInt64_le_int64Max _⟩

theorem mem_audiences {audience : String} :
    audience ∈ token.audiences ↔ token.Addresses audience := by
  unfold audiences Addresses Claim.name
  split
  · next text hvalue => simp [hvalue, eq_comm]
  · next items hvalue =>
    simp only [mem_distinct, List.mem_filterMap, hvalue, Option.some.injEq, reduceCtorEq, false_or,
      Value.array.injEq, exists_eq_left']
    constructor
    · rintro ⟨value, hmem, hstring⟩
      cases value with
      | string text =>
        obtain rfl := Option.some.inj hstring
        exact hmem
      | null | bool | number | array | object => cases hstring
    · exact fun hmem => ⟨_, hmem, rfl⟩
  · next hstring harray =>
    refine ⟨fun hmem => (nomatch hmem), ?_⟩
    rintro (h | ⟨items, h, _⟩)
    · exact absurd h (hstring _)
    · exact absurd h (harray _)

theorem nodup_audiences (token : Token) : token.audiences.Nodup := by
  unfold audiences
  split
  · exact List.nodup_cons.mpr ⟨List.not_mem_nil, List.nodup_nil⟩
  · exact nodup_distinct _
  · exact List.nodup_nil

theorem audiences_eq_nil_iff : token.audiences = [] ↔ ∀ audience, ¬ token.Addresses audience := by
  simp only [← mem_audiences, List.eq_nil_iff_forall_not_mem]

/-- More than one audience is two that differ. -/
theorem length_audiences_le_one_iff : token.audiences.length ≤ 1 ↔ ¬ token.AddressesSeveral := by
  simp only [AddressesSeveral, ← mem_audiences]
  have hdistinct := token.nodup_audiences
  generalize token.audiences = audiences at hdistinct ⊢
  match audiences with
  | [] => simp
  | [one] => simp +contextual
  | one :: other :: rest =>
    refine ⟨fun h => by simp at h, fun h => absurd ⟨one, other, by simp, by simp, ?_⟩ h⟩
    rintro rfl
    simp at hdistinct

end Token

namespace ClaimCheck

/-- The conditions on the claims of a token. -/
inductive Condition where
  /-- The issuer is the one required. -/
  | issuer
  /-- There is a subject. -/
  | subject
  /-- The audience required is among the token's. -/
  | audience
  /-- The token has not expired. -/
  | expiration
  /-- There is a time of issue. -/
  | issuedAt
  /-- The nonce is the one required. -/
  | nonce
  /-- The authorized party is the audience required. -/
  | authorizedParty
  /-- The authentication is recent enough. -/
  | authTime
  /-- The organization is the one required. -/
  | organization
deriving DecidableEq, Repr

namespace Condition

/-- The conditions in the order in which they are checked. -/
def order : List Condition :=
  [issuer, subject, audience, expiration, issuedAt, nonce, authorizedParty, authTime, organization]

/-- Whether a condition holds. A sum of times stops at the ends of the signed 64-bit range. -/
def Holds (requirements : Requirements) (token : Token) (now : Int) : Condition → Prop
  | issuer => token.Says .iss requirements.issuer
  | subject => ∃ text, token.Says .sub text
  | audience => token.Addresses requirements.audience
  | expiration => ∃ time, token.Dates .exp time ∧
      now < clampInt64 (time + seconds requirements.leeway)
  | issuedAt => ∃ time, token.Dates .iat time
  | nonce => ∀ expected, requirements.nonce = some expected → token.Says .nonce expected
  | authorizedParty => token.AddressesSeveral → token.Says .azp requirements.audience
  | authTime => ∀ maxAge, requirements.maxAge = some maxAge → ∃ time, token.Dates .authTime time ∧
      now ≤ clampInt64 (time + seconds maxAge + seconds requirements.leeway)
  | organization => ∀ expected, requirements.organization = some expected →
      if organizationIdMark.isPrefixOf expected then token.Says .orgId expected
      else ∃ found, token.Says .orgName found ∧ lowercase found = lowercase expected

/-- The end of the message that a claim has another value than the one required. -/
def differs (expected found : String) : String :=
  " claim mismatch in the ID token; expected \"" ++ expected ++ "\", found \"" ++ found ++ "\"."

/-- The ways in which a condition fails, with the claim and the message that each is reported by. -/
inductive Rejects (requirements : Requirements) (token : Token) (now : Int) :
    Condition → Claim → String → Prop where
  /-- The issuer is missing. -/
  | noIssuer : (∀ text, ¬ token.Says .iss text) →
    Rejects requirements token now issuer .iss
      "Issuer (iss) claim must be a string present in the ID token."
  /-- The issuer is another. -/
  | otherIssuer {found : String} : token.Says .iss found → found ≠ requirements.issuer →
    Rejects requirements token now issuer .iss ("Issuer (iss)" ++ differs requirements.issuer found)
  /-- The subject is missing. -/
  | noSubject : (∀ text, ¬ token.Says .sub text) →
    Rejects requirements token now subject .sub
      "Subject (sub) claim must be a string present in the ID token."
  /-- There is no audience. -/
  | noAudience : (∀ audience, ¬ token.Addresses audience) →
    Rejects requirements token now audience .aud
      "Audience (aud) claim must be a string or array of strings present in the ID token."
  /-- All audiences are others. -/
  | otherAudience {other : String} : token.Addresses other →
    ¬ token.Addresses requirements.audience →
    Rejects requirements token now audience .aud
      ("Audience (aud) claim mismatch in the ID token; expected \"" ++ requirements.audience ++
        "\" but was not one of \"" ++ ", ".intercalate token.audiences ++ "\".")
  /-- The expiration time is missing. -/
  | noExpiration : (∀ time, ¬ token.Dates .exp time) →
    Rejects requirements token now expiration .exp
      "Expiration Time (exp) claim must be a number present in the ID token."
  /-- The expiration time has come. -/
  | expired {time : Int} : token.Dates .exp time →
    clampInt64 (time + seconds requirements.leeway) ≤ now →
    Rejects requirements token now expiration .exp
      ("Expiration Time (exp) claim error in the ID token; current time (" ++ toString now ++
        ") is after expiration time (" ++
        toString (clampInt64 (time + seconds requirements.leeway)) ++ ").")
  /-- The time of issue is missing. -/
  | noIssuedAt : (∀ time, ¬ token.Dates .iat time) →
    Rejects requirements token now issuedAt .iat
      "Issued At (iat) claim must be a number present in the ID token."
  /-- The nonce is missing. -/
  | noNonce {expected : String} : requirements.nonce = some expected →
    (∀ text, ¬ token.Says .nonce text) →
    Rejects requirements token now nonce .nonce
      "Nonce (nonce) claim must be a string present in the ID token."
  /-- The nonce is another. -/
  | otherNonce {expected found : String} : requirements.nonce = some expected →
    token.Says .nonce found → found ≠ expected →
    Rejects requirements token now nonce .nonce ("Nonce (nonce)" ++ differs expected found)
  /-- The authorized party is missing. -/
  | noAuthorizedParty : token.AddressesSeveral → (∀ text, ¬ token.Says .azp text) →
    Rejects requirements token now authorizedParty .azp
      ("Authorized Party (azp) claim must be a string present in the ID token " ++
        "when Audience (aud) claim has multiple values.")
  /-- The authorized party is another. -/
  | otherAuthorizedParty {found : String} : token.AddressesSeveral → token.Says .azp found →
    found ≠ requirements.audience →
    Rejects requirements token now authorizedParty .azp
      ("Authorized Party (azp)" ++ differs requirements.audience found)
  /-- The time of authentication is missing. -/
  | noAuthTime {maxAge : Duration} : requirements.maxAge = some maxAge →
    (∀ time, ¬ token.Dates .authTime time) →
    Rejects requirements token now authTime .authTime
      ("Authentication Time (auth_time) claim must be a number present in the ID token " ++
        "when Max Age (max_age) is specified.")
  /-- The authentication was too long ago. -/
  | authenticatedTooLongAgo {maxAge : Duration} {time : Int} : requirements.maxAge = some maxAge →
    token.Dates .authTime time →
    clampInt64 (time + seconds maxAge + seconds requirements.leeway) < now →
    Rejects requirements token now authTime .authTime
      ("Authentication Time (auth_time) claim in the ID token indicates that too much time " ++
        "has passed since the last end-user authentication. Current time (" ++ toString now ++
        ") is after last auth at (" ++
        toString (clampInt64 (time + seconds maxAge + seconds requirements.leeway)) ++ ").")
  /-- The identifier of the organization is missing. -/
  | noOrganizationId {expected : String} : requirements.organization = some expected →
    organizationIdMark.isPrefixOf expected = true → (∀ text, ¬ token.Says .orgId text) →
    Rejects requirements token now organization .orgId
      "Organization Id (org_id) claim must be a string present in the ID token."
  /-- The identifier of the organization is another. -/
  | otherOrganizationId {expected found : String} : requirements.organization = some expected →
    organizationIdMark.isPrefixOf expected = true → token.Says .orgId found → found ≠ expected →
    Rejects requirements token now organization .orgId
      ("Organization Id (org_id)" ++ differs expected found)
  /-- The name of the organization is missing. -/
  | noOrganizationName {expected : String} : requirements.organization = some expected →
    organizationIdMark.isPrefixOf expected = false → (∀ text, ¬ token.Says .orgName text) →
    Rejects requirements token now organization .orgName
      "Organization Name (org_name) claim must be a string present in the ID token."
  /-- The name of the organization is another. -/
  | otherOrganizationName {expected found : String} : requirements.organization = some expected →
    organizationIdMark.isPrefixOf expected = false → token.Says .orgName found →
    lowercase found ≠ lowercase expected →
    Rejects requirements token now organization .orgName
      ("Organization Name (org_name)" ++ differs expected found)

/-- The check of a condition. -/
def check (requirements : Requirements) (token : Token) (now : Int) : Condition → ClaimResult
  | issuer => ClaimCheck.issuer requirements token
  | subject => ClaimCheck.subject token
  | audience => ClaimCheck.audience requirements token
  | expiration => ClaimCheck.expiration token now (seconds requirements.leeway)
  | issuedAt => ClaimCheck.issuedAt token
  | nonce => ClaimCheck.nonce requirements token
  | authorizedParty => ClaimCheck.authorizedParty requirements token
  | authTime => ClaimCheck.authTime requirements token now (seconds requirements.leeway)
  | organization => ClaimCheck.organization requirements token

end Condition

/-- The checks are those of the conditions, in order. -/
theorem assert_eq_forM (requirements : Requirements) (token : Token) (now : Int) :
    assert requirements token now =
      forM Condition.order (Condition.check requirements token now) := by
  have hlast (result : ClaimResult) : (result >>= fun _ => .ok ()) = result := by
    cases result <;> rfl
  simp only [Condition.order, List.forM_cons, List.forM_nil, pure, Except.pure, hlast]
  rfl

/-- A check is passed when a condition holds, and is failed in the ways that are listed. -/
structure Judges (result : ClaimResult) (holds : Prop) (rejects : Claim → String → Prop) :
    Prop where
  /-- Passing the check is the condition. -/
  passed : result = .ok () ↔ holds
  /-- The check is failed with the claims and the messages that are listed. -/
  failed : ∀ claim message,
    (∃ fault, result = .error fault ∧ fault.claim = claim ∧ fault.message = message) ↔
      rejects claim message

section Judgement

variable {result : ClaimResult} {holds other : Prop} {rejects others : Claim → String → Prop}

theorem Judges.congr (h : Judges result holds rejects) (hholds : holds ↔ other)
    (hrejects : ∀ claim message, rejects claim message ↔ others claim message) :
    Judges result other others :=
  ⟨h.passed.trans hholds, fun claim message =>
    (h.failed claim message).trans (hrejects claim message)⟩

theorem judges_ok (hholds : holds) (hnever : ∀ claim message, ¬ rejects claim message) :
    Judges (.ok ()) holds rejects := by
  refine ⟨⟨fun _ => hholds, fun _ => rfl⟩, fun claim message => ⟨?_, fun h => ?_⟩⟩
  · rintro ⟨_, h, _⟩
    cases h
  · exact absurd h (hnever claim message)

theorem judges_error {fault : ClaimFault} (hfails : ¬ holds)
    (hreported : ∀ claim message,
      fault.claim = claim ∧ fault.message = message ↔ rejects claim message) :
    Judges (.error fault) holds rejects := by
  refine ⟨⟨fun h => (nomatch h), fun h => absurd h hfails⟩, fun claim message => ?_⟩
  rw [← hreported]
  constructor
  · rintro ⟨_, ⟨⟩, h⟩
    exact h
  · exact fun h => ⟨fault, rfl, h⟩

end Judgement

section Parts

variable {requirements : Requirements} {token : Token} {now : Int}

/-- The check of a claim that is read first: it fails in one way when the claim does not read as
anything, and in another when what it reads as is not accepted. -/
theorem judges_read {α : Type} {read : Option α} {has : α → Prop} {result : ClaimResult}
    (accepts : α → Prop) (absent : ClaimFault) (fault : α → ClaimFault)
    (hread : ∀ value, read = some value ↔ has value)
    (habsent : read = none → result = .error absent)
    (haccepted : ∀ value, has value → read = some value → accepts value → result = .ok ())
    (hrejected : ∀ value, has value → read = some value → ¬ accepts value →
      result = .error (fault value)) :
    Judges result (∃ value, has value ∧ accepts value) (fun claim message =>
      (∀ value, ¬ has value) ∧ absent.claim = claim ∧ absent.message = message ∨
        ∃ value, has value ∧ ¬ accepts value ∧
          (fault value).claim = claim ∧ (fault value).message = message) := by
  simp only [← hread] at haccepted hrejected ⊢
  cases hfound : read with
  | none =>
    rw [habsent hfound]
    exact judges_error (by simp) (by simp)
  | some value =>
    by_cases haccepts : accepts value
    · rw [haccepted value hfound hfound haccepts]
      exact judges_ok ⟨value, rfl, haccepts⟩ (by simp [haccepts])
    · rw [hrejected value hfound hfound haccepts]
      exact judges_error (by simp [haccepts]) (by simp [haccepts])

/-- The check of a text claim. -/
theorem judges_text (token : Token) (claim : Claim) (remark expected : String)
    (accepts : String → Bool) :
    Judges (text token claim remark expected accepts)
      (∃ found, token.Says claim found ∧ accepts found = true)
      (fun reported message =>
        (∀ found, ¬ token.Says claim found) ∧ claim = reported ∧
            (ClaimFault.missing claim remark).message = message ∨
          ∃ found, token.Says claim found ∧ ¬ accepts found = true ∧ claim = reported ∧
            (ClaimFault.mismatch claim expected found).message = message) := by
  refine judges_read (accepts · = true) (.missing claim remark) (.mismatch claim expected)
    (fun _ => Token.text?_eq_some_iff) (fun h => ?_) (fun found _ h haccepts => ?_)
    fun found _ h hrejects => ?_
  · simp only [text, h]
  · simp only [text, h, haccepts, if_true]
  · simp only [text, h, hrejects, Bool.false_eq_true, if_false]

theorem judges_issuer : Judges (issuer requirements token)
    (Condition.issuer.Holds requirements token now)
    (Condition.Rejects requirements token now .issuer) := by
  refine (judges_text ..).congr (by simp [Condition.Holds])
    fun reported message => ⟨?_, fun h => ?_⟩
  · rintro (⟨hnone, rfl, rfl⟩ | ⟨found, hsays, hother, rfl, rfl⟩)
    · exact .noIssuer hnone
    · exact .otherIssuer hsays (by simpa using hother)
  · cases h with
    | noIssuer hnone => exact Or.inl ⟨hnone, rfl, rfl⟩
    | otherIssuer hsays hother => exact Or.inr ⟨_, hsays, by simpa using hother, rfl, rfl⟩

theorem judges_subject : Judges (subject token)
    (Condition.subject.Holds requirements token now)
    (Condition.Rejects requirements token now .subject) := by
  unfold subject Condition.Holds
  cases htext : text? token .sub with
  | none =>
    have hnone := Token.text?_eq_none_iff.mp htext
    refine judges_error (not_exists.mpr hnone) fun reported message => ⟨?_, fun h => ?_⟩
    · rintro ⟨rfl, rfl⟩
      exact .noSubject hnone
    · cases h
      exact ⟨rfl, rfl⟩
  | some found =>
    have hsays := Token.text?_eq_some_iff.mp htext
    refine judges_ok ⟨found, hsays⟩ fun _ _ h => ?_
    cases h with
    | noSubject hnone => exact hnone found hsays

theorem judges_audience : Judges (audience requirements token)
    (Condition.audience.Holds requirements token now)
    (Condition.Rejects requirements token now .audience) := by
  unfold audience Condition.Holds
  by_cases hnil : token.audiences = []
  · have hnone := Token.audiences_eq_nil_iff.mp hnil
    simp only [hnil, List.isEmpty_nil, if_true]
    refine judges_error (hnone _) fun reported message => ⟨?_, fun h => ?_⟩
    · rintro ⟨rfl, rfl⟩
      exact .noAudience hnone
    · cases h with
      | noAudience _ => exact ⟨rfl, rfl⟩
      | otherAudience hother _ => exact absurd hother (hnone _)
  · obtain ⟨other, hother⟩ := List.exists_mem_of_ne_nil _ hnil
    have haddressed := Token.mem_audiences.mp hother
    simp only [List.isEmpty_iff, hnil, if_false]
    by_cases hholds : token.Addresses requirements.audience
    · rw [if_pos (List.contains_iff_mem.mpr (Token.mem_audiences.mpr hholds))]
      refine judges_ok hholds fun _ _ h => ?_
      cases h with
      | noAudience hnone => exact hnone other haddressed
      | otherAudience _ hfails => exact hfails hholds
    · rw [if_neg (mt List.contains_iff_mem.mp (mt Token.mem_audiences.mp hholds))]
      refine judges_error hholds fun reported message => ⟨?_, fun h => ?_⟩
      · rintro ⟨rfl, rfl⟩
        exact .otherAudience haddressed hholds
      · cases h with
        | noAudience hnone => exact absurd haddressed (hnone other)
        | otherAudience _ _ => exact ⟨rfl, rfl⟩

/-- The check of a time claim. -/
theorem judges_time (token : Token) (claim : Claim) {result : ClaimResult} (accepts : Int → Prop)
    (absent : ClaimFault) (fault : Int → ClaimFault)
    (habsent : token.numeric? claim.name = none → result = .error absent)
    (haccepted : ∀ time, token.Dates claim time → token.numeric? claim.name = some time →
      accepts time → result = .ok ())
    (hrejected : ∀ time, token.Dates claim time → token.numeric? claim.name = some time →
      ¬ accepts time → result = .error (fault time)) :
    Judges result (∃ time, token.Dates claim time ∧ accepts time) (fun reported message =>
      (∀ time, ¬ token.Dates claim time) ∧ absent.claim = reported ∧ absent.message = message ∨
        ∃ time, token.Dates claim time ∧ ¬ accepts time ∧
          (fault time).claim = reported ∧ (fault time).message = message) :=
  judges_read accepts absent fault (fun _ => Token.numeric?_eq_some_iff) habsent haccepted hrejected

theorem judges_expiration :
    Judges (expiration token now (seconds requirements.leeway))
      (Condition.expiration.Holds requirements token now)
      (Condition.Rejects requirements token now .expiration) := by
  refine (judges_time token .exp
    (fun time => now < clampInt64 (time + seconds requirements.leeway))
    (.missing .exp numberPresent)
    (fun time => .expired now (clampInt64 (time + seconds requirements.leeway)))
    (fun h => ?_) (fun time _ h hearly => ?_) fun time _ h hlate => ?_).congr Iff.rfl
    fun reported message => ⟨?_, fun h => ?_⟩
  · rw [expiration, show token.expiration? = none from h]
  · rw [expiration, show token.expiration? = some time from h]
    exact if_pos hearly
  · rw [expiration, show token.expiration? = some time from h]
    exact if_neg hlate
  · rintro (⟨hnone, rfl, rfl⟩ | ⟨time, hdates, hlate, rfl, rfl⟩)
    · exact .noExpiration hnone
    · exact .expired hdates (Int.not_lt.mp hlate)
  · cases h with
    | noExpiration hnone => exact Or.inl ⟨hnone, rfl, rfl⟩
    | expired hdates hlate => exact Or.inr ⟨_, hdates, Int.not_lt.mpr hlate, rfl, rfl⟩

theorem judges_issuedAt : Judges (issuedAt token)
    (Condition.issuedAt.Holds requirements token now)
    (Condition.Rejects requirements token now .issuedAt) := by
  unfold issuedAt Token.issuedAt? Condition.Holds
  cases hnumber : token.numeric? "iat" with
  | none =>
    have hnone : ∀ time, ¬ token.Dates .iat time := Token.numeric?_eq_none_iff.mp hnumber
    refine judges_error (not_exists.mpr hnone) fun reported message => ⟨?_, fun h => ?_⟩
    · rintro ⟨rfl, rfl⟩
      exact .noIssuedAt hnone
    · cases h
      exact ⟨rfl, rfl⟩
  | some time =>
    have hdates : token.Dates .iat time := Token.numeric?_eq_some_iff.mp hnumber
    refine judges_ok ⟨time, hdates⟩ fun _ _ h => ?_
    cases h with
    | noIssuedAt hnone => exact hnone time hdates

theorem judges_nonce : Judges (nonce requirements token)
    (Condition.nonce.Holds requirements token now)
    (Condition.Rejects requirements token now .nonce) := by
  unfold nonce Condition.Holds
  cases hrequired : requirements.nonce with
  | none =>
    refine judges_ok (fun _ h => nomatch h) fun _ _ h => ?_
    cases h with
    | noNonce h _ | otherNonce h _ _ => cases hrequired.symm.trans h
  | some expected =>
    refine (judges_text ..).congr (by simp) fun reported message => ⟨?_, fun h => ?_⟩
    · rintro (⟨hnone, rfl, rfl⟩ | ⟨found, hsays, hother, rfl, rfl⟩)
      · exact .noNonce hrequired hnone
      · exact .otherNonce hrequired hsays (by simpa using hother)
    · cases h with
      | noNonce _ hnone => exact Or.inl ⟨hnone, rfl, rfl⟩
      | otherNonce h hsays hother =>
        cases hrequired.symm.trans h
        exact Or.inr ⟨_, hsays, by simpa using hother, rfl, rfl⟩

theorem judges_authorizedParty : Judges (authorizedParty requirements token)
    (Condition.authorizedParty.Holds requirements token now)
    (Condition.Rejects requirements token now .authorizedParty) := by
  unfold authorizedParty Condition.Holds
  by_cases hseveral : token.AddressesSeveral
  · rw [if_neg (mt Token.length_audiences_le_one_iff.mp (not_not_intro hseveral))]
    refine (judges_text ..).congr (by simp [hseveral]) fun reported message => ⟨?_, fun h => ?_⟩
    · rintro (⟨hnone, rfl, rfl⟩ | ⟨found, hsays, hother, rfl, rfl⟩)
      · exact .noAuthorizedParty hseveral hnone
      · exact .otherAuthorizedParty hseveral hsays (by simpa using hother)
    · cases h with
      | noAuthorizedParty _ hnone => exact Or.inl ⟨hnone, rfl, rfl⟩
      | otherAuthorizedParty _ hsays hother =>
        exact Or.inr ⟨_, hsays, by simpa using hother, rfl, rfl⟩
  · rw [if_pos (Token.length_audiences_le_one_iff.mpr hseveral)]
    refine judges_ok (fun h => absurd h hseveral) fun _ _ h => ?_
    cases h with
    | noAuthorizedParty h _ | otherAuthorizedParty h _ _ => exact hseveral h

/-- Two sums that stop at the end of the range are one, since nothing is taken away. -/
theorem addSaturating_addSaturating {claim : Claim} {time : Int} (h : token.Dates claim time)
    (first second : Duration) :
    addSaturating (addSaturating time (seconds first)) (seconds second) =
      clampInt64 (time + seconds first + seconds second) := by
  have hfirst : 0 ≤ seconds first := by unfold seconds int64Max; omega
  have hsecond : 0 ≤ seconds second := by unfold seconds int64Max; omega
  obtain ⟨hlow, hhigh⟩ := h.range
  unfold addSaturating clampInt64
  unfold int64Min int64Max at *
  split <;> split <;> split <;> omega

theorem judges_authTime :
    Judges (authTime requirements token now (seconds requirements.leeway))
    (Condition.authTime.Holds requirements token now)
    (Condition.Rejects requirements token now .authTime) := by
  unfold authTime Condition.Holds
  cases hrequired : requirements.maxAge with
  | none =>
    refine judges_ok (fun _ h => nomatch h) fun _ _ h => ?_
    cases h with
    | noAuthTime h _ | authenticatedTooLongAgo h _ _ => cases hrequired.symm.trans h
  | some maxAge =>
    refine (judges_time token .authTime
      (fun time => now ≤ clampInt64 (time + seconds maxAge + seconds requirements.leeway))
      (.missing .authTime (numberPresent ++ " when Max Age (max_age) is specified"))
      (fun time => .authenticationTooOld now
        (clampInt64 (time + seconds maxAge + seconds requirements.leeway)))
      (fun h => ?_) (fun time hdates h hrecent => ?_) fun time hdates h hold => ?_).congr (by simp)
      fun reported message => ⟨?_, fun h => ?_⟩
    · rw [show token.authTime? = none from h]
    · simp only [show token.authTime? = some time from h, addSaturating_addSaturating hdates]
      exact if_pos hrecent
    · simp only [show token.authTime? = some time from h, addSaturating_addSaturating hdates]
      exact if_neg hold
    · rintro (⟨hnone, rfl, rfl⟩ | ⟨time, hdates, hold, rfl, rfl⟩)
      · exact .noAuthTime hrequired hnone
      · exact .authenticatedTooLongAgo hrequired hdates (Int.not_le.mp hold)
    · cases h with
      | noAuthTime _ hnone => exact Or.inl ⟨hnone, rfl, rfl⟩
      | authenticatedTooLongAgo h hdates hold =>
        cases hrequired.symm.trans h
        exact Or.inr ⟨_, hdates, Int.not_le.mpr hold, rfl, rfl⟩

theorem judges_organization : Judges (organization requirements token)
    (Condition.organization.Holds requirements token now)
    (Condition.Rejects requirements token now .organization) := by
  unfold organization Condition.Holds
  cases hrequired : requirements.organization with
  | none =>
    refine judges_ok (fun _ h => nomatch h) fun _ _ h => ?_
    cases h with
    | noOrganizationId h _ _ | otherOrganizationId h _ _ _ | noOrganizationName h _ _
    | otherOrganizationName h _ _ _ => cases hrequired.symm.trans h
  | some expected =>
    simp only [Option.some.injEq, forall_eq']
    cases hmark : organizationIdMark.isPrefixOf expected with
    | true =>
      refine (judges_text ..).congr (by simp) fun reported message => ⟨?_, fun h => ?_⟩
      · rintro (⟨hnone, rfl, rfl⟩ | ⟨found, hsays, hother, rfl, rfl⟩)
        · exact .noOrganizationId hrequired hmark hnone
        · exact .otherOrganizationId hrequired hmark hsays (by simpa using hother)
      · cases h with
        | noOrganizationId _ _ hnone => exact Or.inl ⟨hnone, rfl, rfl⟩
        | otherOrganizationId h _ hsays hother =>
          cases hrequired.symm.trans h
          exact Or.inr ⟨_, hsays, by simpa using hother, rfl, rfl⟩
        | noOrganizationName h hname _ | otherOrganizationName h hname _ _ =>
          cases hrequired.symm.trans h
          cases hmark.symm.trans hname
    | false =>
      refine (judges_text ..).congr (by simp) fun reported message => ⟨?_, fun h => ?_⟩
      · rintro (⟨hnone, rfl, rfl⟩ | ⟨found, hsays, hother, rfl, rfl⟩)
        · exact .noOrganizationName hrequired hmark hnone
        · exact .otherOrganizationName hrequired hmark hsays (by simpa using hother)
      · cases h with
        | noOrganizationId h hid _ | otherOrganizationId h hid _ _ =>
          cases hrequired.symm.trans h
          cases hmark.symm.trans hid
        | noOrganizationName _ _ hnone => exact Or.inl ⟨hnone, rfl, rfl⟩
        | otherOrganizationName h _ hsays hother =>
          cases hrequired.symm.trans h
          exact Or.inr ⟨_, hsays, by simpa using hother, rfl, rfl⟩

/-- Every check judges its condition. -/
theorem judges_check (requirements : Requirements) (token : Token) (now : Int)
    (condition : Condition) :
    Judges (condition.check requirements token now) (condition.Holds requirements token now)
      (Condition.Rejects requirements token now condition) := by
  cases condition with
  | issuer => exact judges_issuer
  | subject => exact judges_subject
  | audience => exact judges_audience
  | expiration => exact judges_expiration
  | issuedAt => exact judges_issuedAt
  | nonce => exact judges_nonce
  | authorizedParty => exact judges_authorizedParty
  | authTime => exact judges_authTime
  | organization => exact judges_organization

end Parts

/-- A token is accepted exactly when all conditions hold. It is rejected with a claim and a message
exactly when these tell how the first condition fails that does not hold. -/
theorem verdict (requirements : Requirements) (token : Token) (now : Int) :
    (assert requirements token now = .ok () ↔
      ∀ condition : Condition, condition.Holds requirements token now) ∧
    ∀ claim message,
      (∃ fault, assert requirements token now = .error fault ∧ fault.claim = claim ∧
        fault.message = message) ↔
      ∃ before condition after, Condition.order = before ++ condition :: after ∧
        (∀ earlier ∈ before, earlier.Holds requirements token now) ∧
        Condition.Rejects requirements token now condition claim message := by
  have hjudges := judges_check requirements token now
  simp only [assert_eq_forM]
  constructor
  · rw [forM_eq_ok_iff]
    constructor
    · intro h condition
      exact (hjudges condition).passed.mp (h condition (by cases condition <;> decide))
    · exact fun h condition _ => (hjudges condition).passed.mpr (h condition)
  · intro claim message
    simp only [forM_eq_error_iff, ← (hjudges _).passed, ← (hjudges _).failed]
    constructor
    · rintro ⟨fault, ⟨before, condition, after, hsplit, hbefore, hfault⟩, hreported⟩
      exact ⟨before, condition, after, hsplit, hbefore, fault, hfault, hreported⟩
    · rintro ⟨before, condition, after, hsplit, hbefore, fault, hfault, hreported⟩
      exact ⟨fault, ⟨before, condition, after, hsplit, hbefore, hfault⟩, hreported⟩

end ClaimCheck

end RelyingParty
