import Mathlib.Tactic.Common
import RelyingParty.Proofs.Requirements.Amendments
import RelyingParty.Proofs.Validation.Relaxation

/-!
# Requirements as they are stated

Requirements are what the last amendment of each kind says, and a token that they accept bears out
each text that was asked for. Every check is passed by a value that stands in the token and is no
blank text, so nothing blank takes the place of what is required, and nothing blank is required.
-/

namespace RelyingParty

open Json Text

/-- The value is no blank text. -/
def Json.Value.NonBlank (value : Value) : Prop := ∀ text, value = .string text → ¬ Blank text

theorem Json.Value.nonBlank_string {text : String} (h : isBlank text = false) :
    (Value.string text).NonBlank := by
  rintro _ ⟨⟩
  exact not_blank_iff.mpr h

namespace Token

/-- The values that a claim holds out to a check. -/
inductive Offers (token : Token) (claim : Claim) : Value → Prop where
  /-- The claim itself. -/
  | whole {value : Value} : token.claim? claim.name = some value → Offers token claim value
  /-- One of several audiences. -/
  | audience {items : List Value} {value : Value} : claim = .aud →
    token.claim? claim.name = some (.array items) → value ∈ items → Offers token claim value

/-- A token bears out what was stated: what was asked for stands in it, and is not blank. -/
structure Confirms (token : Token) (issuer audience : String) (amendments : List Amendment) :
    Prop where
  /-- The token was issued by the issuer. -/
  issuer : token.Offers .iss (.string issuer) ∧ ¬ Blank issuer
  /-- The token is meant for the audience. -/
  audience : token.Offers .aud (.string audience) ∧ ¬ Blank audience
  /-- The nonce is the last that was set, unless that is blank. -/
  nonce : ∀ value, Amendment.IsLast amendments (.nonce value) → ¬ Blank value →
    token.Offers .nonce (.string value)
  /-- The organization is the last that was set, unless that is blank. -/
  organization : ∀ value, Amendment.IsLast amendments (.organization value) → ¬ Blank value →
    if ClaimCheck.organizationIdMark.isPrefixOf value then token.Offers .orgId (.string value)
    else ∃ found, token.Offers .orgName (.string found) ∧ ¬ Blank found ∧
      lowercase found = lowercase value

theorem Addresses.offers {token : Token} {audience : String} (h : token.Addresses audience) :
    token.Offers .aud (.string audience) := by
  rcases h with hvalue | ⟨items, hvalue, hmem⟩
  · exact .whole hvalue
  · exact .audience rfl hvalue hmem

end Token

namespace ClaimCheck

variable {requirements : Requirements} {token : Token} {now : Int} {condition : Condition}

/-- The claim that a condition examines, and the values that it may be satisfied by. -/
inductive Condition.Examines (requirements : Requirements) (token : Token) :
    Condition → Claim → (Value → Prop) → Prop where
  /-- The issuer has to be the one required. -/
  | issuer : Examines requirements token .issuer .iss (· = .string requirements.issuer)
  /-- The subject may be any text. -/
  | subject : Examines requirements token .subject .sub fun value => ∃ text, value = .string text
  /-- One of the audiences has to be the one required. -/
  | audience : Examines requirements token .audience .aud (· = .string requirements.audience)
  /-- The expiration time has to be a number. -/
  | expiration : Examines requirements token .expiration .exp
      fun value => ∃ number, value = .number number
  /-- The time of issue has to be a number. -/
  | issuedAt : Examines requirements token .issuedAt .iat
      fun value => ∃ number, value = .number number
  /-- The nonce has to be the one required. -/
  | nonce {expected : String} : requirements.nonce = some expected →
    Examines requirements token .nonce .nonce (· = .string expected)
  /-- With several audiences, the authorized party has to be the audience required. -/
  | authorizedParty : token.AddressesSeveral →
    Examines requirements token .authorizedParty .azp (· = .string requirements.audience)
  /-- With a greatest age, the time of authentication has to be a number. -/
  | authTime {maxAge : Duration} : requirements.maxAge = some maxAge →
    Examines requirements token .authTime .authTime fun value => ∃ number, value = .number number
  /-- An organization that is required by its identifier has to have that. -/
  | organizationId {expected : String} : requirements.organization = some expected →
    organizationIdMark.isPrefixOf expected = true →
    Examines requirements token .organization .orgId (· = .string expected)
  /-- An organization that is required by its name has to have that, but for upper case. -/
  | organizationName {expected : String} : requirements.organization = some expected →
    organizationIdMark.isPrefixOf expected = false →
    Examines requirements token .organization .orgName
      fun value => ∃ found, value = .string found ∧ lowercase found = lowercase expected

/-- A claim that says a text passes for whatever accepts the text. -/
theorem exists_offer_of_says {claim : Claim} {text : String} {accepts : Value → Prop}
    (h : token.Says claim text) (accepted : accepts (.string text)) :
    ∃ value, token.Offers claim value ∧ accepts value ∧ value.NonBlank :=
  ⟨_, .whole h.1, accepted, Value.nonBlank_string h.2⟩

/-- A claim that is a time passes for whatever accepts numbers. -/
theorem exists_offer_of_dates {claim : Claim} {time : Int} (h : token.Dates claim time) :
    ∃ value, token.Offers claim value ∧ (∃ number, value = .number number) ∧ value.NonBlank := by
  obtain ⟨number, hvalue, _⟩ := h
  exact ⟨_, .whole hvalue, ⟨number, rfl⟩, fun _ htext => nomatch htext⟩

/-- A condition holds by a value that may satisfy it, and never by a blank text. -/
theorem Condition.Examines.exists_offer {claim : Claim} {accepts : Value → Prop}
    (h : condition.Examines requirements token claim accepts)
    (holds : condition.Holds requirements token now) :
    ∃ value, token.Offers claim value ∧ accepts value ∧ value.NonBlank := by
  cases h with
  | issuer => exact exists_offer_of_says holds rfl
  | subject =>
    obtain ⟨text, hsays⟩ := holds
    exact exists_offer_of_says hsays ⟨text, rfl⟩
  | audience =>
    -- blank audiences may stand beside the one required, which is not blank itself
    have haddressed : token.Addresses requirements.audience := holds
    exact ⟨_, haddressed.offers, rfl, Value.nonBlank_string requirements.audience_nonBlank⟩
  | expiration =>
    obtain ⟨_, hdates, _⟩ := holds
    exact exists_offer_of_dates hdates
  | issuedAt =>
    obtain ⟨_, hdates⟩ := holds
    exact exists_offer_of_dates hdates
  | nonce hrequired => exact exists_offer_of_says (holds _ hrequired) rfl
  | authorizedParty hseveral => exact exists_offer_of_says (holds hseveral) rfl
  | authTime hrequired =>
    obtain ⟨_, hdates, _⟩ := holds _ hrequired
    exact exists_offer_of_dates hdates
  | organizationId hrequired hmark =>
    have hsays := holds _ hrequired
    rw [if_pos hmark] at hsays
    exact exists_offer_of_says hsays rfl
  | organizationName hrequired hmark =>
    have hnamed := holds _ hrequired
    rw [if_neg (Bool.eq_false_iff.mp hmark)] at hnamed
    obtain ⟨found, hsays, hsame⟩ := hnamed
    exact exists_offer_of_says hsays ⟨found, rfl, hsame⟩

/-- A token that is accepted bears out what the requirements were stated to be. -/
theorem confirms_of_assert {algorithm : Algorithm} {issuer audience : String}
    {amendments : List Amendment}
    (reflects : requirements.Reflects algorithm issuer audience amendments)
    (accepted : assert requirements token now = .ok ()) :
    token.Confirms issuer audience amendments := by
  have holds := assert_eq_ok_iff.mp accepted
  constructor
  case issuer =>
    obtain ⟨_, hoffers, rfl, hblank⟩ := Condition.Examines.issuer.exists_offer (holds .issuer)
    rw [reflects.issuer] at hoffers hblank
    exact ⟨hoffers, hblank _ rfl⟩
  case audience =>
    obtain ⟨_, hoffers, rfl, hblank⟩ := Condition.Examines.audience.exists_offer (holds .audience)
    rw [reflects.audience] at hoffers hblank
    exact ⟨hoffers, hblank _ rfl⟩
  case nonce =>
    intro value hlast hblank
    have hrequired := (reflects.nonce value).mpr ⟨hlast, hblank⟩
    obtain ⟨_, hoffers, rfl, _⟩ := (Condition.Examines.nonce hrequired).exists_offer (holds .nonce)
    exact hoffers
  case organization =>
    intro value hlast hblank
    have hrequired := (reflects.organization value).mpr ⟨hlast, hblank⟩
    cases hmark : organizationIdMark.isPrefixOf value with
    | true =>
      obtain ⟨_, hoffers, rfl, _⟩ :=
        (Condition.Examines.organizationId hrequired hmark).exists_offer (holds .organization)
      exact hoffers
    | false =>
      obtain ⟨_, hoffers, ⟨found, rfl, hsame⟩, hblank⟩ :=
        (Condition.Examines.organizationName hrequired hmark).exists_offer (holds .organization)
      exact ⟨found, hoffers, hblank _ rfl, hsame⟩

end ClaimCheck

namespace Requirements

open Amendment ClaimCheck

/-- There are requirements exactly when neither the issuer nor the audience is blank, and of two
blank texts the issuer is reported. They ask for what the last amendment of each kind sets, so that
the order of amendments of different kinds does not matter. A token that they accept bears this out,
and no check is passed by a blank text. -/
theorem stated_and_reflects (algorithm : Algorithm) (issuer audience : String)
    (amendments : List Amendment) :
    ((∃ requirements, stated algorithm issuer audience amendments = .ok requirements) ↔
      ¬ Blank issuer ∧ ¬ Blank audience) ∧
    (∀ message,
      (∃ error, stated algorithm issuer audience amendments = .error error ∧
        error.message = message) ↔ Refusal issuer audience message) ∧
    (∀ others, Reorders amendments others →
      stated algorithm issuer audience others = stated algorithm issuer audience amendments) ∧
    ∀ requirements, stated algorithm issuer audience amendments = .ok requirements →
      requirements.Reflects algorithm issuer audience amendments ∧
      ∀ token now,
        (assert requirements token now = .ok () → token.Confirms issuer audience amendments) ∧
        ∀ (condition : Condition) claim accepts,
          condition.Examines requirements token claim accepts →
          condition.check requirements token now = .ok () →
          ∃ value, token.Offers claim value ∧ accepts value ∧ value.NonBlank := by
  refine ⟨exists_stated_iff, fun _ => exists_error_iff_refusal, fun _ => stated_of_reorders, ?_⟩
  intro requirements hstated
  have hreflects := reflects_of_stated hstated
  refine ⟨hreflects, fun token now => ⟨confirms_of_assert hreflects, ?_⟩⟩
  intro condition claim accepts hexamines hpassed
  exact hexamines.exists_offer ((judges_check requirements token now condition).passed.mp hpassed)

/-- A nonce that is set to white space after all, an organization that is first required by its
identifier and then by its name, and a token of that organization. -/
theorem stated_and_reflects_overridden :
    let amendments : List Amendment := [.nonce "n-1", .organization "org_7",
      .maxAge (.ofSeconds 300), .nonce "\u2003\u3000", .leeway (.ofSeconds 5), .organization "Acme"]
    let others : List Amendment := [.leeway (.ofSeconds 5), .organization "org_7", .nonce "n-1",
      .organization "Acme", .nonce "\u2003\u3000", .maxAge (.ofSeconds 300)]
    let token : Token := ⟨.rs256, none, [("iss", .string "https://login.example"),
      ("sub", .string "s"), ("aud", .array [.string " ", .string "app"]),
      ("exp", .number (.whole 1000)), ("iat", .number (.whole 800)), ("azp", .string "app"),
      ("auth_time", .number (.whole 700)), ("org_name", .string "ACME")]⟩
    Reorders amendments others ∧
    (∃ error, stated .rs256 "\u00A0" "" amendments = .error error ∧
      error.message = "issuer is required and must not be blank") ∧
    ∃ requirements, stated .rs256 "https://login.example" "app" amendments = .ok requirements ∧
      stated .rs256 "https://login.example" "app" others = .ok requirements ∧
      requirements.nonce = none ∧ requirements.organization = some "Acme" ∧
      requirements.leeway = .ofSeconds 5 ∧
      assert requirements token 900 = .ok () ∧
      token.Confirms "https://login.example" "app" amendments ∧
      ∃ value, token.Offers .orgName value ∧
        (∃ found, value = .string found ∧ lowercase found = lowercase "Acme") ∧
        value.NonBlank := by
  intro amendments others token
  have hreorders : Reorders amendments others := by
    intro kind
    cases kind <;> rfl
  obtain ⟨-, -, hothers, hstated⟩ :=
    stated_and_reflects .rs256 "https://login.example" "app" amendments
  let requirements : Requirements := {
    algorithm := .rs256, issuer := "https://login.example", audience := "app", nonce := none
    maxAge := some (.ofSeconds 300), leeway := .ofSeconds 5, organization := some "Acme"
    issuer_nonBlank := by decide, audience_nonBlank := by decide
    nonce_nonBlank := by simp, organization_nonBlank := by decide }
  have hfound : stated .rs256 "https://login.example" "app" amendments = .ok requirements := by
    rw [stated, Statement.build, dif_neg (by decide), dif_neg (by decide)]
    rfl
  have haccepted : assert requirements token 900 = .ok () := by decide +kernel
  obtain ⟨hconfirms, hpassed⟩ := (hstated requirements hfound).2 token 900
  refine ⟨hreorders, ?_, requirements, hfound, (hothers others hreorders).trans hfound, rfl, rfl,
    rfl, haccepted, hconfirms haccepted, ?_⟩
  · have hrefused := (stated_and_reflects .rs256 "\u00A0" "" amendments).2.1
    exact (hrefused _).mpr (.issuer (blank_iff.mpr (by decide)))
  · exact hpassed .organization .orgName _ (.organizationName rfl (by decide +kernel))
      (by decide +kernel)

end Requirements

end RelyingParty
