import Mathlib.Tactic.Common
import RelyingParty.Instant
import RelyingParty.Proofs.Validation.Verdict

/-!
# Acceptance and its limits

A token that is accepted would have been accepted at any earlier moment, and by any requirements that
ask for less. Once it is no longer accepted it has run out, by its own expiration or by the age of the
authentication, and is never accepted again.
-/

namespace RelyingParty

open Numeric

/-- Requirements ask for nothing that others do not ask for as well. -/
structure Requirements.Relaxes (relaxed strict : Requirements) : Prop where
  /-- The algorithm is the same. -/
  algorithm : relaxed.algorithm = strict.algorithm
  /-- The issuer is the same. -/
  issuer : relaxed.issuer = strict.issuer
  /-- The audience is the same. -/
  audience : relaxed.audience = strict.audience
  /-- The leeway is no shorter. -/
  leeway : strict.leeway.total ≤ relaxed.leeway.total
  /-- An authentication is allowed to be as old, or of any age. -/
  maxAge : ∀ age, relaxed.maxAge = some age →
    ∃ strictAge, strict.maxAge = some strictAge ∧ strictAge.total ≤ age.total
  /-- The nonce is the same, or none is required. -/
  nonce : relaxed.nonce = strict.nonce ∨ relaxed.nonce = none
  /-- The organization is the same, or none is required. -/
  organization : relaxed.organization = strict.organization ∨ relaxed.organization = none

theorem Requirements.Relaxes.refl (requirements : Requirements) :
    requirements.Relaxes requirements where
  algorithm := rfl
  issuer := rfl
  audience := rfl
  leeway := Nat.le_refl _
  maxAge := fun age h => ⟨age, h, Nat.le_refl _⟩
  nonce := Or.inl rfl
  organization := Or.inl rfl

namespace ClaimCheck

/-- A longer duration has no fewer seconds that count. -/
theorem seconds_mono {short long : Duration} (h : short.total ≤ long.total) :
    seconds short ≤ seconds long := by
  have hwhole : short.seconds ≤ long.seconds := Nat.div_le_div_right h
  unfold seconds
  omega

/-- A token is accepted when all conditions hold. -/
theorem assert_eq_ok_iff {requirements : Requirements} {token : Token} {now : Int} :
    assert requirements token now = .ok () ↔
      ∀ condition : Condition, condition.Holds requirements token now := by
  have hjudges := judges_check requirements token now
  rw [assert_eq_forM, forM_eq_ok_iff]
  constructor
  · intro h condition
    exact (hjudges condition).passed.mp (h condition (by cases condition <;> decide))
  · intro h condition _
    exact (hjudges condition).passed.mpr (h condition)

/-- A rejection is that of a condition that does not hold. -/
theorem exists_rejects_of_assert {requirements : Requirements} {token : Token} {now : Int}
    {fault : ClaimFault} (h : assert requirements token now = .error fault) :
    ∃ condition, ¬ condition.Holds requirements token now ∧
      Condition.Rejects requirements token now condition fault.claim fault.message := by
  rw [assert_eq_forM] at h
  obtain ⟨before, condition, after, _, _, hfault⟩ := forM_eq_error_iff.mp h
  have hjudges := judges_check requirements token now condition
  refine ⟨condition, fun holds => ?_, (hjudges.failed _ _).mp ⟨fault, hfault, rfl, rfl⟩⟩
  cases hfault.symm.trans (hjudges.passed.mpr holds)

namespace Condition

variable {strict relaxed : Requirements} {token : Token}

/-- Whether a condition depends on the moment. -/
def IsTimed (condition : Condition) : Prop := condition = expiration ∨ condition = authTime

/-- A condition that does not depend on the moment holds at any other. -/
theorem Holds.of_not_isTimed {condition : Condition} {now other : Int}
    (h : condition.Holds strict token now) (untimed : ¬ condition.IsTimed) :
    condition.Holds strict token other := by
  cases condition with
  | expiration => exact absurd (Or.inl rfl) untimed
  | authTime => exact absurd (Or.inr rfl) untimed
  | issuer | subject | audience | issuedAt | nonce | authorizedParty | organization => exact h

/-- A condition that holds does so at an earlier moment, for requirements that ask for less. -/
theorem Holds.relax {condition : Condition} {now earlier : Int}
    (h : condition.Holds strict token now) (relaxes : relaxed.Relaxes strict)
    (early : earlier ≤ now) : condition.Holds relaxed token earlier := by
  have hleeway := seconds_mono relaxes.leeway
  cases condition with
  | subject => exact h
  | issuedAt => exact h
  | issuer =>
    rw [Holds, relaxes.issuer]
    exact h
  | audience =>
    rw [Holds, relaxes.audience]
    exact h
  | authorizedParty =>
    rw [Holds, relaxes.audience]
    exact h
  | expiration =>
    obtain ⟨time, hdates, hbefore⟩ := h
    have hlimit : clampInt64 (time + seconds strict.leeway) ≤
        clampInt64 (time + seconds relaxed.leeway) := clampInt64_mono (by omega)
    exact ⟨time, hdates, by omega⟩
  | nonce =>
    intro expected hexpected
    rcases relaxes.nonce with hsame | hnone
    · exact h expected (hsame ▸ hexpected)
    · cases hnone.symm.trans hexpected
  | authTime =>
    intro age hage
    obtain ⟨strictAge, hstrict, hlonger⟩ := relaxes.maxAge age hage
    obtain ⟨time, hdates, hrecent⟩ := h strictAge hstrict
    have hseconds := seconds_mono hlonger
    have hlimit : clampInt64 (time + seconds strictAge + seconds strict.leeway) ≤
        clampInt64 (time + seconds age + seconds relaxed.leeway) := clampInt64_mono (by omega)
    exact ⟨time, hdates, by omega⟩
  | organization =>
    intro expected hexpected
    rcases relaxes.organization with hsame | hnone
    · exact h expected (hsame ▸ hexpected)
    · cases hnone.symm.trans hexpected

/-- A condition that depends on the moment is reported by one of the two claims with a limit. -/
theorem Rejects.claim_of_isTimed {condition : Condition} {now : Int} {claim : Claim}
    {message : String} (h : condition.Rejects strict token now claim message)
    (timed : condition.IsTimed) : claim = .exp ∨ claim = .authTime := by
  rcases timed with rfl | rfl
  · cases h <;> exact Or.inl rfl
  · cases h <;> exact Or.inr rfl

end Condition

/-- A token that is accepted at a moment is accepted at any earlier one, also when less is asked for.
When it is rejected at another moment it has run out by then, and it stays rejected from then on. -/
theorem monotone {strict : Requirements} {token : Token} {now : Instant}
    (accepted : assert strict token now.second = .ok ()) :
    (∀ relaxed : Requirements, relaxed.Relaxes strict → ∀ earlier : Instant, earlier ≤ now →
      assert relaxed token earlier.second = .ok ()) ∧
    ∀ (later : Instant) (fault : ClaimFault), assert strict token later.second = .error fault →
      (fault.claim = .exp ∨ fault.claim = .authTime) ∧
      ∀ last : Instant, later ≤ last → ∃ fault, assert strict token last.second = .error fault := by
  have hholds := assert_eq_ok_iff.mp accepted
  constructor
  · intro relaxed hrelaxes earlier hearlier
    exact assert_eq_ok_iff.mpr fun condition =>
      (hholds condition).relax hrelaxes (Instant.second_le hearlier)
  · intro later fault hfault
    obtain ⟨condition, hfails, hrejects⟩ := exists_rejects_of_assert hfault
    constructor
    · by_cases htimed : condition.IsTimed
      · exact hrejects.claim_of_isTimed htimed
      · exact absurd ((hholds condition).of_not_isTimed htimed) hfails
    · intro last hlast
      cases hresult : assert strict token last.second with
      | error other => exact ⟨other, rfl⟩
      | ok _ =>
        -- an acceptance later on would reach back to the rejection
        have hlater := assert_eq_ok_iff.mp hresult condition
        exact absurd (hlater.relax (.refl strict) (Instant.second_le hlast)) hfails

/-- A token in the last second before it expires, and at the next. -/
theorem monotone_expiring :
    let strict : Requirements := {
      algorithm := .rs256, issuer := "https://login.example", audience := "app"
      nonce := some "n-1", maxAge := some (.ofSeconds 300), leeway := .ofSeconds 60
      organization := some "org_1"
      issuer_nonBlank := by decide, audience_nonBlank := by decide
      nonce_nonBlank := by decide, organization_nonBlank := by decide }
    let relaxed : Requirements := {
      strict with
      nonce := none, maxAge := some (.ofSeconds 301), organization := none
      nonce_nonBlank := by simp, organization_nonBlank := by simp }
    let token : Token := ⟨.rs256, none, [("iss", .string "https://login.example"),
      ("sub", .string "s"), ("aud", .string "app"), ("exp", .number (.whole 1000)),
      ("iat", .number (.whole 800)), ("nonce", .string "n-1"), ("auth_time", .number (.whole 700)),
      ("org_id", .string "org_1")]⟩
    let now : Instant := { second := 1059, nanos := 999999999 }
    let earlier : Instant := { second := 1059, nanos := 0 }
    let later : Instant := { second := 1060, nanos := 0 }
    let last : Instant := { second := 1061, nanos := 0 }
    assert strict token now.second = .ok () ∧ relaxed.Relaxes strict ∧ earlier ≤ now ∧
      assert relaxed token earlier.second = .ok () ∧
      assert strict token later.second = .error (.expired 1060 1060) ∧ later ≤ last ∧
      ∃ fault, assert strict token last.second = .error fault := by
  intro strict relaxed token now earlier later last
  have haccepted : assert strict token now.second = .ok () := by decide +kernel
  have hrejected : assert strict token later.second = .error (.expired 1060 1060) := by
    decide +kernel
  have hrelaxes : relaxed.Relaxes strict :=
    ⟨rfl, rfl, rfl, Nat.le_refl _, by rintro _ ⟨⟩; exact ⟨_, rfl, by decide⟩, Or.inr rfl, Or.inr rfl⟩
  have hearlier : earlier ≤ now := Or.inr ⟨rfl, by decide⟩
  have hlast : later ≤ last := Or.inl (by decide)
  obtain ⟨hrelaxed, hlater⟩ := monotone haccepted
  exact ⟨haccepted, hrelaxes, hearlier, hrelaxed relaxed hrelaxes earlier hearlier, hrejected,
    hlast, (hlater later _ hrejected).2 last hlast⟩

end ClaimCheck

end RelyingParty
