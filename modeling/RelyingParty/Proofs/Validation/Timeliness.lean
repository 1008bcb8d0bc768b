import RelyingParty.Instant
import RelyingParty.Proofs.Json.Numeral
import RelyingParty.Proofs.Validation.Verdict

/-!
# Exact time limits

The times in a token are whole numbers of any size, the leeway and the greatest age are durations of
any length, and all of them are cut to the signed 64-bit range on the way. None of this is ever seen:
the limits are those of unbounded arithmetic, for a time that is not below that range.
-/

namespace RelyingParty.ClaimCheck

open Json Numeric

/-- The seconds of a duration that count. -/
theorem seconds_nonneg (duration : Duration) : 0 ≤ seconds duration := by
  unfold seconds int64Max
  omega

/-- A claim that is written as a whole number is a time of the signed 64-bit range. -/
theorem dates_iff {token : Token} {claim : Claim} {numeral : Numeral} {value : Value}
    (read : numeral.ReadsAs value) (written : token.claim? claim.name = some value) (time : Int) :
    token.Dates claim time ↔ clampInt64 numeral.value = time := by
  obtain ⟨number, rfl, hnumber⟩ := read.toInt64
  constructor
  · rintro ⟨found, hfound, rfl⟩
    obtain rfl : number = found := Value.number.inj (Option.some.inj (written.symm.trans hfound))
    exact hnumber.symm
  · rintro rfl
    exact ⟨number, written, hnumber⟩

/-- Cutting a time and its sum with a length of time to the signed 64-bit range moves the end of a
period over no moment before the end of the range. -/
theorem lt_clampInt64_add_iff (now : Int) {time length : Int} (early : now < int64Max)
    (low : int64Min ≤ time) (nonneg : 0 ≤ length) :
    now < clampInt64 (clampInt64 time + length) ↔ now < time + length := by
  rw [clampInt64_eq, clampInt64_eq]
  unfold int64Min int64Max at *
  omega

/-- A token whose expiration is written as a whole number has not expired at a moment exactly when the
moment is before the sum of the number and the leeway, and one whose authentication is written so is
recent enough exactly when the moment is not after the sum of the number, the greatest age and the
leeway. The sums are those of the integers. -/
theorem expiration_authTime_exact {numeral : Numeral} (low : int64Min ≤ numeral.value) {value : Value}
    (read : numeral.ReadsAs value) (requirements : Requirements) (token : Token) (now : Instant) :
    (token.claim? Claim.exp.name = some value →
      (expiration token now.second (seconds requirements.leeway) = .ok () ↔
        now.second < numeral.value + min (requirements.leeway.seconds : Int) int64Max)) ∧
    ∀ maxAge, requirements.maxAge = some maxAge →
      token.claim? Claim.authTime.name = some value →
      (authTime requirements token now.second (seconds requirements.leeway) = .ok () ↔
        now.second ≤ numeral.value + min (maxAge.seconds : Int) int64Max +
          min (requirements.leeway.seconds : Int) int64Max) := by
  have hearly := now.second_lt
  constructor
  · intro hwritten
    have hlimit := lt_clampInt64_add_iff now.second hearly low (seconds_nonneg requirements.leeway)
    refine judges_expiration.passed.trans (Iff.trans ?_ hlimit)
    simp only [Condition.Holds, dates_iff read hwritten, exists_eq_left']
  · intro maxAge hrequired hwritten
    have hsum : 0 ≤ seconds maxAge + seconds requirements.leeway :=
      Int.add_nonneg (seconds_nonneg maxAge) (seconds_nonneg requirements.leeway)
    -- a moment is not after a limit when the one a second before is before it
    have hlimit := lt_clampInt64_add_iff (now.second - 1) (by omega) low hsum
    rw [Int.sub_one_lt_iff, Int.sub_one_lt_iff, ← Int.add_assoc, ← Int.add_assoc] at hlimit
    refine judges_authTime.passed.trans (Iff.trans ?_ hlimit)
    simp only [Condition.Holds, hrequired, Option.some.injEq, forall_eq',
      dates_iff read hwritten, exists_eq_left']

/-- Times of twenty digits, which are beyond 64 bits and read as the binary number `2 ^ 64`, at the last
moment of all and with the longest leeway. -/
theorem expiration_authTime_exact_beyond_words :
    ∃ (numeral : Numeral) (value : Value) (requirements : Requirements) (token : Token)
      (now : Instant),
      numeral.value = 18446744073709551616 ∧ numeral.ReadsAs value ∧
      value.number? = some (.real ⟨false, 4503599627370496, 12⟩) ∧
      token.claims = [("exp", value), ("auth_time", value)] ∧
      expiration token now.second (seconds requirements.leeway) = .ok () ∧
      authTime requirements token now.second (seconds requirements.leeway) = .ok () := by
  let numeral : Numeral := ⟨false, 1, [8, 4, 4, 6, 7, 4, 4, 0, 7, 3, 7, 0, 9, 5, 5, 1, 6, 1, 6],
    by decide, by decide, by decide⟩
  have hnumber : (match Reader.value 126 ⟨numeral.bytes ++ [Reader.byte ','], ⟨1, 7⟩⟩ with
      | .ok value _ => value.number?
      | .error _ _ => none) = some (.real ⟨false, 4503599627370496, 12⟩) := by
    decide +kernel
  split at hnumber
  · next value reached hvalue =>
    have hends : Numeral.Ends [Reader.byte ','] := by
      rintro b ⟨⟩
      decide
    have hread : numeral.ReadsAs value := ⟨126, _, _, reached, hends, hvalue⟩
    have hexact := expiration_authTime_exact (by decide) hread
      { algorithm := .rs256, issuer := "i", audience := "c", nonce := none
        maxAge := some (.ofSeconds 0), leeway := ⟨UInt64.size * nanosPerSecond - 1, by decide⟩
        organization := none, issuer_nonBlank := by decide, audience_nonBlank := by decide
        nonce_nonBlank := by simp, organization_nonBlank := by simp }
      ⟨.rs256, none, [("exp", value), ("auth_time", value)]⟩
      { second := 8210266876799, nanos := 999999999 }
    exact ⟨_, _, _, _, _, by decide, hread, hnumber, rfl, (hexact.1 rfl).mpr (by decide),
      (hexact.2 _ rfl rfl).mpr (by decide)⟩
  · cases hnumber

end RelyingParty.ClaimCheck
