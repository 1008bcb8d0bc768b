import RelyingParty.Proofs.Run.Following
import RelyingParty.Proofs.Token.Malformed
import RelyingParty.Proofs.Validation.Inquiry

/-!
# Validating malformed tokens

A token that has neither an object nor an array for a header is rejected in the same words whatever
it is verified with. So no keys can lack the one that it names, and whoever validates it looks the
keys of the issuer up at most once, as old as they may be: a second lookup, for which they would have
to be younger, is never made. With an array it may be otherwise.
-/

namespace RelyingParty

open Text

namespace Validator

variable {ρ : Type}

/-- When no keys can lack the one for a token, they are looked up once. -/
theorem follows_lookUp {cache : String} {presentation : Presentation}
    {next : Validated → KeyCaller ρ} {retry : Retry} {window : Duration}
    (settles : ∀ found, Settles presentation found) (hnext : ∀ result, (next result).Follows []) :
    (lookUp cache presentation next retry window).Follows
      [(cache, presentation.requirements.issuer, window)] := by
  obtain ⟨after, heq, hafter⟩ := exists_lookUp_eq cache presentation next retry window
  rw [heq]
  refine ⟨[], rfl, fun id found => ?_⟩
  rcases hafter found with ⟨keys, kid, _, hkeys, hlacks, -⟩ | ⟨-, hlast⟩
  · exact absurd hlacks (settles found keys kid hkeys)
  · simp only [hlast]
    exact hnext _

theorem follows_assert {validator : Validator} {presentation : Presentation} {next : Validated → ρ}
    (settles : ∀ found, Settles presentation found) :
    (validator.assert presentation next).Follows
      [(validator.cache, presentation.requirements.issuer, validator.settings.keySetMaxAge)] := by
  unfold assert verify
  split
  · trivial
  split
  · trivial
  · exact follows_lookUp settles fun _ => trivial

end Validator

/-- A token whose header is not an object that may be one is rejected by every verifier in the same
words, and no run looks keys up for it a second time; the only exception is an array of at most two
strings or `null`s, which is compared like the object of its items. -/
theorem Pipeline.malformed {text : String}
    (malformed : ¬ Token.HasHeader text Header.IsObject) :
    ((∀ header, ¬ Token.HasHeader text fun bytes => Header.ArrayHeader bytes header) →
      (∀ verifier, Token.decode verifier text = .error Token.undecodable) ∧
      ∀ (documents : Documents) (events : List (Event ValidationError KeySet Reply)) (caller : Nat)
        (validator : Validator) (presentation : Presentation), presentation.token = text →
        (Event.started events)[caller]? = some (Inquiry.assert validator presentation).caller →
        (((opened documents).history events).lookupsBy caller).map Lookup.wanted <+:
          [(validator.cache, presentation.requirements.issuer, validator.settings.keySetMaxAge)]) ∧
    ∀ header, Token.HasHeader text (fun bytes => Header.ArrayHeader bytes header) →
      ∀ verifier, Token.decode verifier text = Token.arrayAnswer verifier header := by
  refine ⟨fun array => ⟨Token.decode_of_no_header malformed array, ?_⟩,
    fun header harray => Token.decode_of_array harray⟩
  rintro documents events caller validator presentation rfl started
  have hdecode := Token.decode_of_no_header malformed array
  have settles : ∀ found, Validator.Settles presentation found := by
    intro found keys kid _ hlacks
    simp only [Validator.asymmetric, hdecode] at hlacks
    cases hlacks
  exact Pipeline.follows started (Validator.follows_assert settles)

/-- A token with `null` for a header, which is validated with the keys of its issuer. -/
theorem Pipeline.malformed_null :
    let presentation : Presentation :=
      { requirements := {
          algorithm := .rs256, issuer := "i", audience := "c", nonce := none, maxAge := none
          leeway := .ofSeconds 60, organization := none
          issuer_nonBlank := by decide, audience_nonBlank := by decide
          nonce_nonBlank := by simp, organization_nonBlank := by simp }
        token := Token.segment "null" ++ "..", secret := none, now := 1 }
    let validator : Validator := ⟨.default, "keys"⟩
    let events : List (Event ValidationError KeySet Reply) :=
      [.start (Inquiry.assert validator presentation).caller, .poll 0]
    (∀ verifier, Token.decode verifier presentation.token = .error Token.undecodable) ∧
      (((opened []).history events).lookupsBy 0).map Lookup.wanted <+:
        [("keys", "i", Settings.default.keySetMaxAge)] := by
  intro presentation validator events
  let text := presentation.token
  have hheader : (Token.header text).toOption = none := by decide +kernel
  have hnone : ∀ found, ¬ Token.HasHeader text fun bytes => Header.ofBytes bytes = .ok found := by
    intro found h
    obtain ⟨segments, hread⟩ := Token.exists_header_eq_ok_iff.mpr h
    rw [hread] at hheader
    cases hheader
  have object : ¬ Token.HasHeader text Header.IsObject := by
    rintro ⟨bytes, payload, signature, hpayload, hsignature, htext, hobject⟩
    obtain ⟨found, hfound⟩ := Header.isObject_iff.mp hobject
    have hread : Header.ofBytes bytes = .ok found := Header.ofBytes_eq_ok.mpr (Or.inl hfound)
    exact hnone found ⟨bytes, payload, signature, hpayload, hsignature, htext, hread⟩
  have array : ∀ found, ¬ Token.HasHeader text fun bytes => Header.ArrayHeader bytes found :=
    fun found h => hnone found (h.mono fun bytes harray => Header.ofBytes_eq_ok.mpr (Or.inr harray))
  obtain ⟨hdecode, hlookups⟩ := (malformed object).1 array
  exact ⟨hdecode, hlookups [] events 0 validator presentation rfl rfl⟩

/-- A token whose header is an array is not an object's, and the verifier compares it. -/
theorem Token.unsupported_of_array :
    let text := Token.segment "[\"none\"]" ++ "." ++ Token.segment "\x7b\"sub\":\"s\"\x7d" ++ "." ++
      "2Fqptn-nNbePuHtfNiCzfJjx5rok1JR9xRbuDQOQDKU"
    ¬ Token.HasHeader text Header.IsObject ∧
      Token.decode (.symmetric "client-secret-that-is-long-enough-for-hs256") text =
        .error (.unsupportedAlgorithm "HS256" "none") ∧
      ValidationError.unsupportedAlgorithm "HS256" "none" ≠ Token.undecodable := by
  intro text
  have hheader : Token.header text = .ok (⟨Token.segment "[\"none\"]",
      Token.segment "\x7b\"sub\":\"s\"\x7d", "2Fqptn-nNbePuHtfNiCzfJjx5rok1JR9xRbuDQOQDKU"⟩,
      ⟨some "none", none⟩) := eq_ok_of_toOption (by decide +kernel)
  refine ⟨?_, (Token.screened_of_header hheader).unsupported _ (by decide), by decide⟩
  intro h
  obtain ⟨members, hobject, -⟩ := (Token.hasHeader_join (by decide +kernel) (by decide)).mp h
  exact absurd (Header.ahead_of_objectText hobject) (by decide +kernel)

end RelyingParty
