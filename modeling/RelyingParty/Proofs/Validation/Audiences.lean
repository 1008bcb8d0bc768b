import Mathlib.Tactic.Common
import RelyingParty.Proofs.Validation.Verdict

/-!
# The set of audiences

Nothing about the audiences of a token matters to the claim checks but which they are: not the form of
the claim, the order of its items, how often one is repeated, nor items that are not texts. They are
listed at their first places, each once, and the authorized party is looked at exactly when there is
more than one of them.
-/

namespace RelyingParty

open Json Text

section Order

variable {α β : Type}

/-- One of two items comes before every occurrence of the other. -/
def Precedes (list : List α) (one other : α) : Prop :=
  ∃ before after, list = before ++ one :: after ∧ other ∉ before

theorem Precedes.cons {list : List α} {one other : α} (h : Precedes list one other) {head : α}
    (hother : other ≠ head) : Precedes (head :: list) one other := by
  obtain ⟨before, after, rfl, hbefore⟩ := h
  exact ⟨head :: before, after, rfl, List.not_mem_cons_of_ne_of_not_mem hother hbefore⟩

/-- The order of what items are read as is that of the items. -/
theorem Precedes.of_filterMap {list : List α} {read : α → Option β} {one other : β} {item next : α}
    (h : Precedes (list.filterMap read) one other) (hitem : ∀ x, read x = some one → x = item)
    (hnext : read next = some other) : Precedes list item next := by
  obtain ⟨before, after, hlist, hbefore⟩ := h
  obtain ⟨front, back, rfl, rfl, hback⟩ := List.filterMap_eq_append_iff.mp hlist
  obtain ⟨skipped, found, rest, rfl, hskipped, hfound, _⟩ := List.filterMap_eq_cons_iff.mp hback
  obtain rfl := hitem found hfound
  refine ⟨front ++ skipped, rest, by simp, ?_⟩
  rw [List.mem_append, not_or]
  constructor
  · intro hmem
    exact hbefore (List.mem_filterMap.mpr ⟨next, hmem, hnext⟩)
  · intro hmem
    rw [hskipped next hmem] at hnext
    cases hnext

end Order

/-- The claims that are checked have different names. -/
theorem Claim.name_injective {claim other : Claim} (h : claim.name = other.name) :
    claim = other := by
  have hnamed : ∀ claim : Claim, ofName? claim.name = some claim := by
    intro claim
    cases claim <;> rfl
  exact Option.some.inj (by rw [← hnamed claim, h, hnamed other])

namespace Token

variable {token other : Token}

/-- Texts that are listed once stand in the order of their first places. -/
theorem pairwise_distinct (texts : List String) :
    (distinct texts).Pairwise (Precedes texts) := by
  induction texts with
  | nil => exact List.Pairwise.nil
  | cons text rest ih =>
    rw [distinct, List.pairwise_cons]
    constructor
    · intro later _
      exact ⟨[], rest, rfl, List.not_mem_nil⟩
    · rw [List.pairwise_filter]
      apply ih.imp
      intro one next hprecedes _ hnext
      exact hprecedes.cons (by simpa using hnext)

theorem eq_string_of_string? {value : Value} {text : String} (h : value.string? = some text) :
    value = .string text := by
  cases value with
  | string found => exact congrArg Value.string (Option.some.inj h)
  | null | bool | number | array | object => cases h

/-- The audiences of a token are listed each once, and in the order of their first places in the
claim. -/
structure ListsAudiences (token : Token) : Prop where
  /-- None is listed twice. -/
  nodup : token.audiences.Nodup
  /-- Those are listed whom the token is meant for. -/
  mem : ∀ audience, audience ∈ token.audiences ↔ token.Addresses audience
  /-- Of two in an array the one that comes first is listed first. -/
  ordered : ∀ items, token.claim? Claim.aud.name = some (.array items) →
    token.audiences.Pairwise fun one next => Precedes items (.string one) (.string next)

theorem listsAudiences (token : Token) : token.ListsAudiences where
  nodup := token.nodup_audiences
  mem _ := mem_audiences
  ordered items hitems := by
    have hlist : token.audiences = distinct (items.filterMap Value.string?) := by
      rw [audiences, show token.claim? "aud" = some (.array items) from hitems]
    rw [hlist]
    apply (pairwise_distinct _).imp
    intro one next hprecedes
    exact hprecedes.of_filterMap (fun _ => eq_string_of_string?) rfl

/-- Two tokens have the same claims, but for the one with a name. -/
def AgreesBut (token other : Token) (name : String) : Prop :=
  ∀ claim, claim ≠ name → token.claim? claim = other.claim? claim

/-- Two tokens have the same claims but for their audiences, and these are the same set. -/
structure SameAudiences (token other : Token) : Prop where
  /-- All other claims are the same. -/
  agrees : token.AgreesBut other Claim.aud.name
  /-- Who is an audience of the one is one of the other. -/
  audiences : ∀ audience, token.Addresses audience ↔ other.Addresses audience

theorem AgreesBut.addresses {name : String} (h : token.AgreesBut other name)
    (hname : Claim.aud.name ≠ name) (audience : String) :
    token.Addresses audience ↔ other.Addresses audience := by
  simp only [Addresses, h _ hname]

theorem addressesSeveral_congr
    (h : ∀ audience, token.Addresses audience ↔ other.Addresses audience) :
    token.AddressesSeveral ↔ other.AddressesSeveral := by
  simp only [AddressesSeveral, h]

/-- The token with another authorized party, or without one. -/
def withAuthorizedParty (token : Token) (party : Option String) : Token :=
  { token with
    claims := match party with
      | some text => token.claims.put Claim.azp.name (.string text)
      | none => token.claims.erase Claim.azp.name }

theorem agreesBut_withAuthorizedParty (token : Token) (party : Option String) :
    token.AgreesBut (token.withAuthorizedParty party) Claim.azp.name := by
  intro claim hclaim
  cases party with
  | some text => simp only [withAuthorizedParty, claim?, Keyed.find?_put, if_neg hclaim]
  | none => simp only [withAuthorizedParty, claim?, Keyed.find?_erase, if_neg hclaim]

theorem text?_withAuthorizedParty (token : Token) (party : Option String) :
    ClaimCheck.text? (token.withAuthorizedParty party) .azp = party.bind nonBlank? := by
  cases party with
  | some text =>
    simp only [ClaimCheck.text?, string?, withAuthorizedParty, claim?, Keyed.find?_put, if_true,
      Option.bind_some, Value.string?]
  | none =>
    simp only [ClaimCheck.text?, string?, withAuthorizedParty, claim?, Keyed.find?_erase, if_true,
      Option.bind_none]

end Token

/-- Two checks come out alike: both are passed, or both are failed on the same claim. -/
def ClaimResult.Alike (one other : ClaimResult) : Prop :=
  one = .ok () ∧ other = .ok () ∨
    ∃ fault again, one = .error fault ∧ other = .error again ∧ fault.claim = again.claim

namespace ClaimCheck

variable {requirements : Requirements} {token other : Token} {now : Int}

theorem alike_refl (result : ClaimResult) : result.Alike result := by
  cases result with
  | ok _ => exact Or.inl ⟨rfl, rfl⟩
  | error fault => exact Or.inr ⟨fault, fault, rfl, rfl, rfl⟩

/-- Two rows of checks come out alike when they do so check by check. -/
theorem alike_forM {α : Type} {list : List α} {check again : α → ClaimResult}
    (h : ∀ x ∈ list, (check x).Alike (again x)) :
    ClaimResult.Alike (forM list check) (forM list again) := by
  induction list with
  | nil => exact alike_refl _
  | cons x rest ih =>
    rw [List.forM_cons, List.forM_cons]
    rcases h x List.mem_cons_self with ⟨hone, hother⟩ | ⟨fault, error, hone, hother, hclaim⟩
    · rw [hone, hother]
      exact ih fun y hy => h y (List.mem_cons_of_mem _ hy)
    · rw [hone, hother]
      exact Or.inr ⟨fault, error, rfl, rfl, hclaim⟩

/-- The audience required is among those of a token when it is one of the set. -/
theorem alike_audience (same : token.SameAudiences other) :
    (audience requirements token).Alike (audience requirements other) := by
  have hmem : ∀ audience, audience ∈ token.audiences ↔ audience ∈ other.audiences := by
    intro audience
    rw [Token.mem_audiences, Token.mem_audiences, same.audiences]
  have hempty : token.audiences.isEmpty = other.audiences.isEmpty := by
    rw [Bool.eq_iff_iff, List.isEmpty_iff, List.isEmpty_iff, Token.audiences_eq_nil_iff,
      Token.audiences_eq_nil_iff]
    simp only [same.audiences]
  have hcontains : token.audiences.contains requirements.audience =
      other.audiences.contains requirements.audience := by
    rw [Bool.eq_iff_iff, List.contains_iff_mem, List.contains_iff_mem, hmem]
  unfold audience
  simp only [hempty, hcontains]
  split
  · exact alike_refl _
  · split
    · exact alike_refl _
    · exact Or.inr ⟨_, _, rfl, rfl, rfl⟩

/-- The check of the authorized party, by the set of audiences. -/
theorem authorizedParty_eq (requirements : Requirements) (token : Token)
    [Decidable token.AddressesSeveral] :
    authorizedParty requirements token =
      if token.AddressesSeveral then
        text token .azp (stringPresent ++ " when Audience (aud) claim has multiple values")
          requirements.audience (· == requirements.audience)
      else .ok () := by
  unfold authorizedParty
  by_cases hseveral : token.AddressesSeveral
  · rw [if_pos hseveral, if_neg (mt Token.length_audiences_le_one_iff.mp (not_not_intro hseveral))]
  · rw [if_neg hseveral, if_pos (Token.length_audiences_le_one_iff.mpr hseveral)]

/-- The claims that a condition is about. -/
def Condition.claims : Condition → List Claim
  | issuer => [.iss]
  | subject => [.sub]
  | audience => [.aud]
  | expiration => [.exp]
  | issuedAt => [.iat]
  | nonce => [.nonce]
  | authorizedParty => [.aud, .azp]
  | authTime => [.authTime]
  | organization => [.orgId, .orgName]

/-- A check looks at nothing but the claims that its condition is about. -/
theorem check_congr {condition : Condition}
    (h : ∀ claim ∈ condition.claims, token.claim? claim.name = other.claim? claim.name) :
    condition.check requirements token now = condition.check requirements other now := by
  have htext : ∀ claim ∈ condition.claims, text? token claim = text? other claim := by
    intro claim hclaim
    simp only [text?, Token.string?, h claim hclaim]
  have hnumeric : ∀ claim ∈ condition.claims,
      token.numeric? claim.name = other.numeric? claim.name := by
    intro claim hclaim
    simp only [Token.numeric?, h claim hclaim]
  have haudiences : Claim.aud ∈ condition.claims → token.audiences = other.audiences := by
    intro hclaim
    unfold Token.audiences
    rw [show token.claim? "aud" = other.claim? "aud" from h .aud hclaim]
  cases condition with
  | issuer => simp only [Condition.check, issuer, text, htext .iss (by decide)]
  | subject => simp only [Condition.check, subject, htext .sub (by decide)]
  | audience => simp only [Condition.check, audience, haudiences (by decide)]
  | expiration =>
    have htime : token.expiration? = other.expiration? := hnumeric .exp (by decide)
    simp only [Condition.check, expiration, htime]
  | issuedAt =>
    have htime : token.issuedAt? = other.issuedAt? := hnumeric .iat (by decide)
    simp only [Condition.check, issuedAt, htime]
  | nonce => simp only [Condition.check, nonce, text, htext .nonce (by decide)]
  | authorizedParty =>
    simp only [Condition.check, authorizedParty, text, htext .azp (by decide),
      haudiences (by decide)]
  | authTime =>
    have htime : token.authTime? = other.authTime? := hnumeric .authTime (by decide)
    simp only [Condition.check, authTime, htime]
  | organization =>
    simp only [Condition.check, organization, text, htext .orgId (by decide),
      htext .orgName (by decide)]

/-- Tokens that agree but for one claim are checked alike for what is not about it. -/
theorem check_of_agreesBut {claim : Claim} (agrees : token.AgreesBut other claim.name)
    {condition : Condition} (apart : claim ∉ condition.claims) :
    condition.check requirements token now = condition.check requirements other now := by
  apply check_congr
  intro read hread
  apply agrees
  intro hname
  rw [Claim.name_injective hname] at hread
  exact apart hread

/-- Every check comes out alike for tokens with the same set of audiences. -/
theorem alike_check (same : token.SameAudiences other) (condition : Condition) :
    (condition.check requirements token now).Alike (condition.check requirements other now) := by
  by_cases haudience : Claim.aud ∈ condition.claims
  · cases condition with
    | audience => exact alike_audience same
    | authorizedParty =>
      classical
      have htext : text? token .azp = text? other .azp := by
        simp only [text?, Token.string?, same.agrees Claim.azp.name (by decide)]
      simp only [Condition.check, authorizedParty_eq, text, htext,
        Token.addressesSeveral_congr same.audiences]
      exact alike_refl _
    | issuer | subject | expiration | issuedAt | nonce | authTime | organization =>
      simp [Condition.claims] at haudience
  · rw [check_of_agreesBut same.agrees haudience]
    exact alike_refl _

/-- Without several audiences no check depends on the authorized party. -/
theorem check_of_single (agrees : token.AgreesBut other Claim.azp.name)
    (single : ¬ token.AddressesSeveral) (condition : Condition) :
    condition.check requirements token now = condition.check requirements other now := by
  by_cases hparty : condition = Condition.authorizedParty
  · classical
    subst hparty
    have hother := mt (Token.addressesSeveral_congr (agrees.addresses (by decide))).mpr single
    simp only [Condition.check, authorizedParty_eq, if_neg single, if_neg hother]
  · apply check_of_agreesBut agrees
    cases condition with
    | authorizedParty => exact absurd rfl hparty
    | issuer | subject | audience | expiration | issuedAt | nonce | authTime | organization =>
      decide

/-- With several audiences some other authorized party is judged differently. -/
theorem exists_authorizedParty_ne (several : token.AddressesSeveral) :
    ∃ other, token.AgreesBut other Claim.azp.name ∧
      authorizedParty requirements other ≠ authorizedParty requirements token := by
  classical
  have hseveral (party : Option String) : (token.withAuthorizedParty party).AddressesSeveral :=
    (Token.addressesSeveral_congr
      ((token.agreesBut_withAuthorizedParty party).addresses (by decide))).mp several
  by_cases hsays : text? token .azp = some requirements.audience
  · refine ⟨token.withAuthorizedParty none, token.agreesBut_withAuthorizedParty none, ?_⟩
    simp [authorizedParty_eq, several, hseveral, text, hsays, Token.text?_withAuthorizedParty]
  · refine ⟨token.withAuthorizedParty (some requirements.audience),
      token.agreesBut_withAuthorizedParty _, ?_⟩
    have hgiven : nonBlank? requirements.audience = some requirements.audience :=
      nonBlank?_eq_some_iff.mpr ⟨requirements.audience_nonBlank, rfl⟩
    simp only [authorizedParty_eq, if_pos several, if_pos (hseveral _), text,
      Token.text?_withAuthorizedParty, Option.bind_some, hgiven, beq_self_eq_true, if_true]
    cases hfound : text? token .azp with
    | none => simp
    | some found =>
      have hother : (found == requirements.audience) = false := by
        apply beq_eq_false_iff_ne.mpr
        rintro rfl
        exact hsays hfound
      simp [hother]

/-- The condition on the authorized party is reported by that claim. -/
theorem Condition.Rejects.claim_eq_azp {claim : Claim} {message : String}
    (h : Condition.authorizedParty.Rejects requirements token now claim message) :
    claim = .azp := by
  cases h <;> rfl

/-- A token that satisfies every other condition is rejected for its authorized party unless this is
the audience required. -/
theorem exists_fault_of_authorizedParty
    (others : ∀ condition, condition ≠ Condition.authorizedParty →
      condition.Holds requirements token now)
    (fails : ¬ Condition.authorizedParty.Holds requirements token now) :
    ∃ fault, assert requirements token now = .error fault ∧ fault.claim = .azp := by
  have hjudges := judges_check requirements token now
  cases hresult : Condition.authorizedParty.check requirements token now with
  | ok _ => exact absurd ((hjudges .authorizedParty).passed.mp hresult) fails
  | error fault =>
    refine ⟨fault, ?_, ?_⟩
    · rw [assert_eq_forM, forM_eq_error_iff]
      refine ⟨[.issuer, .subject, .audience, .expiration, .issuedAt, .nonce], .authorizedParty,
        [.authTime, .organization], rfl, ?_, hresult⟩
      intro earlier hearlier
      apply (hjudges earlier).passed.mpr
      apply others
      rintro rfl
      simp at hearlier
    · exact (((hjudges .authorizedParty).failed _ _).mp ⟨fault, hresult, rfl, rfl⟩).claim_eq_azp

/-- The authorized party of a token is looked at exactly when there are several audiences. -/
structure ExaminesParty (requirements : Requirements) (token : Token) (now : Int) : Prop where
  /-- The check comes out otherwise for some other authorized party exactly when there are several
  audiences. -/
  depends : (∃ other, token.AgreesBut other Claim.azp.name ∧
    authorizedParty requirements other ≠ authorizedParty requirements token) ↔
      token.AddressesSeveral
  /-- With one audience or none the verdict is the same for every authorized party. -/
  ignored : ¬ token.AddressesSeveral → ∀ other, token.AgreesBut other Claim.azp.name →
    assert requirements other now = assert requirements token now
  /-- With several a token that is otherwise right is rejected for its authorized party, unless this
  is the audience required. -/
  decides : token.AddressesSeveral →
    (∀ condition, condition ≠ Condition.authorizedParty → condition.Holds requirements token now) →
    (token.Says .azp requirements.audience → assert requirements token now = .ok ()) ∧
    (¬ token.Says .azp requirements.audience →
      ∃ fault, assert requirements token now = .error fault ∧ fault.claim = .azp)

theorem examinesParty (requirements : Requirements) (token : Token) (now : Int) :
    ExaminesParty requirements token now where
  depends := by
    constructor
    · rintro ⟨other, hagrees, hother⟩
      by_contra hsingle
      have hcheck : Condition.authorizedParty.check requirements token now =
          Condition.authorizedParty.check requirements other now :=
        check_of_single hagrees hsingle .authorizedParty
      exact hother hcheck.symm
    · exact exists_authorizedParty_ne
  ignored hsingle other hagrees := by
    have hcheck :
        Condition.check requirements other now = Condition.check requirements token now := by
      funext condition
      exact (check_of_single hagrees hsingle condition).symm
    rw [assert_eq_forM, assert_eq_forM, hcheck]
  decides hseveral others := by
    constructor
    · intro hsays
      rw [assert_eq_forM, forM_eq_ok_iff]
      intro condition _
      apply (judges_check requirements token now condition).passed.mpr
      by_cases hparty : condition = Condition.authorizedParty
      · subst hparty
        exact fun _ => hsays
      · exact others condition hparty
    · intro hfails
      exact exists_fault_of_authorizedParty others fun h => hfails (h hseveral)

/-- Two tokens that differ in their audiences only, and not in the set of them, are both accepted or
both rejected on the same claim. The list of the audiences is the set in the order of first places,
and the authorized party is looked at exactly when the set has two elements or more. -/
theorem assert_alike_of_sameAudiences {token other : Token} (same : token.SameAudiences other)
    (requirements : Requirements) (now : Int) :
    (assert requirements token now).Alike (assert requirements other now) ∧
      token.ListsAudiences ∧ ExaminesParty requirements token now := by
  refine ⟨?_, token.listsAudiences, examinesParty requirements token now⟩
  rw [assert_eq_forM, assert_eq_forM]
  exact alike_forM fun condition _ => alike_check same condition

/-- Two audiences in one order and in the other, with a repetition and a number among them. -/
theorem assert_alike_of_reordered :
    let claims (audiences : List Value) (party : String) : Members :=
      [("iss", .string "https://login.example"), ("sub", .string "s"), ("aud", .array audiences),
        ("exp", .number (.whole 1000)), ("iat", .number (.whole 800)), ("azp", .string party)]
    let requirements : Requirements := {
      algorithm := .rs256, issuer := "https://login.example", audience := "app"
      nonce := none, maxAge := none, leeway := .ofSeconds 60, organization := none
      issuer_nonBlank := by decide, audience_nonBlank := by decide
      nonce_nonBlank := by simp, organization_nonBlank := by simp }
    let token (party : String) : Token := ⟨.rs256, none,
      claims [.string "app", .number (.whole 7), .string "other", .string "app"] party⟩
    let other (party : String) : Token := ⟨.rs256, none,
      claims [.string "other", .string "app"] party⟩
    (token "app").SameAudiences (other "app") ∧
      assert requirements (token "app") 900 = .ok () ∧
      assert requirements (other "app") 900 = .ok () ∧
      (token "app").audiences = ["app", "other"] ∧
      assert requirements (token "else") 900 =
        .error (.mismatch .azp "app" "else") ∧
      (assert requirements (token "else") 900).Alike (assert requirements (other "else") 900) := by
  intro claims requirements token other
  have hsame (party : String) : (token party).SameAudiences (other party) := by
    refine ⟨?_, ?_⟩
    · intro claim hclaim
      simp [token, other, claims, Token.claim?, Keyed.find?_cons, Claim.name] at hclaim ⊢
      simp [hclaim]
    · intro audience
      rw [← Token.mem_audiences, ← Token.mem_audiences,
        show (token party).audiences = ["app", "other"] from rfl,
        show (other party).audiences = ["other", "app"] from rfl]
      simp [or_comm]
  have haccepted : assert requirements (token "app") 900 = .ok () := by decide +kernel
  refine ⟨hsame "app", haccepted, ?_, by decide +kernel, by decide +kernel, ?_⟩
  · rcases (assert_alike_of_sameAudiences (hsame "app") requirements 900).1 with
      ⟨_, hok⟩ | ⟨_, _, herror, _⟩
    · exact hok
    · cases haccepted.symm.trans herror
  · exact (assert_alike_of_sameAudiences (hsame "else") requirements 900).1

end ClaimCheck

end RelyingParty
