import RelyingParty.Proofs.Token.Segments
import RelyingParty.Token.Signed

/-!
# What a header alone decides

The header of a token is compared with the required algorithm, and then with the identifiers of the
published keys, before anything is done with a key. So a token that names another algorithm, no key
or an unknown key is rejected in the same way whatever its payload and its signature are and
whatever the keys are; and no later step gives any of these reasons again.
-/

namespace RelyingParty

open Text

/-- A rejection that a header can bring about by itself. -/
def ValidationError.OfHeader : ValidationError → Prop
  | unsupportedAlgorithm _ _ => True
  | keyNotFound _ => True
  | _ => False

/-- An identifier is not found when it is none of those of the keys. -/
theorem KeySet.find?_eq_none_iff {keys : KeySet} {kid : String} :
    keys.find? kid = none ↔ some kid ∉ keys.kids := by
  simp [find?, kids]

/-- What is read fails for other reasons than a header's, if at all. -/
def HeaderFree {α : Type} (read : Except ValidationError α) : Prop :=
  ∀ error, read = .error error → ¬ error.OfHeader

theorem HeaderFree.bind {α β : Type} {step : Except ValidationError α}
    {next : α → Except ValidationError β} (hstep : HeaderFree step)
    (hnext : ∀ value, HeaderFree (next value)) : HeaderFree (step >>= next) := by
  cases step with
  | error error =>
    intro other h
    exact hstep other (congrArg Except.error (Except.error.inj h))
  | ok value => exact hnext value

theorem headerFree_pure {α : Type} (value : α) :
    HeaderFree (pure value : Except ValidationError α) :=
  fun _ h => nomatch h

theorem headerFree_error {α : Type} {error : ValidationError} (h : ¬ error.OfHeader) :
    HeaderFree (.error error : Except ValidationError α) := by
  rintro _ ⟨⟩
  exact h

namespace Token

theorem headerFree_wellFormed {ε α : Type} (read : Except ε α) : HeaderFree (wellFormed read) := by
  cases read with
  | error _ => exact headerFree_error id
  | ok value => exact headerFree_pure value

theorem headerFree_checkHeader (segments : Segments) : HeaderFree (checkHeader segments) := by
  refine (headerFree_wellFormed _).bind fun bytes => ?_
  split
  · exact headerFree_pure ()
  · exact headerFree_error id

theorem headerFree_checkSignature (segments : Segments) (isValid : Bytes → Bool) :
    HeaderFree (checkSignature segments isValid) := by
  refine (headerFree_wellFormed _).bind fun signature => ?_
  split
  · exact headerFree_pure ()
  · exact headerFree_error id

theorem headerFree_claimsOfBytes (bytes : Bytes) : HeaderFree (claimsOfBytes bytes) := by
  refine (headerFree_wellFormed _).bind fun value => ?_
  split
  · refine (headerFree_wellFormed _).bind fun claims => ?_
    split
    · exact headerFree_pure _
    · exact headerFree_error id
  · exact headerFree_error id

/-- A key that is published under the identifier may be unusable, but it is not unknown. -/
theorem headerFree_keyFor {keys : KeySet} {kid : String} (known : some kid ∈ keys.kids) :
    HeaderFree (keyFor keys (some kid)) := by
  obtain ⟨key, hkey⟩ := Option.ne_none_iff_exists'.mp
    (mt KeySet.find?_eq_none_iff.mp (not_not_intro known))
  simp only [keyFor, hkey]
  split
  · exact headerFree_pure _
  · exact headerFree_error id

/-- What is left to do for a token whose header names the required algorithm. -/
def opened (verifier : Verifier) (segments : Segments) (kid : Option String) :
    Except ValidationError Token := do
  verify verifier segments kid
  let payload ← wellFormed (Base64Url.decodeText segments.payload)
  let claims ← claimsOfBytes payload
  return ⟨verifier.algorithm, kid, claims⟩

/-- The algorithm is looked at first. -/
theorem decode_of_header {text : String} {segments : Segments} {found : Header}
    (h : header text = .ok (segments, found)) (verifier : Verifier) :
    decode verifier text =
      if found.algorithm = some verifier.algorithm.name then opened verifier segments found.kid
      else .error (.unsupportedAlgorithm verifier.algorithm.name (found.algorithm.getD "")) := by
  simp only [decode, h]
  change (do
    if found.algorithm ≠ some verifier.algorithm.name then _
    opened verifier segments found.kid) = _
  split <;> simp_all [bind, Except.bind]

/-- After the verification nothing is said about the header any more. -/
theorem headerFree_opened {verifier : Verifier} {segments : Segments} {kid : Option String}
    (h : HeaderFree (verify verifier segments kid)) :
    HeaderFree (opened verifier segments kid) :=
  h.bind fun _ => (headerFree_wellFormed _).bind fun _ =>
    (headerFree_claimsOfBytes _).bind fun _ => headerFree_pure _

/-- A client secret says nothing about the header. -/
theorem headerFree_symmetric (secret : String) (segments : Segments) (kid : Option String) :
    HeaderFree (opened (.symmetric secret) segments kid) :=
  headerFree_opened ((headerFree_checkHeader _).bind fun _ => headerFree_checkSignature _ _)

/-- Published keys say nothing about a header that names one of them. -/
theorem headerFree_asymmetric {keys : KeySet} {kid : String} (known : some kid ∈ keys.kids)
    (segments : Segments) : HeaderFree (opened (.asymmetric keys) segments (some kid)) := by
  refine headerFree_opened ((headerFree_keyFor known).bind fun key => ?_)
  refine (headerFree_checkHeader _).bind fun _ => ?_
  cases key with
  | other => exact headerFree_error id
  | rsa key => exact headerFree_checkSignature _ _

/-- Published keys do not have the one that a header names, or it names none. -/
def Misses (keys : KeySet) (kid : Option String) : Prop :=
  ∀ name, kid = some name → some name ∉ keys.kids

theorem exists_of_not_misses {keys : KeySet} {kid : Option String} (h : ¬ Misses keys kid) :
    ∃ name, kid = some name ∧ some name ∈ keys.kids := by
  simpa [Misses] using h

/-- A key that is not published, or not even named, is the reason before all others. -/
theorem opened_of_misses {keys : KeySet} {kid : Option String} (h : Misses keys kid)
    (segments : Segments) :
    opened (.asymmetric keys) segments kid = .error (.keyNotFound kid) := by
  have hkey : keyFor keys kid = .error (.keyNotFound kid) := by
    cases kid with
    | none => rfl
    | some name => simp only [keyFor, KeySet.find?_eq_none_iff.mpr (h name rfl)]
  simp only [opened, verify, hkey]
  rfl

/-- A key is reported as not found exactly when the header names none of the published ones, and it
is reported as the header names it. -/
theorem opened_eq_keyNotFound_iff {keys : KeySet} {kid reported : Option String}
    {segments : Segments} :
    opened (.asymmetric keys) segments kid = .error (.keyNotFound reported) ↔
      Misses keys kid ∧ reported = kid := by
  constructor
  · intro h
    by_cases hmisses : Misses keys kid
    · rw [opened_of_misses hmisses] at h
      cases h
      exact ⟨hmisses, rfl⟩
    · obtain ⟨name, rfl, hknown⟩ := exists_of_not_misses hmisses
      exact absurd trivial (headerFree_asymmetric hknown segments _ h)
  · rintro ⟨hmisses, rfl⟩
    exact opened_of_misses hmisses segments

/-- The algorithm is not a reason any more. -/
theorem opened_ne_unsupportedAlgorithm (verifier : Verifier) (segments : Segments)
    (kid : Option String) (expected reported : String) :
    opened verifier segments kid ≠ .error (.unsupportedAlgorithm expected reported) := by
  intro h
  cases verifier with
  | symmetric secret => exact headerFree_symmetric secret segments kid _ h trivial
  | asymmetric keys =>
    by_cases hmisses : Misses keys kid
    · rw [opened_of_misses hmisses] at h
      cases h
    · obtain ⟨name, rfl, hknown⟩ := exists_of_not_misses hmisses
      exact headerFree_asymmetric hknown segments _ h trivial

/-- A key is reported as not found by published keys exactly when the header names the algorithm
and none of them. -/
theorem decode_eq_keyNotFound_iff {text : String} {segments : Segments} {found : Header}
    (h : header text = .ok (segments, found)) {keys : KeySet} {reported : Option String} :
    decode (.asymmetric keys) text = .error (.keyNotFound reported) ↔
      found.algorithm = some Algorithm.rs256.name ∧ Misses keys found.kid ∧
        reported = found.kid := by
  rw [decode_of_header h]
  split
  · next hname => exact opened_eq_keyNotFound_iff.trans (and_iff_right hname).symm
  · next hother => exact ⟨fun h => (nomatch h), fun h => absurd h.1 hother⟩

/-- What a header decides about a token by itself. -/
structure Screened (text : String) (found : Header) : Prop where
  /-- Another algorithm than the required one, or none, is the reason of the rejection for every
  verifier that requires it. -/
  unsupported : ∀ verifier : Verifier, found.algorithm ≠ some verifier.algorithm.name →
    decode verifier text =
      .error (.unsupportedAlgorithm verifier.algorithm.name (found.algorithm.getD ""))
  /-- The required algorithm is never reported as another one. -/
  supported : ∀ verifier : Verifier, found.algorithm = some verifier.algorithm.name →
    ∀ expected reported, decode verifier text ≠ .error (.unsupportedAlgorithm expected reported)
  /-- A header that names no key is the reason under all published keys. -/
  unnamed : found.algorithm = some Algorithm.rs256.name → found.kid = none → ∀ keys : KeySet,
    decode (.asymmetric keys) text = .error (.keyNotFound none)
  /-- A header that names a key which is not published is the reason, with that name. -/
  unknown : found.algorithm = some Algorithm.rs256.name → ∀ kid, found.kid = some kid →
    ∀ keys : KeySet, some kid ∉ keys.kids →
    decode (.asymmetric keys) text = .error (.keyNotFound (some kid))
  /-- A published key is never reported as not found. -/
  known : ∀ kid, found.kid = some kid → ∀ keys : KeySet, some kid ∈ keys.kids →
    ∀ reported, decode (.asymmetric keys) text ≠ .error (.keyNotFound reported)

theorem screened_of_header {text : String} {segments : Segments} {found : Header}
    (h : header text = .ok (segments, found)) : Screened text found where
  unsupported verifier hother := by rw [decode_of_header h, if_neg hother]
  supported verifier hname expected reported := by
    rw [decode_of_header h, if_pos hname]
    exact opened_ne_unsupportedAlgorithm verifier segments found.kid expected reported
  unnamed hname hkid keys := by
    refine (decode_eq_keyNotFound_iff h).mpr ⟨hname, fun kid hnamed => ?_, hkid.symm⟩
    rw [hkid] at hnamed
    cases hnamed
  unknown hname kid hkid keys hunknown := by
    refine (decode_eq_keyNotFound_iff h).mpr ⟨hname, fun other hnamed => ?_, hkid.symm⟩
    rw [hkid] at hnamed
    cases hnamed
    exact hunknown
  known kid hkid keys hknown reported hdecode :=
    ((decode_eq_keyNotFound_iff h).mp hdecode).2.1 kid hkid hknown

/-- A header that is read from one token is read from every other that begins with it. -/
theorem header_of_header {text : String} {segments : Segments} {found : Header}
    (h : header text = .ok (segments, found)) {payload signature : String}
    (hpayload : '.' ∉ payload.toList) (hsignature : '.' ∉ signature.toList) :
    header (segments.header ++ "." ++ payload ++ "." ++ signature) =
      .ok (⟨segments.header, payload, signature⟩, found) := by
  obtain ⟨bytes, _, hbytes, hfound⟩ := header_eq_ok h
  have hfirst : '.' ∉ segments.header.toList := by
    rw [Base64Url.eq_encodeText_of_decodeText hbytes]
    exact Base64Url.dot_notMem_encodeText bytes
  have hsplit := Segments.ofText?_join ⟨segments.header, payload, signature⟩
    (by simp only [List.forall_mem_cons, List.not_mem_nil]; simp [hfirst, hpayload, hsignature])
  simp only [header, hsplit]
  exact bind_eq_ok.mpr ⟨bytes, wellFormed_eq_ok.mpr hbytes,
    bind_eq_ok.mpr ⟨found, wellFormed_eq_ok.mpr hfound, rfl⟩⟩

/-- What the header of a token decides, for the token and for others. -/
structure Screening (text : String) (segments : Segments) (found : Header) : Prop where
  /-- The header decides about the token. -/
  itself : Screened text found
  /-- It decides likewise about every payload and every signature that it is put before. -/
  others : ∀ payload signature : String, '.' ∉ payload.toList → '.' ∉ signature.toList →
    Screened (segments.header ++ "." ++ payload ++ "." ++ signature) found
  /-- Two tokens whose headers name the algorithm and the same key, or none, under published keys of
  which both or neither have that key, are both rejected because it is not found, or neither is. -/
  alike : found.algorithm = some Algorithm.rs256.name →
    ∀ other segments again, header other = .ok (segments, again) →
    again.algorithm = some Algorithm.rs256.name → again.kid = found.kid →
    ∀ keys more : KeySet,
    (∀ kid, found.kid = some kid → (some kid ∈ keys.kids ↔ some kid ∈ more.kids)) →
    ∀ reported, decode (.asymmetric keys) text = .error (.keyNotFound reported) ↔
      decode (.asymmetric more) other = .error (.keyNotFound reported)

/-- A header that is read decides about a token before any key, its payload and its signature. -/
theorem screening {text : String} {segments : Segments} {found : Header}
    (h : header text = .ok (segments, found)) : Screening text segments found where
  itself := screened_of_header h
  others _ _ hpayload hsignature := screened_of_header (header_of_header h hpayload hsignature)
  alike hname other segments again hother hagain hkid keys more same reported := by
    rw [decode_eq_keyNotFound_iff h, decode_eq_keyNotFound_iff hother, hkid]
    have hmisses : Misses keys found.kid ↔ Misses more found.kid :=
      forall_congr' fun kid => imp_congr_right fun hnamed => not_congr (same kid hnamed)
    simp only [hname, hagain, hmisses]

/-- A token without payload and signature, whose header names a key. -/
theorem screening_unsigned :
    let text := segment "\x7b\"alg\":\"RS256\",\"kid\":\"a\"\x7d" ++ ".."
    decode (.symmetric "k") text = .error (.unsupportedAlgorithm "HS256" "RS256") ∧
      decode (.asymmetric ⟨"i", "u", []⟩) text = .error (.keyNotFound (some "a")) ∧
      ∀ keys : KeySet, some "a" ∈ keys.kids →
        ∀ reported, decode (.asymmetric keys) text ≠ .error (.keyNotFound reported) := by
  intro text
  have hheader : header text = .ok (⟨segment "\x7b\"alg\":\"RS256\",\"kid\":\"a\"\x7d", "", ""⟩,
      ⟨some "RS256", some "a"⟩) := eq_ok_of_toOption (by decide +kernel)
  have hscreened := (screening hheader).itself
  exact ⟨hscreened.unsupported (.symmetric "k") (by decide),
    hscreened.unknown rfl "a" rfl ⟨"i", "u", []⟩ (by simp [KeySet.kids]),
    fun keys hknown => hscreened.known "a" rfl keys hknown⟩

end Token

end RelyingParty
