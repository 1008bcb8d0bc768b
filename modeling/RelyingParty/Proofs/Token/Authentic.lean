import RelyingParty.Proofs.Json.Plain
import RelyingParty.Token.Decode

/-!
# Authentic tokens

What it says about a text that it was decoded: it consists of three segments, its own header names
the algorithm that was required, and its signature is valid for its own first two segments, under
the secret or under the one key that belongs to it. Decoding finds no fault with a claim.
-/

namespace RelyingParty

open Text

/-- What is read gives no fault of a claim. -/
def ClaimFree {α : Type} (read : Except ValidationError α) : Prop :=
  ∀ claim text, read ≠ .error (.claim claim text)

theorem ClaimFree.bind {α β : Type} {step : Except ValidationError α}
    {next : α → Except ValidationError β} (hstep : ClaimFree step)
    (hnext : ∀ value, ClaimFree (next value)) : ClaimFree (step >>= next) := by
  cases step with
  | error error =>
    intro claim text h
    exact hstep claim text (congrArg Except.error (Except.error.inj h))
  | ok value => exact hnext value

/-- A text with exactly two dots is its three segments, with the dots between them. -/
theorem Segments.text_of_ofText? {text : String} {segments : Segments}
    (h : Segments.ofText? text = some segments) :
    text = segments.header ++ "." ++ segments.payload ++ "." ++ segments.signature := by
  unfold ofText? at h
  split at h
  · next header payload signature hsplit =>
    obtain rfl := Option.some.inj h
    have htext : ['.'].intercalate (text.toList.splitOn '.') = text.toList :=
      List.intercalate_splitOn '.'
    rw [hsplit] at htext
    apply String.toList_injective
    rw [← htext]
    simp [List.intercalate]
  · cases h

namespace Token

/-- A token was read from a text that carries a valid signature of its own: the header names the
algorithm, and the signature is one of the first two segments. -/
def Authentic (text : String) (valid : Bytes → Bytes → Prop) (token : Token) : Prop :=
  ∃ (segments : Segments) (head : Bytes) (header : Header) (signature payload : Bytes),
    text = segments.header ++ "." ++ segments.payload ++ "." ++ segments.signature ∧
    Base64Url.decodeText segments.header = .ok head ∧
    Header.ofBytes head = .ok header ∧
    header.algorithm = some token.algorithm.name ∧
    header.kid = token.keyId ∧
    Base64Url.decodeText segments.signature = .ok signature ∧
    valid (Utf8.encode (segments.header ++ "." ++ segments.payload)) signature ∧
    Base64Url.decodeText segments.payload = .ok payload ∧
    claimsOfBytes payload = .ok token.claims

theorem wellFormed_eq_ok {ε α : Type} {read : Except ε α} {value : α} :
    wellFormed read = .ok value ↔ read = .ok value := by
  cases read <;> simp [wellFormed]

theorem header_eq_ok {text : String} {segments : Segments} {found : Header}
    (h : header text = .ok (segments, found)) :
    ∃ bytes, text = segments.header ++ "." ++ segments.payload ++ "." ++ segments.signature ∧
      Base64Url.decodeText segments.header = .ok bytes ∧ Header.ofBytes bytes = .ok found := by
  unfold header at h
  split at h
  · cases h
  · next other hsegments =>
    simp only [bind_eq_ok, wellFormed_eq_ok] at h
    obtain ⟨bytes, hbytes, other, hfound, heq⟩ := h
    cases heq
    exact ⟨bytes, Segments.text_of_ofText? hsegments, hbytes, hfound⟩

theorem checkSignature_eq_ok {segments : Segments} {isValid : Bytes → Bool}
    (h : checkSignature segments isValid = .ok ()) :
    ∃ signature, Base64Url.decodeText segments.signature = .ok signature ∧
      isValid signature = true := by
  simp only [checkSignature, bind_eq_ok, wellFormed_eq_ok] at h
  obtain ⟨signature, hsignature, hvalid⟩ := h
  split at hvalid
  · next valid => exact ⟨signature, hsignature, valid⟩
  · cases hvalid

/-- The key for a token is the first of the published ones that has the identifier. -/
theorem keyFor_eq_ok {keys : KeySet} {named : Option String} {key : Key.Public} :
    keyFor keys named = .ok key ↔
      ∃ kid entry, named = some kid ∧ keys.find? kid = some entry ∧ entry.decoded = .ok key := by
  constructor
  · intro h
    unfold keyFor at h
    split at h
    · cases h
    · next kid =>
      split at h
      · cases h
      · next entry hentry =>
        split at h
        · next found hfound =>
          cases h
          exact ⟨kid, entry, rfl, hentry, hfound⟩
        · cases h
  · rintro ⟨kid, entry, rfl, hentry, hdecoded⟩
    simp only [keyFor, hentry, hdecoded]
    rfl

/-- What it takes to decode a token: the header names the algorithm, and the verifier finds nothing
wrong with the segments. -/
theorem decode_eq_ok {verifier : Verifier} {text : String} {token : Token}
    (h : decode verifier text = .ok token) :
    ∃ (segments : Segments) (head : Bytes) (header : Header) (payload : Bytes),
      text = segments.header ++ "." ++ segments.payload ++ "." ++ segments.signature ∧
      Base64Url.decodeText segments.header = .ok head ∧
      Header.ofBytes head = .ok header ∧
      header.algorithm = some verifier.algorithm.name ∧
      verify verifier segments header.kid = .ok () ∧
      Base64Url.decodeText segments.payload = .ok payload ∧
      claimsOfBytes payload = .ok token.claims ∧
      token.algorithm = verifier.algorithm ∧ token.keyId = header.kid := by
  simp only [decode, bind_eq_ok] at h
  obtain ⟨⟨segments, header⟩, hheader, hrest⟩ := h
  obtain ⟨head, htext, hhead, hfound⟩ := header_eq_ok hheader
  simp only at hrest
  split at hrest
  · cases hrest
  · next halgorithm =>
    simp only [bind_eq_ok, wellFormed_eq_ok] at hrest
    obtain ⟨_, hverify, payload, hpayload, claims, hclaims, htoken⟩ := hrest
    cases htoken
    have hname := Decidable.not_not.mp halgorithm
    exact ⟨segments, head, header, payload, htext, hhead, hfound, hname, hverify, hpayload, hclaims,
      rfl, rfl⟩

/-- A token that is decoded with a secret is signed with it. -/
theorem authentic_symmetric {secret text : String} {token : Token}
    (h : decode (.symmetric secret) text = .ok token) :
    token.algorithm = .hs256 ∧ Authentic text (fun signed signature =>
      signature = Crypto.hmacSha256 (Utf8.encode secret) signed) token := by
  obtain ⟨segments, head, header, payload, htext, hhead, hheader, hname, hverify, hpayload, hclaims,
    halgorithm, hkid⟩ := decode_eq_ok h
  simp only [verify, bind_eq_ok] at hverify
  obtain ⟨_, _, hchecked⟩ := hverify
  obtain ⟨signature, hsignature, hvalid⟩ := checkSignature_eq_ok hchecked
  rw [← halgorithm] at hname
  exact ⟨halgorithm, segments, head, header, signature, payload, htext, hhead, hheader, hname,
    hkid.symm, hsignature, eq_of_beq hvalid, hpayload, hclaims⟩

/-- A token that is decoded with published keys is signed with the first that has its identifier. -/
theorem authentic_asymmetric {keys : KeySet} {text : String} {token : Token}
    (h : decode (.asymmetric keys) text = .ok token) :
    token.algorithm = .rs256 ∧ ∃ kid entry key, token.keyId = some kid ∧
      keys.find? kid = some entry ∧ entry.decoded = .ok (.rsa key) ∧
      Authentic text (fun signed signature => Crypto.Rsa.verify key signed signature = true)
        token := by
  obtain ⟨segments, head, header, payload, htext, hhead, hheader, hname, hverify, hpayload, hclaims,
    halgorithm, hkid⟩ := decode_eq_ok h
  simp only [verify, bind_eq_ok] at hverify
  obtain ⟨found, hfound, _, _, hchecked⟩ := hverify
  obtain ⟨kid, entry, hnamed, hentry, hdecoded⟩ := keyFor_eq_ok.mp hfound
  cases found with
  | other => cases hchecked
  | rsa key =>
    obtain ⟨signature, hsignature, hvalid⟩ := checkSignature_eq_ok hchecked
    rw [← halgorithm] at hname
    exact ⟨halgorithm, kid, entry, key, hkid.trans hnamed, hentry, hdecoded, segments, head, header,
      signature, payload, htext, hhead, hheader, hname, hkid.symm, hsignature, hvalid, hpayload,
      hclaims⟩

theorem claimFree_wellFormed {ε α : Type} (read : Except ε α) : ClaimFree (wellFormed read) := by
  intro claim text h
  cases read <;> cases h

theorem claimFree_header (text : String) : ClaimFree (header text) := by
  unfold header
  split
  · exact fun _ _ h => by cases h
  · refine (claimFree_wellFormed _).bind fun bytes => ?_
    exact (claimFree_wellFormed _).bind fun found _ _ h => by cases h

theorem claimFree_verify (verifier : Verifier) (segments : Segments) (kid : Option String) :
    ClaimFree (verify verifier segments kid) := by
  have hheader : ClaimFree (checkHeader segments) := by
    refine (claimFree_wellFormed _).bind fun bytes claim text h => ?_
    split at h <;> cases h
  have hsignature (isValid : Bytes → Bool) : ClaimFree (checkSignature segments isValid) := by
    refine (claimFree_wellFormed _).bind fun signature claim text h => ?_
    split at h <;> cases h
  cases verifier with
  | symmetric secret => exact hheader.bind fun _ => hsignature _
  | asymmetric keys =>
    have hkey : ClaimFree (keyFor keys kid) := by
      intro claim text h
      unfold keyFor at h
      split at h
      · cases h
      · split at h
        · cases h
        · split at h <;> cases h
    refine hkey.bind fun key => hheader.bind fun _ => ?_
    cases key with
    | other => exact fun _ _ h => by cases h
    | rsa key => exact hsignature _

/-- Decoding finds no fault with a claim. -/
theorem claimFree_decode (verifier : Verifier) (text : String) :
    ClaimFree (decode verifier text) := by
  refine (claimFree_header text).bind fun ⟨segments, header⟩ => ?_
  simp only
  split
  · exact fun _ _ h => by cases h
  · refine (claimFree_verify verifier segments header.kid).bind fun _ => ?_
    refine (claimFree_wellFormed _).bind fun payload => ?_
    refine ClaimFree.bind ?_ fun claims _ _ h => by cases h
    refine (claimFree_wellFormed _).bind fun value => ?_
    split
    · refine (claimFree_wellFormed _).bind fun claims claim text h => ?_
      split at h <;> cases h
    · exact fun _ _ h => by cases h

end Token

end RelyingParty
