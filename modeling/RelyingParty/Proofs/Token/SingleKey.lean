import RelyingParty.Proofs.Token.Canonical

/-!
# The one key of a token

Under published keys a token is checked with the first key that has the identifier which its header
names, and with no other. That key has to be an RSA key: a key of another kind lets no token pass,
whatever is signed with it, and hides all keys behind it that have the same identifier. Keys that
do not come first for the token make no difference.
-/

namespace RelyingParty

open Json Text

namespace KeySet

/-- The keys of a set with others after them. -/
def followedBy (keys : KeySet) (more : List Key) : KeySet :=
  { keys with keys := keys.keys ++ more }

/-- Further keys hide none that is there. -/
theorem find?_followedBy {keys : KeySet} {kid : String} (present : keys.find? kid ≠ none)
    (more : List Key) : (keys.followedBy more).find? kid = keys.find? kid := by
  obtain ⟨key, hkey⟩ := Option.ne_none_iff_exists'.mp present
  rw [hkey]
  simp only [find?, followedBy, List.find?_append] at hkey ⊢
  rw [hkey, Option.some_or]

/-- The key with an identifier comes before all others that have it. -/
theorem exists_split_of_find? {keys : KeySet} {kid : String} {key : Key}
    (h : keys.find? kid = some key) :
    ∃ before after, keys.keys = before ++ key :: after ∧ key.kid = some kid ∧
      ∀ other ∈ before, other.kid ≠ some kid := by
  obtain ⟨hkid, before, after, hkeys, hbefore⟩ := List.find?_eq_some_iff_append.mp h
  refine ⟨before, after, hkeys, by simpa using hkid, fun other hother => ?_⟩
  simpa using hbefore other hother

end KeySet

namespace Key

/-- A key is an RSA key with a modulus and an exponent. -/
def IsRsa (key : Key) (found : Crypto.Rsa.PublicKey) : Prop :=
  ∃ modulus exponent, key.material = .rsa modulus exponent ∧
    Base64Url.decodeText modulus = .ok found.modulus ∧
    Base64Url.decodeText exponent = .ok found.exponent

/-- Only an RSA key is one in binary form. -/
theorem isRsa_of_decoded {key : Key} {found : Crypto.Rsa.PublicKey}
    (h : key.decoded = .ok (.rsa found)) : key.IsRsa found := by
  obtain ⟨kid, material⟩ := key
  cases material with
  | rsa modulus exponent =>
    simp only [decoded, bind_eq_ok] at h
    obtain ⟨n, hn, e, he, hfound⟩ := h
    obtain rfl := Public.rsa.inj (Except.ok.inj hfound)
    exact ⟨modulus, exponent, rfl, hn, he⟩
  | ellipticCurve curve x y =>
    simp only [decoded, bind_eq_ok] at h
    obtain ⟨_, _, _, _, hfound⟩ := h
    cases hfound
  | octets value | octetPair curve value =>
    simp only [decoded, bind_eq_ok] at h
    obtain ⟨_, _, hfound⟩ := h
    cases hfound

end Key

namespace Token

/-- The header of a text names the identifier of a key. -/
def Names (text kid : String) : Prop :=
  ∃ segments found, header text = .ok (segments, found) ∧ found.kid = some kid

/-- Three segments are a token for which the first published key with its identifier vouches. -/
structure Vouched (keys : KeySet) (token : Token) (first second third : String) : Prop where
  /-- No segment has a dot. -/
  undotted : ∀ segment ∈ [first, second, third], '.' ∉ segment.toList
  /-- The first is the one text of a header that names the algorithm, and the key of the token. -/
  header : ∃ bytes found, first = Base64Url.encodeText bytes ∧ Header.ofBytes bytes = .ok found ∧
    found.algorithm = some Algorithm.rs256.name ∧ found.kid = token.keyId
  /-- The second is the one text of a JSON object, which holds the claims of the token. -/
  payload : ∃ bytes, second = Base64Url.encodeText bytes ∧ Json.Holds bytes token.claims
  /-- The third is the one text of a signature of the first two under an RSA key, which is the first
  of all keys that have the identifier. -/
  signature : ∃ kid before key after found bytes, token.keyId = some kid ∧
    keys.keys = before ++ key :: after ∧ key.kid = some kid ∧
    (∀ other ∈ before, other.kid ≠ some kid) ∧ key.IsRsa found ∧
    third = Base64Url.encodeText bytes ∧
    Crypto.Rsa.verify found (Utf8.encode (first ++ "." ++ second)) bytes = true
  /-- The token has the algorithm. -/
  algorithm : token.algorithm = .rs256

/-- How published keys decide about a text. -/
structure Decided (keys : KeySet) (text : String) : Prop where
  /-- A token that is decoded is vouched for by the first key with its identifier. -/
  vouched : ∀ token, decode (.asymmetric keys) text = .ok token →
    ∃ first second third, text = first ++ "." ++ second ++ "." ++ third ∧
      Vouched keys token first second third
  /-- A text is rejected when the first key with its identifier is of another kind. -/
  rejected : ∀ kid key, Names text kid → keys.find? kid = some key →
    (∀ modulus exponent, key.material ≠ .rsa modulus exponent) →
    ∃ fault, decode (.asymmetric keys) text = .error fault
  /-- Two sets of keys decide alike when they have the same first key with its identifier. -/
  alike : ∀ other : KeySet, (∀ kid, Names text kid → other.find? kid = keys.find? kid) →
    decode (.asymmetric other) text = decode (.asymmetric keys) text
  /-- When there is a key with its identifier further keys change nothing. -/
  followed : ∀ more, (∀ kid, Names text kid → keys.find? kid ≠ none) →
    decode (.asymmetric (keys.followedBy more)) text = decode (.asymmetric keys) text

/-- A token that is decoded with published keys is vouched for by one of them. -/
theorem vouched_of_decode {keys : KeySet} {text : String} {token : Token}
    (h : decode (.asymmetric keys) text = .ok token) :
    ∃ first second third, text = first ++ "." ++ second ++ "." ++ third ∧
      Vouched keys token first second third := by
  obtain ⟨halgorithm, kid, key, found, hkid, hkey, hdecoded, segments, head, header, signature,
    payload, htext, hhead, hheader, hname, hnamed, hsignature, hvalid, hpayload, hclaims⟩ :=
    authentic_asymmetric h
  have hfirst := Base64Url.eq_encodeText_of_decodeText hhead
  have hsecond := Base64Url.eq_encodeText_of_decodeText hpayload
  have hthird := Base64Url.eq_encodeText_of_decodeText hsignature
  obtain ⟨before, after, hkeys, hhas, hbefore⟩ := KeySet.exists_split_of_find? hkey
  rw [halgorithm] at hname
  refine ⟨segments.header, segments.payload, segments.signature, htext, ?_, ?_, ?_, ?_, halgorithm⟩
  · simp only [List.mem_cons, List.not_mem_nil, or_false, forall_eq_or_imp, forall_eq, hfirst,
      hsecond, hthird]
    exact ⟨Base64Url.dot_notMem_encodeText _, Base64Url.dot_notMem_encodeText _,
      Base64Url.dot_notMem_encodeText _⟩
  · exact ⟨head, header, hfirst, hheader, hname, hnamed⟩
  · exact ⟨payload, hsecond, holds_of_claimsOfBytes hclaims⟩
  · exact ⟨kid, before, key, after, found, signature, hkid, hkeys, hhas, hbefore,
      Key.isRsa_of_decoded hdecoded, hthird, hvalid⟩

/-- The key for a token depends on no more than the first key with its identifier. -/
theorem keyFor_congr {keys other : KeySet} {named : Option String}
    (same : ∀ kid, named = some kid → other.find? kid = keys.find? kid) :
    keyFor other named = keyFor keys named := by
  cases named with
  | none => rfl
  | some kid => simp only [keyFor, same kid rfl]

/-- A text is decoded alike with all keys of which the same comes first for it. -/
theorem decode_congr {keys other : KeySet} {text : String}
    (same : ∀ kid, Names text kid → other.find? kid = keys.find? kid) :
    decode (.asymmetric other) text = decode (.asymmetric keys) text := by
  cases hheader : header text with
  | error fault =>
    simp only [decode, hheader]
    rfl
  | ok read =>
    obtain ⟨segments, found⟩ := read
    have hkey : keyFor other found.kid = keyFor keys found.kid :=
      keyFor_congr fun kid hkid => same kid ⟨segments, found, hheader, hkid⟩
    have hverify : verify (.asymmetric other) segments found.kid =
        verify (.asymmetric keys) segments found.kid := by
      simp only [verify, hkey]
    simp only [decode, hheader]
    change (do
      if found.algorithm ≠ some Algorithm.rs256.name then _
      verify (.asymmetric other) segments found.kid
      _) = _
    rw [hverify]
    rfl

/-- The header of a token that is decoded names its key. -/
theorem header_of_decode {verifier : Verifier} {text : String} {token : Token}
    (h : decode verifier text = .ok token) :
    ∃ segments found, header text = .ok (segments, found) ∧ found.kid = token.keyId := by
  simp only [decode, bind_eq_ok] at h
  obtain ⟨⟨segments, found⟩, hheader, hrest⟩ := h
  refine ⟨segments, found, hheader, ?_⟩
  split at hrest
  · cases hrest
  · simp only [bind_eq_ok] at hrest
    obtain ⟨_, _, _, _, _, _, htoken⟩ := hrest
    cases htoken
    rfl

/-- A key that is not an RSA key lets no token pass. -/
theorem rejected_of_find? {keys : KeySet} {text kid : String} {key : Key}
    (names : Names text kid) (found : keys.find? kid = some key)
    (other : ∀ modulus exponent, key.material ≠ .rsa modulus exponent) :
    ∃ fault, decode (.asymmetric keys) text = .error fault := by
  cases hdecode : decode (.asymmetric keys) text with
  | error fault => exact ⟨fault, rfl⟩
  | ok token =>
    obtain ⟨segments, named, hheader, hnamed⟩ := names
    obtain ⟨_, same, hsame, hkid⟩ := header_of_decode hdecode
    rw [hheader] at hsame
    cases hsame
    obtain ⟨_, chosen, entry, key', hchosen, hentry, hdecoded, _⟩ := authentic_asymmetric hdecode
    rw [hnamed, hchosen] at hkid
    obtain rfl := Option.some.inj hkid
    obtain rfl := Option.some.inj (hentry.symm.trans found)
    obtain ⟨modulus, exponent, hmaterial, _⟩ := Key.isRsa_of_decoded hdecoded
    exact absurd hmaterial (other modulus exponent)

/-- Published keys decide about every text through the first key with its identifier alone. -/
theorem decided_by_first_key (keys : KeySet) (text : String) : Decided keys text where
  vouched _ h := vouched_of_decode h
  rejected _ _ names found other := rejected_of_find? names found other
  alike _ same := decode_congr same
  followed more present := decode_congr fun kid names =>
    KeySet.find?_followedBy (present kid names) more

end Token

end RelyingParty
