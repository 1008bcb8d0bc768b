import RelyingParty.Proofs.Json.Passing
import RelyingParty.Proofs.Token.Segments

/-!
# Decoding what was signed

A token that is signed with a client secret is decoded with the secret to the members of the object
that was signed, as long as the second reading gets past their values. It does not get past every
value under the names of the times and of the subject, and then the token counts as not well formed.
-/

namespace RelyingParty

open Json Text

namespace Header

/-- Bytes are the text of a header for a client secret: its members are strings, each under a name
of its own that does not ask for another type, and name the algorithm and a key or none. -/
structure Spelled (bytes : Bytes) (kid : Option String) (members : Members) : Prop where
  /-- The bytes are read as the members. -/
  read : readValue bytes = .ok (.object members)
  /-- No name is repeated. -/
  distinct : members.names.Nodup
  /-- Every member is a string, under a name that allows for one. -/
  texts : ∀ entry ∈ members, isString entry.2 = true ∧ entry.1 ∉ "jwk" :: listNames
  /-- The algorithm is that of a client secret. -/
  algorithm : members.find? "alg" = some (.string Algorithm.hs256.name)
  /-- The key is the one that is named, if any. -/
  kid : members.find? "kid" = kid.map .string

/-- What the first look keeps of members. -/
def kept (seen : Members) : Option (Option String) × Option (Option String) :=
  ((seen.find? "alg").map Value.string?, (seen.find? "kid").map Value.string?)

/-- Members are strings, each under a name of its own. -/
def Texts (members : Members) : Prop :=
  members.names.Nodup ∧ ∀ entry ∈ members, isString entry.2 = true

theorem Texts.of_cons {entry : String × Value} {seen : Members} (h : Texts (entry :: seen)) :
    Texts seen :=
  ⟨(List.nodup_cons.mp h.1).2, fun other hother => h.2 other (List.mem_cons_of_mem _ hother)⟩

/-- A string under a new name is read by the first look, or passed over. -/
theorem readMember_kept {inner : Option (Reader Value)} {name : String} {value : Value}
    {seen : Members} {cursor last : Cursor}
    (h : Reader.member (Reader.valueWith inner) name seen cursor = .ok ((name, value) :: seen) last)
    (texts : Texts ((name, value) :: seen)) :
    readMember name (kept seen) cursor = .ok (kept ((name, value) :: seen)) last := by
  have hnone : seen.find? name = none := Keyed.find?_of_notMem (List.nodup_cons.mp texts.1).1
  obtain ⟨text, hstring⟩ := Option.isSome_iff_exists.mp (texts.2 _ List.mem_cons_self)
  obtain ⟨_, reached, hcolon, hvalue⟩ := Reader.bind_eq_ok.mp h
  obtain ⟨found, final, hread, hfound⟩ := Reader.bind_eq_ok.mp hvalue
  obtain ⟨heq, rfl⟩ := Reader.pure_eq_ok.mp hfound
  obtain rfl : found = value := (Prod.mk.inj (List.cons.inj heq).1).2
  obtain rfl : found = .string text := by
    cases found with
    | string other => exact congrArg Value.string (Option.some.inj hstring)
    | null | bool | number | array | object => cases hstring
  have hoptional : readText reached = .ok (some text) final :=
    Reader.optional_of_valueWith hread "a string"
  have hfield : ∀ other, Reader.field other (none : Option (Option String)) readText cursor =
      .ok (some (some text)) final := fun other =>
    Reader.bind_eq_ok.mpr ⟨(), reached, hcolon,
      Reader.bind_eq_ok.mpr ⟨some text, final, hoptional, rfl⟩⟩
  unfold readMember
  by_cases halg : name = "alg"
  · subst halg
    rw [if_pos rfl]
    refine Reader.bind_eq_ok.mpr ⟨some (some text), final, ?_, ?_⟩
    · rw [kept, hnone]
      exact hfield "alg"
    · simp [kept, Keyed.find?_cons, Value.string?, Reader.pure_eq_ok]
  rw [if_neg halg]
  by_cases hkid : name = "kid"
  · subst hkid
    rw [if_pos rfl]
    refine Reader.bind_eq_ok.mpr ⟨some (some text), final, ?_, ?_⟩
    · rw [kept, hnone]
      exact hfield "kid"
    · simp [kept, Keyed.find?_cons, Value.string?, Reader.pure_eq_ok]
  · rw [if_neg hkid]
    refine Reader.bind_eq_ok.mpr ⟨(), final, ?_, ?_⟩
    · exact Reader.bind_eq_ok.mpr ⟨(), reached, hcolon, Reader.skipValue_of_valueWith hread⟩
    · simp [kept, Keyed.find?_cons, Ne.symm halg, Ne.symm hkid, Reader.pure_eq_ok]

/-- The first look at a header finds its algorithm and its key. -/
theorem Spelled.ofBytes {bytes : Bytes} {kid : Option String} {members : Members}
    (h : Spelled bytes kid members) :
    ofBytes bytes = .ok ⟨some Algorithm.hs256.name, kid⟩ := by
  obtain ⟨reached, last, hvalue, hfinish⟩ := readWith_eq_ok.mp h.read
  have htexts : Texts members.reverse := by
    refine ⟨Keyed.nodup_names_reverse h.distinct, fun entry hentry => ?_⟩
    exact (h.texts entry (List.mem_reverse.mp hentry)).1
  have hcomplete : complete (kept members.reverse) = ⟨some Algorithm.hs256.name, kid⟩ := by
    rw [kept, Keyed.find?_reverse h.distinct, Keyed.find?_reverse h.distinct, h.algorithm, h.kid]
    cases kid <;> rfl
  have hrecord : Reader.record "struct Header" (kept []) readMember
      (fun seen => .ok (complete seen)) readSequence (Cursor.start bytes) =
        .ok ⟨some Algorithm.hs256.name, kid⟩ reached := by
    refine Reader.record_kept (fun _ _ texts => texts.of_cons) ?_ hvalue htexts ?_ _ _
    · exact fun _ _ _ _ _ hmember texts => readMember_kept hmember texts
    · exact congrArg Except.ok hcomplete
  exact readWith_eq_ok.mpr ⟨reached, last, hrecord, hfinish⟩

/-- The second look at a header finds nothing wrong with it. -/
theorem Spelled.isWellFormed {bytes : Bytes} {kid : Option String} {members : Members}
    (h : Spelled bytes kid members) : isWellFormed bytes = true := by
  have honce : registeredOnce members = true := by
    refine List.all_eq_true.mpr fun name _ => decide_eq_true ?_
    exact List.nodup_iff_count_le_one.mp h.distinct name
  have hfits : ∀ entry ∈ members, memberFits entry.1 entry.2 = true := by
    intro entry hentry
    obtain ⟨hstring, hname⟩ := h.texts entry hentry
    obtain ⟨name, value⟩ := entry
    obtain ⟨text, htext⟩ := Option.isSome_iff_exists.mp hstring
    obtain rfl : value = .string text := by
      cases value with
      | string other => exact congrArg Value.string (Option.some.inj htext)
      | null | bool | number | array | object => cases htext
    obtain ⟨hjwk, hlist⟩ := not_or.mp (mt List.mem_cons.mpr hname)
    have hlists : listNames.contains name = false := by simpa using hlist
    unfold memberFits
    split
    · simp only [hlists, Bool.false_eq_true, if_false, isString, Value.string?,
        Option.isSome_some]
    · rfl
  unfold Header.isWellFormed
  rw [h.read]
  simp only [honce, Bool.true_and]
  exact List.all_eq_true.mpr hfits

end Header

namespace Token

/-- Bytes are the text of an object that names each of its members once: these are the members as
they are written, and in their plain form. -/
structure Spelled (bytes : Bytes) (written claims : Members) : Prop where
  /-- The bytes are read as the members. -/
  read : readValue bytes = .ok (.object written)
  /-- No name is repeated. -/
  distinct : written.names.Nodup
  /-- The claims are the members in their plain form. -/
  plain : plainMembers (fun text => do Json.plain bytes.length (← readValue (Utf8.encode text)))
    written = .ok claims

/-- Members are readable when the second reading gets past the value of each. -/
theorem Spelled.isReadable_iff {bytes : Bytes} {written claims : Members}
    (h : Spelled bytes written claims) :
    isReadable written = true ↔ ∀ entry ∈ written, isPassable entry.1 entry.2 = true := by
  have honce : (registeredClaims.all fun name => decide (written.names.count name ≤ 1)) = true := by
    refine List.all_eq_true.mpr fun name _ => decide_eq_true ?_
    exact List.nodup_iff_count_le_one.mp h.distinct name
  rw [isReadable, honce, Bool.true_and, List.all_eq_true]

/-- The claims of a payload are its members, unless the second reading stops in one of them. -/
theorem Spelled.claimsOfBytes {bytes : Bytes} {written claims : Members}
    (h : Spelled bytes written claims) :
    claimsOfBytes bytes = if isReadable written then .ok claims else .error undecodable := by
  have hmerged : claims.merged = claims := by
    apply Keyed.merged_of_nodup
    rw [names_of_plainMembers h.plain]
    exact h.distinct
  have hread : Token.claimsOfBytes bytes =
      (wellFormed (plainMembers (fun text => do
        Json.plain bytes.length (← readValue (Utf8.encode text))) written) >>= fun found =>
      if isReadable written then .ok found.merged else .error undecodable) := by
    unfold Token.claimsOfBytes
    rw [h.read]
    rfl
  rw [hread, h.plain]
  show (if isReadable written then Except.ok claims.merged else .error undecodable) = _
  rw [hmerged]

/-- A header that is well formed passes the second look. -/
theorem checkHeader_of_isWellFormed {segments : Segments} {head : Bytes}
    (header : Base64Url.decodeText segments.header = .ok head)
    (wellFormed : Header.isWellFormed head = true) : checkHeader segments = .ok () := by
  refine bind_eq_ok.mpr ⟨head, wellFormed_eq_ok.mpr header, ?_⟩
  rw [if_pos wellFormed]
  rfl

/-- Segments whose third is the digest of the first two pass with the secret. -/
theorem verify_of_digest {secret : String} {segments : Segments} {kid : Option String}
    {head : Bytes} (header : Base64Url.decodeText segments.header = .ok head)
    (wellFormed : Header.isWellFormed head = true)
    (signature : Base64Url.decodeText segments.signature =
      .ok (Crypto.hmacSha256 (Utf8.encode secret) segments.signed)) :
    verify (.symmetric secret) segments kid = .ok () := by
  refine bind_eq_ok.mpr ⟨(), checkHeader_of_isWellFormed header wellFormed, ?_⟩
  refine bind_eq_ok.mpr ⟨_, wellFormed_eq_ok.mpr signature, ?_⟩
  simp only [beq_self_eq_true, if_true]
  rfl

/-- A text that a verifier finds nothing wrong with is decoded as far as its claims are. -/
theorem decode_of_verify {verifier : Verifier} {text : String} {segments : Segments}
    {found : Header} {payload : Bytes} (header : header text = .ok (segments, found))
    (algorithm : found.algorithm = some verifier.algorithm.name)
    (verified : verify verifier segments found.kid = .ok ())
    (body : Base64Url.decodeText segments.payload = .ok payload) :
    decode verifier text = claimsOfBytes payload >>= fun claims =>
      .ok ⟨verifier.algorithm, found.kid, claims⟩ := by
  unfold decode
  rw [header]
  show (if found.algorithm ≠ some verifier.algorithm.name then _ else _) = _
  rw [if_neg (not_not.mpr algorithm), verified, body]
  rfl

/-- Three segments that hold bytes are found again in their text. -/
theorem ofText?_encoded (head body signature : Bytes) :
    Segments.ofText? (Base64Url.encodeText head ++ "." ++ Base64Url.encodeText body ++ "." ++
      Base64Url.encodeText signature) =
      some ⟨Base64Url.encodeText head, Base64Url.encodeText body,
        Base64Url.encodeText signature⟩ := by
  apply Segments.ofText?_join ⟨_, _, _⟩
  simp only [List.forall_mem_cons, List.not_mem_nil, false_implies, implies_true, and_true]
  exact ⟨Base64Url.dot_notMem_encodeText _, Base64Url.dot_notMem_encodeText _,
    Base64Url.dot_notMem_encodeText _⟩

/-- An RSA key that is published is decoded to its modulus and its exponent. -/
theorem decoded_rsa (kid : Option String) (modulus exponent : Bytes) :
    Key.decoded ⟨kid, .rsa (Base64Url.encodeText modulus) (Base64Url.encodeText exponent)⟩ =
      .ok (.rsa ⟨modulus, exponent⟩) := by
  apply bind_eq_ok.mpr ⟨modulus, Base64Url.decodeText_encodeText modulus, ?_⟩
  exact bind_eq_ok.mpr ⟨exponent, Base64Url.decodeText_encodeText exponent, rfl⟩

/-- A token with a signature that is valid under the published key that belongs to it is decoded to
the claims of its payload. -/
theorem decode_of_published {keys : KeySet} {kid : Option String} {key : Crypto.Rsa.PublicKey}
    {head body signature : Bytes} {claims : Members} (chosen : keyFor keys kid = .ok (.rsa key))
    (found : Header.ofBytes head = .ok ⟨some Algorithm.rs256.name, kid⟩)
    (wellFormed : Header.isWellFormed head = true)
    (valid : Crypto.Rsa.verify key
      (Utf8.encode (Base64Url.encodeText head ++ "." ++ Base64Url.encodeText body)) signature = true)
    (members : claimsOfBytes body = .ok claims) :
    decode (.asymmetric keys) (Base64Url.encodeText head ++ "." ++ Base64Url.encodeText body ++
      "." ++ Base64Url.encodeText signature) = .ok ⟨.rs256, kid, claims⟩ := by
  obtain ⟨segments, hsegments⟩ : ∃ segments : Segments, segments =
      ⟨Base64Url.encodeText head, Base64Url.encodeText body, Base64Url.encodeText signature⟩ :=
    ⟨_, rfl⟩
  have hhead : Base64Url.decodeText segments.header = .ok head := by
    rw [hsegments]
    exact Base64Url.decodeText_encodeText head
  have hbody : Base64Url.decodeText segments.payload = .ok body := by
    rw [hsegments]
    exact Base64Url.decodeText_encodeText body
  have hsignature : Base64Url.decodeText segments.signature = .ok signature := by
    rw [hsegments]
    exact Base64Url.decodeText_encodeText signature
  have hheader : Token.header (Base64Url.encodeText head ++ "." ++ Base64Url.encodeText body ++
      "." ++ Base64Url.encodeText signature) =
      .ok (segments, ⟨some Algorithm.rs256.name, kid⟩) := by
    unfold Token.header
    rw [ofText?_encoded, ← hsegments]
    refine bind_eq_ok.mpr ⟨head, wellFormed_eq_ok.mpr hhead, ?_⟩
    exact bind_eq_ok.mpr ⟨_, wellFormed_eq_ok.mpr found, rfl⟩
  have hverified : verify (.asymmetric keys) segments kid = .ok () := by
    refine bind_eq_ok.mpr ⟨_, chosen, ?_⟩
    refine bind_eq_ok.mpr ⟨(), checkHeader_of_isWellFormed hhead wellFormed, ?_⟩
    refine bind_eq_ok.mpr ⟨signature, wellFormed_eq_ok.mpr hsignature, ?_⟩
    rw [hsegments]
    exact if_pos valid
  rw [decode_of_verify hheader rfl hverified hbody, members]
  rfl

/-- A signed token is decoded as far as its claims are. -/
theorem decode_sign {secret header payload : String} {kid : Option String} {members : Members}
    (h : Header.Spelled (Utf8.encode header) kid members) :
    decode (.symmetric secret) (sign secret header payload) =
      claimsOfBytes (Utf8.encode payload) >>= fun claims => .ok ⟨.hs256, kid, claims⟩ := by
  obtain ⟨digest, hdigest⟩ : ∃ digest, digest = Crypto.hmacSha256 (Utf8.encode secret)
      (Utf8.encode (segment header ++ "." ++ segment payload)) := ⟨_, rfl⟩
  have hsegments : Segments.ofText? (sign secret header payload) =
      some ⟨segment header, segment payload, Base64Url.encodeText digest⟩ := by
    rw [hdigest]
    exact ofText?_encoded _ _ _
  have hheader : Token.header (sign secret header payload) =
      .ok (⟨segment header, segment payload, Base64Url.encodeText digest⟩,
        ⟨some Algorithm.hs256.name, kid⟩) := by
    unfold Token.header
    rw [hsegments]
    refine bind_eq_ok.mpr ⟨Utf8.encode header, ?_, ?_⟩
    · exact wellFormed_eq_ok.mpr (Base64Url.decodeText_encodeText _)
    · exact bind_eq_ok.mpr ⟨_, wellFormed_eq_ok.mpr h.ofBytes, rfl⟩
  have hverified : verify (.symmetric secret)
      ⟨segment header, segment payload, Base64Url.encodeText digest⟩ kid = .ok () := by
    refine verify_of_digest (Base64Url.decodeText_encodeText _) h.isWellFormed ?_
    rw [hdigest]
    exact Base64Url.decodeText_encodeText _
  exact decode_of_verify hheader rfl hverified (Base64Url.decodeText_encodeText _)

/-- A signed token of a header and an object is decoded with the secret to the members of the
object, unless the second reading stops in one of them: then it is not well formed. -/
theorem decoded_signed {secret header payload : String} {kid : Option String}
    {members written claims : Members} (head : Header.Spelled (Utf8.encode header) kid members)
    (body : Spelled (Utf8.encode payload) written claims) :
    decode (.symmetric secret) (sign secret header payload) =
      if ∀ entry ∈ written, isPassable entry.1 entry.2 = true then .ok ⟨.hs256, kid, claims⟩
      else .error undecodable := by
  rw [decode_sign head, body.claimsOfBytes]
  by_cases hreadable : isReadable written = true
  · rw [if_pos hreadable, if_pos (body.isReadable_iff.mp hreadable)]
    rfl
  · rw [if_neg hreadable, if_neg (mt body.isReadable_iff.mpr hreadable)]
    rfl

theorem spelled_plainHeader : Header.Spelled (Utf8.encode plainHeader) none
    [("typ", .string "JWT"), ("alg", .string "HS256")] where
  read := rfl
  distinct := by decide
  texts := by decide
  algorithm := rfl
  kid := rfl

/-- An empty array under the name of a time, and a number under that of the subject, are decoded as
they are. -/
theorem decoded_signed_lenient :
    decode (.symmetric "k") (sign "k" plainHeader "\x7b\"sub\":5,\"exp\":[]\x7d") =
      .ok ⟨.hs256, none, [("sub", .number (.whole 5)), ("exp", .array [])]⟩ := by
  have hbody : Spelled (Utf8.encode "\x7b\"sub\":5,\"exp\":[]\x7d")
      [("sub", .number (.whole 5)), ("exp", .array [])]
      [("sub", .number (.whole 5)), ("exp", .array [])] := ⟨rfl, by decide, rfl⟩
  rw [decoded_signed spelled_plainHeader hbody]
  rfl

/-- An object under the name of the subject keeps a signed token from being decoded. -/
theorem undecodable_of_structured_subject :
    ∃ secret header payload kid members written claims,
      Header.Spelled (Utf8.encode header) kid members ∧
      Spelled (Utf8.encode payload) written claims ∧
      decode (.symmetric secret) (sign secret header payload) ≠ .ok ⟨.hs256, kid, claims⟩ := by
  have hbody : Spelled (Utf8.encode "\x7b\"sub\":\x7b\"a\":1\x7d\x7d")
      [("sub", .object [("a", .number (.whole 1))])]
      [("sub", .object [("a", .number (.whole 1))])] := ⟨rfl, by decide, rfl⟩
  refine ⟨"k", plainHeader, _, none, _, _, _, spelled_plainHeader, hbody, ?_⟩
  have himpassable : isPassable "sub" (.object [("a", .number (.whole 1))]) = false := rfl
  rw [decode_sign spelled_plainHeader, hbody.claimsOfBytes, if_neg]
  · intro h
    cases h
  · intro hreadable
    have hpassable := hbody.isReadable_iff.mp hreadable _ List.mem_cons_self
    rw [himpassable] at hpassable
    cases hpassable

end Token

end RelyingParty
