import RelyingParty.Proofs.Token.Authentic
import RelyingParty.Token.Signed

/-!
# Canonical tokens

A segment that decodes is the one text of the bytes that it stands for: there is no other way to
write them. So nothing about a token can be changed without changing what it says, and for what is
signed with a client secret there is exactly one signature text.
-/

namespace RelyingParty

open Json Text

/-- What is there as an option was read. -/
theorem eq_ok_of_toOption {ε α : Type} {read : Except ε α} {value : α}
    (h : read.toOption = some value) : read = .ok value := by
  cases read with
  | error _ => cases h
  | ok other => exact congrArg Except.ok (Option.some.inj h)

namespace Base64Url

/-- The symbol for the six bits of a symbol is the symbol. -/
theorem symbol_of_sextet? {s : UInt8} {n : Nat} (h : sextet? s = some n) :
    n < 64 ∧ symbol n = s := by
  have hall : ∀ k : Fin 256, ∀ n ∈ sextet? (UInt8.ofNat k), n < 64 ∧ symbol n = UInt8.ofNat k := by
    decide +kernel
  have hs := hall ⟨s.toNat, s.toNat_lt⟩ n
  simp only [UInt8.ofNat_toNat] at hs
  exact hs h

/-- All symbols are ASCII characters, and none is the dot. -/
theorem symbol_ascii (n : Nat) : (symbol n).toNat < 128 ∧ (symbol n).toNat ≠ 0x2E := by
  unfold symbol
  split
  · rw [UInt8.toNat_ofNat']
    omega
  · split
    · rw [UInt8.toNat_ofNat']
      omega
    · split
      · rw [UInt8.toNat_ofNat']
        omega
      · split <;> decide

theorem exists_symbol_of_mem_encode {bytes : Bytes} {s : UInt8} (h : s ∈ encode bytes) :
    ∃ n, s = symbol n := by
  fun_induction encode bytes with
  | case1 => cases h
  | case2 a =>
    simp only [List.mem_cons, List.not_mem_nil, or_false] at h
    rcases h with rfl | rfl <;> exact ⟨_, rfl⟩
  | case3 a b =>
    simp only [List.mem_cons, List.not_mem_nil, or_false] at h
    rcases h with rfl | rfl | rfl <;> exact ⟨_, rfl⟩
  | case4 a b c rest ih =>
    simp only [List.mem_cons] at h
    rcases h with rfl | rfl | rfl | rfl | hrest
    · exact ⟨_, rfl⟩
    · exact ⟨_, rfl⟩
    · exact ⟨_, rfl⟩
    · exact ⟨_, rfl⟩
    · exact ih hrest

theorem sextetAt_eq_ok {offset n : Nat} {s : UInt8} (h : sextetAt offset s = .ok n) :
    n < 64 ∧ symbol n = s := by
  unfold sextetAt at h
  split at h
  · next hsextet =>
    cases h
    exact symbol_of_sextet? hsextet
  · cases h

/-- A group without padding consists of the symbols for what was found. -/
theorem splitPadding_eq_ok {offset index : Nat} {group : Bytes} {found : List Nat}
    (h : splitPadding offset index group = .ok (found, 0)) :
    group = found.map symbol ∧ ∀ n ∈ found, n < 64 := by
  induction group generalizing index found with
  | nil =>
    cases h
    exact ⟨rfl, fun _ h => absurd h List.not_mem_nil⟩
  | cons s rest ih =>
    unfold splitPadding at h
    split at h
    · split at h
      · cases h
      · split at h <;> cases h
    · simp only [bind_eq_ok] at h
      obtain ⟨n, hn, ⟨later, padding⟩, hlater, heq⟩ := h
      cases heq
      obtain ⟨hlt, hsymbol⟩ := sextetAt_eq_ok hn
      obtain ⟨hrest, hall⟩ := ih hlater
      refine ⟨by rw [List.map_cons, hsymbol, ← hrest], ?_⟩
      exact List.forall_mem_cons.mpr ⟨hlt, hall⟩

/-- Three bytes are encoded as the four sextets that they were put together from. -/
theorem encode_group {p q r s : Nat} (hp : p < 64) (hq : q < 64) (hr : r < 64) (hs : s < 64)
    (rest : Bytes) :
    encode (UInt8.ofNat (p * 4 + q / 16) :: UInt8.ofNat (q % 16 * 16 + r / 4) ::
      UInt8.ofNat (r % 4 * 64 + s) :: rest) =
      symbol p :: symbol q :: symbol r :: symbol s :: encode rest := by
  have hfirst : (p * 4 + q / 16) % 256 / 4 = p := by omega
  have hsecond : (p * 4 + q / 16) % 256 % 4 * 16 + (q % 16 * 16 + r / 4) % 256 / 16 = q := by omega
  have hthird : (q % 16 * 16 + r / 4) % 256 % 16 * 4 + (r % 4 * 64 + s) % 256 / 64 = r := by omega
  have hfourth : (r % 4 * 64 + s) % 256 % 64 = s := by omega
  simp only [encode, UInt8.toNat_ofNat', Nat.reducePow, hfirst, hsecond, hthird, hfourth]

/-- The bytes of a group are let through if it has no padding and no bits are left over. -/
theorem of_check {offset padding spare : Nat} {group put bytes : Bytes} {found : List Nat}
    {fault : Fault} (hsplit : splitPadding offset 0 group = .ok (found, padding))
    (h : (if padding ≠ 0 then .error .badPadding
      else if spare ≠ 0 then .error fault else .ok put : Except Fault Bytes) = .ok bytes) :
    put = bytes ∧ spare = 0 ∧ group = found.map symbol ∧ ∀ n ∈ found, n < 64 := by
  split at h
  · cases h
  · next hpadding =>
    split at h
    · cases h
    · next hspare =>
      obtain rfl := Decidable.not_not.mp hpadding
      obtain ⟨hsymbols, hall⟩ := splitPadding_eq_ok hsplit
      exact ⟨Except.ok.inj h, Decidable.not_not.mp hspare, hsymbols, hall⟩

/-- The last group is what its bytes are encoded as. -/
theorem encode_of_decodeLast {offset : Nat} {group bytes : Bytes} (short : group.length ≤ 4)
    (h : decodeLast offset group = .ok bytes) : encode bytes = group := by
  simp only [decodeLast, bind_eq_ok] at h
  obtain ⟨⟨found, padding⟩, hsplit, h⟩ := h
  match found with
  | [] =>
    dsimp only at h
    split at h
    · next hempty =>
      cases h
      exact (List.isEmpty_iff.mp hempty).symm
    · cases h
  | [_] => cases h
  | [a, b] =>
    obtain ⟨rfl, hspare, rfl, hall⟩ := of_check hsplit h
    have ha : a < 64 := hall a (by simp)
    have hb : b < 64 := hall b (by simp)
    have hfirst : (a * 4 + b / 16) % 256 / 4 = a := by omega
    have hsecond : (a * 4 + b / 16) % 256 % 4 * 16 = b := by omega
    simp only [encode, UInt8.toNat_ofNat', Nat.reducePow, hfirst, hsecond, List.map_cons,
      List.map_nil]
  | [a, b, c] =>
    obtain ⟨rfl, hspare, rfl, hall⟩ := of_check hsplit h
    have ha : a < 64 := hall a (by simp)
    have hb : b < 64 := hall b (by simp)
    have hc : c < 64 := hall c (by simp)
    have hfirst : (a * 4 + b / 16) % 256 / 4 = a := by omega
    have hsecond : (a * 4 + b / 16) % 256 % 4 * 16 + (b % 16 * 16 + c / 4) % 256 / 16 = b := by
      omega
    have hthird : (b % 16 * 16 + c / 4) % 256 % 16 * 4 = c := by omega
    simp only [encode, UInt8.toNat_ofNat', Nat.reducePow, hfirst, hsecond, hthird, List.map_cons,
      List.map_nil]
  | a :: b :: c :: d :: more =>
    obtain ⟨rfl, _, rfl, hall⟩ := of_check hsplit h
    obtain rfl : more = [] := by
      simp only [List.length_map, List.length_cons] at short
      exact List.length_eq_zero_iff.mp (by omega)
    rw [encode_group (hall a (by simp)) (hall b (by simp)) (hall c (by simp)) (hall d (by simp))]
    rfl

/-- Groups are what their bytes are encoded as. -/
theorem encode_of_decodeFrom {offset : Nat} {symbols bytes : Bytes}
    (h : decodeFrom offset symbols = .ok bytes) : encode bytes = symbols := by
  fun_induction decodeFrom offset symbols generalizing bytes with
  | case1 offset a b c d e rest ih =>
    simp only [bind_eq_ok] at h
    obtain ⟨p, hp, q, hq, r, hr, s, hs, later, hlater, heq⟩ := h
    cases heq
    obtain ⟨hpbound, rfl⟩ := sextetAt_eq_ok hp
    obtain ⟨hqbound, rfl⟩ := sextetAt_eq_ok hq
    obtain ⟨hrbound, rfl⟩ := sextetAt_eq_ok hr
    obtain ⟨hsbound, rfl⟩ := sextetAt_eq_ok hs
    rw [encode_group hpbound hqbound hrbound hsbound, ih hlater]
  | case2 offset group hshort =>
    refine encode_of_decodeLast ?_ h
    match group, hshort with
    | [], _ | [_], _ | [_, _], _ | [_, _, _], _ | [_, _, _, _], _ => simp
    | a :: b :: c :: d :: e :: rest, hshort => exact absurd rfl (hshort a b c d e rest)

/-- What decodes is what the bytes are encoded as. -/
theorem encode_of_decode {symbols bytes : Bytes} (h : decode symbols = .ok bytes) :
    encode bytes = symbols := by
  unfold decode at h
  split at h
  · next hlast =>
    cases h
    exact (List.getLast?_eq_none_iff.mp hlast).symm
  · split at h
    · cases h
    · exact encode_of_decodeFrom h

end Base64Url

/-- A text of ASCII characters is encoded by one byte for each. -/
theorem Text.Utf8.encode_ascii {bytes : Bytes} (ascii : ∀ b ∈ bytes, b.toNat < 128) :
    Utf8.encode (String.ofList (bytes.map fun b => Char.ofNat b.toNat)) = bytes := by
  have hchar : ∀ k : Fin 128, String.utf8EncodeChar (Char.ofNat k) = [UInt8.ofNat k] := by
    decide +kernel
  have hflat : (bytes.map fun b => Char.ofNat b.toNat).flatMap String.utf8EncodeChar = bytes := by
    induction bytes with
    | nil => rfl
    | cons b rest ih =>
      have hb := hchar ⟨b.toNat, ascii b List.mem_cons_self⟩
      rw [List.map_cons, List.flatMap_cons, hb, ih fun c hc => ascii c (List.mem_cons_of_mem _ hc),
        UInt8.ofNat_toNat]
      rfl
  simp only [Utf8.encode, String.toUTF8, String.ofList, List.utf8Encode, hflat,
    List.data_toByteArray]

/-- Texts with the same bytes are the same. -/
theorem Text.Utf8.encode_injective : Function.Injective Utf8.encode := by
  intro first last h
  have hdecoded := congrArg Utf8.decode? h
  rw [Utf8.decode?_encode, Utf8.decode?_encode] at hdecoded
  exact Option.some.inj hdecoded

namespace Base64Url

/-- The bytes of the text are the symbols. -/
theorem utf8_encodeText (bytes : Bytes) : Utf8.encode (encodeText bytes) = encode bytes := by
  apply Utf8.encode_ascii
  intro b hb
  obtain ⟨n, rfl⟩ := exists_symbol_of_mem_encode hb
  exact (symbol_ascii n).1

/-- A text that decodes is the one text of its bytes. -/
theorem eq_encodeText_of_decodeText {text : String} {bytes : Bytes}
    (h : decodeText text = .ok bytes) : text = encodeText bytes := by
  apply Utf8.encode_injective
  rw [utf8_encodeText, encode_of_decode h]

/-- A segment that holds bytes has no dot. -/
theorem dot_notMem_encodeText (bytes : Bytes) : '.' ∉ (encodeText bytes).toList := by
  intro h
  simp only [encodeText, String.toList_ofList, List.mem_map] at h
  obtain ⟨b, hb, hdot⟩ := h
  obtain ⟨n, rfl⟩ := exists_symbol_of_mem_encode hb
  obtain ⟨hascii, hne⟩ := symbol_ascii n
  have hall : ∀ k : Fin 128, Char.ofNat k = '.' → k.val = 0x2E := by decide +kernel
  exact hne (hall ⟨_, hascii⟩ hdot)

end Base64Url

/-- Segments without dots are found again between the dots of their text. -/
theorem Segments.eq_of_text_eq {header payload signature first second third : String}
    (undotted : ∀ segment ∈ [header, payload, signature], '.' ∉ segment.toList)
    (h : first ++ "." ++ second ++ "." ++ third =
      header ++ "." ++ payload ++ "." ++ signature) :
    first = header ∧ second = payload ∧ third = signature := by
  have hlists : ['.'].intercalate [first.toList, second.toList, third.toList] =
      ['.'].intercalate [header.toList, payload.toList, signature.toList] := by
    have hlists := congrArg String.toList h
    simpa [List.intercalate] using hlists
  have hclear : ∀ segment ∈ [header.toList, payload.toList, signature.toList], '.' ∉ segment := by
    simpa using undotted
  -- two dots are all that there are, so the other three segments have none either
  have hcount := congrArg (List.count '.') hlists
  have hnone : ∀ segment ∈ [first.toList, second.toList, third.toList], '.' ∉ segment := by
    simp only [List.mem_cons, List.not_mem_nil, or_false, forall_eq_or_imp, forall_eq] at hclear ⊢
    simp only [← List.count_eq_zero] at hclear ⊢
    simp only [List.intercalate, List.intersperse_cons_cons, List.intersperse_singleton,
      List.flatten_cons, List.flatten_nil, List.append_nil, List.cons_append, List.nil_append,
      List.count_append, List.count_cons_self] at hcount
    omega
  have hsplit := congrArg (List.splitOn '.') hlists
  rw [List.splitOn_intercalate _ hnone (by simp), List.splitOn_intercalate _ hclear (by simp)]
    at hsplit
  simpa [String.toList_inj] using hsplit

/-- Bytes are the text of an object, whose members are these: each name has its last value, in plain
form. -/
def Json.Holds (bytes : Bytes) (members : Members) : Prop :=
  ∃ written plain, readValue bytes = .ok (.object written) ∧
    plainMembers (fun text => do Json.plain bytes.length (← readValue (Utf8.encode text))) written =
      .ok plain ∧ members = plain.merged

namespace Token

theorem holds_of_claimsOfBytes {bytes : Bytes} {claims : Members}
    (h : claimsOfBytes bytes = .ok claims) : Json.Holds bytes claims := by
  simp only [claimsOfBytes, bind_eq_ok, wellFormed_eq_ok] at h
  obtain ⟨value, hvalue, h⟩ := h
  split at h
  · next members =>
    simp only [bind_eq_ok, wellFormed_eq_ok] at h
    obtain ⟨plain, hplain, h⟩ := h
    split at h
    · cases h
      exact ⟨members, plain, hvalue, hplain, rfl⟩
    · cases h
  · cases h

theorem checkHeader_eq_ok {segments : Segments} (h : checkHeader segments = .ok ()) :
    ∃ bytes, Base64Url.decodeText segments.header = .ok bytes ∧
      Header.isWellFormed bytes = true := by
  simp only [checkHeader, bind_eq_ok, wellFormed_eq_ok] at h
  obtain ⟨bytes, hbytes, h⟩ := h
  split at h
  · next wellFormed => exact ⟨bytes, hbytes, wellFormed⟩
  · cases h

/-- Three segments are a token under a client secret, in the only way in which it can be written. -/
structure Sealed (secret : String) (token : Token) (first second third : String) : Prop where
  /-- No segment has a dot. -/
  undotted : ∀ segment ∈ [first, second, third], '.' ∉ segment.toList
  /-- The first is the one text of a header that names the algorithm, and the key of the token. -/
  header : ∃ bytes found, first = Base64Url.encodeText bytes ∧ Header.ofBytes bytes = .ok found ∧
    Header.isWellFormed bytes = true ∧ found.algorithm = some Algorithm.hs256.name ∧
    found.kid = token.keyId
  /-- The second is the one text of a JSON object, which holds the claims of the token. -/
  payload : ∃ bytes, second = Base64Url.encodeText bytes ∧ Json.Holds bytes token.claims
  /-- The third is the one text of the digest of the first two, keyed with the secret. -/
  signature : third = Base64Url.encodeText
    (Crypto.hmacSha256 (Utf8.encode secret) (Utf8.encode (first ++ "." ++ second)))
  /-- The token has the algorithm. -/
  algorithm : token.algorithm = .hs256

/-- A text that a client secret accepts consists of segments in their only form. -/
theorem sealed_of_decode {secret text : String} {token : Token}
    (h : decode (.symmetric secret) text = .ok token) :
    ∃ first second third, text = first ++ "." ++ second ++ "." ++ third ∧
      Sealed secret token first second third := by
  obtain ⟨segments, head, header, payload, htext, hhead, hheader, hname, hverify, hpayload, hclaims,
    halgorithm, hkid⟩ := decode_eq_ok h
  simp only [verify, bind_eq_ok] at hverify
  obtain ⟨_, hchecked, hsigned⟩ := hverify
  obtain ⟨bytes, hbytes, hwellFormed⟩ := checkHeader_eq_ok hchecked
  obtain rfl := Except.ok.inj (hbytes.symm.trans hhead)
  obtain ⟨signature, hsignature, hvalid⟩ := checkSignature_eq_ok hsigned
  have hfirst := Base64Url.eq_encodeText_of_decodeText hhead
  have hsecond := Base64Url.eq_encodeText_of_decodeText hpayload
  have hthird := Base64Url.eq_encodeText_of_decodeText hsignature
  refine ⟨segments.header, segments.payload, segments.signature, htext, ?_, ?_, ?_, ?_, halgorithm⟩
  · intro segment hsegment
    simp only [List.mem_cons, List.not_mem_nil, or_false] at hsegment
    rcases hsegment with rfl | rfl | rfl
    · rw [hfirst]
      exact Base64Url.dot_notMem_encodeText _
    · rw [hsecond]
      exact Base64Url.dot_notMem_encodeText _
    · rw [hthird]
      exact Base64Url.dot_notMem_encodeText _
  · exact ⟨bytes, header, hfirst, hheader, hwellFormed, hname, hkid.symm⟩
  · exact ⟨payload, hsecond, holds_of_claimsOfBytes hclaims⟩
  · rw [hthird, eq_of_beq hvalid]
    rfl

/-- A text that a client secret accepts is made of segments in their only form, under a signature of
its own; and for given first two segments there is at most one signature text that it accepts. -/
theorem canonical_symmetric (secret : String) :
    (∀ text token, decode (.symmetric secret) text = .ok token →
      ∃ first second third, text = first ++ "." ++ second ++ "." ++ third ∧
        Sealed secret token first second third) ∧
    ∀ first second third other token again,
      decode (.symmetric secret) (first ++ "." ++ second ++ "." ++ third) = .ok token →
      decode (.symmetric secret) (first ++ "." ++ second ++ "." ++ other) = .ok again →
      third = other := by
  refine ⟨fun text token h => sealed_of_decode h, ?_⟩
  intro first second third other token again hdecode hagain
  obtain ⟨_, _, _, htext, hsealed⟩ := sealed_of_decode hdecode
  obtain ⟨rfl, rfl, rfl⟩ := Segments.eq_of_text_eq hsealed.undotted htext
  obtain ⟨_, _, _, hother, hsealedAgain⟩ := sealed_of_decode hagain
  obtain ⟨rfl, rfl, rfl⟩ := Segments.eq_of_text_eq hsealedAgain.undotted hother
  rw [hsealed.signature, hsealedAgain.signature]

/-- A signed token, which no other signature text can replace. -/
theorem canonical_symmetric_signed :
    let text := sign "k" plainHeader "\x7b\"sub\":\"s\",\"exp\":[]\x7d"
    ∃ token first second third, decode (.symmetric "k") text = .ok token ∧
      text = first ++ "." ++ second ++ "." ++ third ∧ Sealed "k" token first second third ∧
      ∀ other again, decode (.symmetric "k") (first ++ "." ++ second ++ "." ++ other) = .ok again →
        third = other := by
  intro text
  have haccepted : (decode (.symmetric "k") text).toOption.isSome = true := by decide +kernel
  obtain ⟨token, htoken⟩ := Option.isSome_iff_exists.mp haccepted
  have hdecode := eq_ok_of_toOption htoken
  obtain ⟨first, second, third, htext, hsealed⟩ :=
    (canonical_symmetric "k").1 text token hdecode
  refine ⟨token, first, second, third, hdecode, htext, hsealed, fun other again hagain => ?_⟩
  rw [htext] at hdecode
  exact (canonical_symmetric "k").2 first second third other token again hdecode hagain

end Token

end RelyingParty
