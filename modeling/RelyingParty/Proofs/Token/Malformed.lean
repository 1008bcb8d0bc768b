import RelyingParty.Proofs.Token.HeaderText
import RelyingParty.Proofs.Token.Screening

/-!
# Malformed tokens

The first look at a token wants three segments, of which the first is the base64url of an object, or
of an array, that may be a header. Every other text is rejected there, in the same words for every
verifier. An array does not get far either: it is compared like the object of its items, but if a key
is found for it the second look, which only takes an object, rejects it.
-/

namespace RelyingParty

open Json Text

/-- A sequence of two steps fails exactly when one of them does. -/
theorem bind_eq_error {ε α β : Type} {step : Except ε α} {next : α → Except ε β} {error : ε} :
    (step >>= next) = .error error ↔
      step = .error error ∨ ∃ value, step = .ok value ∧ next value = .error error := by
  cases step <;> simp [bind, Except.bind]

/-- No piece of a list that is split holds what it is split at. -/
theorem notMem_of_mem_splitOn {α : Type} [BEq α] [LawfulBEq α] {separator : α} {text piece : List α}
    (h : piece ∈ text.splitOn separator) : separator ∉ piece := by
  induction text generalizing piece with
  | nil =>
    obtain rfl : piece = [] := by simpa using h
    exact List.not_mem_nil
  | cons a rest ih =>
    rw [List.splitOn_cons_eq_if_modifyHead] at h
    split at h
    · rcases List.mem_cons.mp h with rfl | hrest
      · exact List.not_mem_nil
      · exact ih hrest
    · next hother =>
      cases hsplit : rest.splitOn separator with
      | nil => exact absurd hsplit (List.splitOn_ne_nil _ _)
      | cons first others =>
        rw [hsplit] at h ih
        rcases List.mem_cons.mp h with rfl | hlater
        · intro hmember
          rcases List.mem_cons.mp hmember with rfl | hfirst
          · exact hother (beq_self_eq_true _)
          · exact ih List.mem_cons_self hfirst
        · exact ih (List.mem_cons_of_mem _ hlater)

/-- A text has segments exactly when it is three texts without dots and two dots between them. -/
theorem Segments.ofText?_eq_some_iff {text : String} {segments : Segments} :
    ofText? text = some segments ↔
      text = segments.header ++ "." ++ segments.payload ++ "." ++ segments.signature ∧
        ∀ segment ∈ [segments.header, segments.payload, segments.signature],
          '.' ∉ segment.toList := by
  constructor
  · intro h
    refine ⟨text_of_ofText? h, ?_⟩
    have hpieces : text.toList.splitOn '.' =
        [segments.header.toList, segments.payload.toList, segments.signature.toList] := by
      unfold ofText? at h
      split at h
      · next hsplit =>
        obtain rfl := Option.some.inj h
        simpa only [String.toList_ofList] using hsplit
      · cases h
    intro segment hsegment
    have hpiece : segment.toList ∈ text.toList.splitOn '.' := by
      rw [hpieces]
      exact List.mem_map_of_mem hsegment
    exact notMem_of_mem_splitOn hpiece
  · rintro ⟨rfl, undotted⟩
    exact ofText?_join segments undotted

namespace Header

open Json.Reader

/-- A member is given at most once, or not at all if it has been given before, and its value is a
string or `null`. -/
def Once (name : String) (given : Bool) (members : List (String × Bytes)) : Prop :=
  (members.map Prod.fst).count name + given.toNat ≤ 1 ∧
    ∀ value, (name, value) ∈ members → ∃ found, TextOrNull value found

theorem once_cons_self {name : String} {given : Bool} {value : Bytes}
    {rest : List (String × Bytes)} :
    Once name given ((name, value) :: rest) ↔
      given = false ∧ (∃ found, TextOrNull value found) ∧ Once name true rest := by
  unfold Once
  rw [List.map_cons, List.count_cons_self]
  constructor
  · rintro ⟨hcount, hvalues⟩
    have hgiven : given = false := by
      rw [← Bool.toNat_eq_zero]
      omega
    refine ⟨hgiven, hvalues value List.mem_cons_self, ?_, fun other hother =>
      hvalues other (List.mem_cons_of_mem _ hother)⟩
    rw [Bool.toNat_true]
    omega
  · rintro ⟨rfl, hvalue, hcount, hvalues⟩
    refine ⟨hcount, fun other hother => ?_⟩
    rcases List.mem_cons.mp hother with heq | hrest
    · obtain rfl := (Prod.mk.inj heq).2
      exact hvalue
    · exact hvalues other hrest

theorem once_cons_of_ne {name other : String} (ne : other ≠ name) {given : Bool} {value : Bytes}
    {rest : List (String × Bytes)} :
    Once name given ((other, value) :: rest) ↔ Once name given rest := by
  unfold Once
  rw [List.map_cons, List.count_cons_of_ne ne]
  refine and_congr_right fun _ => forall_congr' fun found => ?_
  rw [List.mem_cons, Prod.mk.injEq]
  simp [ne.symm]

/-- What the algorithm is taken for. -/
theorem step_algorithm_iff {value : Bytes} {seen next : Seen} :
    Step "alg" value seen next ↔
      seen.1 = none ∧ ∃ found, TextOrNull value found ∧ next = (some found, seen.2) := by
  constructor
  · intro h
    generalize hname : "alg" = name at h
    cases h with
    | algorithm htext => exact ⟨rfl, _, htext, rfl⟩
    | kid => exact absurd hname (by decide)
    | other ne => exact absurd hname.symm ne
  · obtain ⟨algorithm, kid⟩ := seen
    rintro ⟨rfl, found, htext, rfl⟩
    exact .algorithm htext

/-- What the identifier of the key is taken for. -/
theorem step_kid_iff {value : Bytes} {seen next : Seen} :
    Step "kid" value seen next ↔
      seen.2 = none ∧ ∃ found, TextOrNull value found ∧ next = (seen.1, some found) := by
  constructor
  · intro h
    generalize hname : "kid" = name at h
    cases h with
    | algorithm => exact absurd hname (by decide)
    | kid htext => exact ⟨rfl, _, htext, rfl⟩
    | other _ ne => exact absurd hname.symm ne
  · obtain ⟨algorithm, kid⟩ := seen
    rintro ⟨rfl, found, htext, rfl⟩
    exact .kid htext

theorem step_other_iff {name : String} {value : Bytes} {seen next : Seen} (halg : name ≠ "alg")
    (hkid : name ≠ "kid") : Step name value seen next ↔ next = seen := by
  constructor
  · intro h
    cases h with
    | algorithm => exact absurd rfl halg
    | kid => exact absurd rfl hkid
    | other => rfl
  · rintro rfl
    exact .other halg hkid

/-- Members are taken for a header when both of those that matter are given at most once, each as a
string or `null`. -/
theorem exists_leads_iff {members : List (String × Bytes)} {seen : Seen} :
    (∃ last, Leads Step members seen last) ↔
      Once "alg" seen.1.isSome members ∧ Once "kid" seen.2.isSome members := by
  have honce : ∀ found : Option (Option String), found.isSome = false ↔ found = none :=
    fun _ => Option.isSome_eq_false_iff.trans Option.isNone_iff_eq_none
  induction members generalizing seen with
  | nil =>
    have hnone : ∀ name given, Once name given [] := by
      intro name given
      cases given <;> simp [Once]
    exact ⟨fun _ => ⟨hnone _ _, hnone _ _⟩, fun _ => ⟨seen, .nil seen⟩⟩
  | cons entry rest ih =>
    obtain ⟨name, value⟩ := entry
    have hcons : (∃ last, Leads Step ((name, value) :: rest) seen last) ↔
        ∃ next, Step name value seen next ∧ ∃ last, Leads Step rest next last := by
      constructor
      · rintro ⟨last, hleads⟩
        cases hleads with
        | cons hstep hlater => exact ⟨_, hstep, last, hlater⟩
      · rintro ⟨next, hstep, last, hlater⟩
        exact ⟨last, .cons hstep hlater⟩
    rw [hcons]
    by_cases halg : name = "alg"
    · subst halg
      rw [once_cons_self, once_cons_of_ne (by decide), honce]
      simp only [step_algorithm_iff, ih]
      constructor
      · rintro ⟨_, ⟨hnone, found, htext, rfl⟩, hlater, hkid⟩
        exact ⟨⟨hnone, ⟨found, htext⟩, hlater⟩, hkid⟩
      · rintro ⟨⟨hnone, ⟨found, htext⟩, hlater⟩, hkid⟩
        exact ⟨_, ⟨hnone, found, htext, rfl⟩, hlater, hkid⟩
    by_cases hkid : name = "kid"
    · subst hkid
      rw [once_cons_of_ne (by decide), once_cons_self, honce]
      simp only [step_kid_iff, ih]
      constructor
      · rintro ⟨_, ⟨hnone, found, htext, rfl⟩, halg, hlater⟩
        exact ⟨halg, hnone, ⟨found, htext⟩, hlater⟩
      · rintro ⟨halg, hnone, ⟨found, htext⟩, hlater⟩
        exact ⟨_, ⟨hnone, found, htext, rfl⟩, halg, hlater⟩
    · rw [once_cons_of_ne halg, once_cons_of_ne hkid]
      simp only [step_other_iff halg hkid, exists_eq_left, ih]

/-- The text of an object that may be a header: the algorithm and the identifier of the key are
given at most once, each as a string or `null`. -/
def IsObject (bytes : Bytes) : Prop :=
  ∃ members, ObjectText bytes members ∧ ∀ name ∈ ["alg", "kid"],
    (members.map Prod.fst).count name ≤ 1 ∧
      ∀ value, (name, value) ∈ members → ∃ found, TextOrNull value found

theorem isObject_iff {bytes : Bytes} : IsObject bytes ↔ ∃ header, ObjectHeader bytes header := by
  have honce : ∀ name members, Once name false members ↔
      (members.map Prod.fst).count name ≤ 1 ∧
        ∀ value, (name, value) ∈ members → ∃ found, TextOrNull value found :=
    fun _ _ => Iff.rfl
  simp only [IsObject, List.forall_mem_cons, List.not_mem_nil, false_implies, implies_true,
    and_true, ← honce]
  constructor
  · rintro ⟨members, htext, honces⟩
    have hleads : ∃ last, Leads Step members (none, none) last := exists_leads_iff.mpr honces
    obtain ⟨seen, hleads⟩ := hleads
    exact ⟨complete seen, members, seen, htext, hleads, rfl⟩
  · rintro ⟨_, members, seen, htext, hleads, rfl⟩
    exact ⟨members, htext, exists_leads_iff.mp ⟨seen, hleads⟩⟩

/-- The first byte of an object behind blanks. -/
theorem ahead_of_objectText {bytes : Bytes} {members : List (String × Bytes)}
    (h : ObjectText bytes members) :
    (afterBlanks ⟨1, 0⟩ bytes).rest.head? = some (byte '{') := by
  obtain ⟨lead, content, trail, hlead, -, -, rfl⟩ := h
  obtain ⟨reached, hrest, hpasses⟩ :=
    Cursor.exists_passes lead (byte '{' :: (content ++ byte '\x7d' :: trail)) ⟨1, 0⟩
  have hahead : reached.rest.head? = some (byte '{') := by rw [hrest, List.head?_cons]
  have hpeek : peekPastBlanks (Cursor.start _) = .ok (some (byte '{')) reached :=
    peekPastBlanks_eq_ok.mpr ⟨lead, hlead, hpasses, hahead, by rintro _ ⟨⟩; decide⟩
  exact (EStateM.Result.ok.inj hpeek).1

/-- The first byte of an array behind blanks. -/
theorem ahead_of_arrayHeader {bytes : Bytes} {header : Header} (h : ArrayHeader bytes header) :
    (afterBlanks ⟨1, 0⟩ bytes).rest.head? = some (byte '[') := by
  obtain ⟨lead, inner, trail, hlead, -, -, rfl⟩ := h
  obtain ⟨reached, hrest, hpasses⟩ :=
    Cursor.exists_passes lead (byte '[' :: (inner ++ trail)) ⟨1, 0⟩
  have hahead : reached.rest.head? = some (byte '[') := by rw [hrest, List.head?_cons]
  have hpeek : peekPastBlanks (Cursor.start _) = .ok (some (byte '[')) reached :=
    peekPastBlanks_eq_ok.mpr ⟨lead, hlead, hpasses, hahead, by rintro _ ⟨⟩; decide⟩
  exact (EStateM.Result.ok.inj hpeek).1

/-- The second look rejects every array. -/
theorem isWellFormed_of_arrayHeader {bytes : Bytes} {header : Header}
    (h : ArrayHeader bytes header) : isWellFormed bytes = false := by
  unfold isWellFormed
  split
  · next members hread =>
    obtain ⟨reached, _, hvalue, -⟩ := readWith_eq_ok.mp hread
    obtain ⟨_, opened, _, _, -, hpeek, -⟩ := (valueWith_eq_ok hvalue).2 members rfl
    have hbrace := (EStateM.Result.ok.inj hpeek).1
    exact absurd ((ahead_of_arrayHeader h).symm.trans hbrace) (by decide)
  · rfl

end Header

namespace Token

/-- A text of three segments, the first of which is the base64url of bytes of some form. -/
def HasHeader (text : String) (form : Bytes → Prop) : Prop :=
  ∃ bytes payload signature, '.' ∉ payload.toList ∧ '.' ∉ signature.toList ∧
    text = Base64Url.encodeText bytes ++ "." ++ payload ++ "." ++ signature ∧ form bytes

theorem HasHeader.mono {text : String} {form other : Bytes → Prop} (h : HasHeader text form)
    (weaker : ∀ bytes, form bytes → other bytes) : HasHeader text other := by
  obtain ⟨bytes, payload, signature, hpayload, hsignature, htext, hform⟩ := h
  exact ⟨bytes, payload, signature, hpayload, hsignature, htext, weaker bytes hform⟩

/-- The first look at a text with segments is the first look at the bytes of its header. -/
theorem header_join {payload signature : String} (hpayload : '.' ∉ payload.toList)
    (hsignature : '.' ∉ signature.toList) (bytes : Bytes) :
    header (Base64Url.encodeText bytes ++ "." ++ payload ++ "." ++ signature) = do
      return (⟨Base64Url.encodeText bytes, payload, signature⟩,
        ← wellFormed (Header.ofBytes bytes)) := by
  have hsplit := Segments.ofText?_join ⟨Base64Url.encodeText bytes, payload, signature⟩
    (by simp [Base64Url.dot_notMem_encodeText, hpayload, hsignature])
  simp only [header, hsplit, Base64Url.decodeText_encodeText]
  rfl

/-- The header of a text is read where it has one of a form that the first look accepts. -/
theorem exists_header_eq_ok_iff {text : String} {found : Header} :
    (∃ segments, header text = .ok (segments, found)) ↔
      HasHeader text fun bytes => Header.ofBytes bytes = .ok found := by
  constructor
  · rintro ⟨segments, h⟩
    unfold header at h
    split at h
    · cases h
    next other hsegments =>
    simp only [bind_eq_ok, wellFormed_eq_ok] at h
    obtain ⟨bytes, hbytes, _, hfound, heq⟩ := h
    cases heq
    obtain ⟨htext, hundotted⟩ := Segments.ofText?_eq_some_iff.mp hsegments
    simp only [List.forall_mem_cons] at hundotted
    refine ⟨bytes, segments.payload, segments.signature, hundotted.2.1, hundotted.2.2.1, ?_, hfound⟩
    rw [← Base64Url.eq_encodeText_of_decodeText hbytes]
    exact htext
  · rintro ⟨bytes, payload, signature, hpayload, hsignature, rfl, hfound⟩
    refine ⟨⟨Base64Url.encodeText bytes, payload, signature⟩, ?_⟩
    rw [header_join hpayload hsignature bytes, hfound]
    rfl

/-- A text with segments has one header only. -/
theorem hasHeader_join {bytes : Bytes} {payload signature : String} (hpayload : '.' ∉ payload.toList)
    (hsignature : '.' ∉ signature.toList) {form : Bytes → Prop} :
    HasHeader (Base64Url.encodeText bytes ++ "." ++ payload ++ "." ++ signature) form ↔
      form bytes := by
  constructor
  · rintro ⟨other, first, last, hfirst, hlast, htext, hform⟩
    obtain ⟨hheader, -, -⟩ := Segments.eq_of_text_eq
      (by simp [Base64Url.dot_notMem_encodeText, hfirst, hlast]) htext
    have hbytes := congrArg Base64Url.decodeText hheader
    rw [Base64Url.decodeText_encodeText, Base64Url.decodeText_encodeText] at hbytes
    rwa [Except.ok.inj hbytes]
  · exact fun hform => ⟨bytes, payload, signature, hpayload, hsignature, rfl, hform⟩

theorem wellFormed_eq_error {ε α : Type} {read : Except ε α} {error : ValidationError}
    (h : wellFormed read = .error error) : error = undecodable := by
  cases read with
  | error _ => exact (Except.error.inj h).symm
  | ok _ => cases h

/-- Every failure of the first look is told in the same words. -/
theorem header_eq_error {text : String} {error : ValidationError} (h : header text = .error error) :
    error = undecodable := by
  unfold header at h
  split at h
  · exact (Except.error.inj h).symm
  next segments hsegments =>
  rcases bind_eq_error.mp h with hbytes | ⟨bytes, -, hrest⟩
  · exact wellFormed_eq_error hbytes
  rcases bind_eq_error.mp hrest with hfound | ⟨found, -, hdone⟩
  · exact wellFormed_eq_error hfound
  · cases hdone

/-- A text whose header is neither an object nor an array is rejected by every verifier in the same
words. -/
theorem decode_of_no_header {text : String} (object : ¬ HasHeader text Header.IsObject)
    (array : ∀ header, ¬ HasHeader text fun bytes => Header.ArrayHeader bytes header)
    (verifier : Verifier) : decode verifier text = .error undecodable := by
  cases hheader : header text with
  | error error =>
    obtain rfl := header_eq_error hheader
    simp only [decode, hheader]
    rfl
  | ok read =>
    obtain ⟨segments, found⟩ := read
    obtain ⟨bytes, payload, signature, hpayload, hsignature, htext, hfound⟩ :=
      exists_header_eq_ok_iff.mp ⟨segments, hheader⟩
    rcases Header.ofBytes_eq_ok.mp hfound with hobject | harray
    · exact absurd ⟨bytes, payload, signature, hpayload, hsignature, htext,
        Header.isObject_iff.mpr ⟨found, hobject⟩⟩ object
    · exact absurd ⟨bytes, payload, signature, hpayload, hsignature, htext, harray⟩ (array found)

/-- What a verifier says to a text whose header is an array: that the algorithm is another one, that
there is no key, or, if there is nothing to say against either, that the text cannot be decoded. -/
def arrayAnswer (verifier : Verifier) (found : Header) : Except ValidationError Token :=
  if found.algorithm = some verifier.algorithm.name then
    match verifier with
    | .symmetric _ => .error undecodable
    | .asymmetric keys => do
      let _ ← keyFor keys found.kid
      .error undecodable
  else .error (.unsupportedAlgorithm verifier.algorithm.name (found.algorithm.getD ""))

theorem decode_of_array {text : String} {found : Header}
    (array : HasHeader text fun bytes => Header.ArrayHeader bytes found) (verifier : Verifier) :
    decode verifier text = arrayAnswer verifier found := by
  obtain ⟨bytes, payload, signature, hpayload, hsignature, rfl, harray⟩ := array
  have hheader := header_join hpayload hsignature bytes
  rw [Header.ofBytes_eq_ok.mpr (Or.inr harray)] at hheader
  have hcheck : checkHeader ⟨Base64Url.encodeText bytes, payload, signature⟩ =
      .error undecodable := by
    simp only [checkHeader, Base64Url.decodeText_encodeText]
    change (if Header.isWellFormed bytes then _ else _) = _
    rw [Header.isWellFormed_of_arrayHeader harray]
    rfl
  rw [decode_of_header hheader]
  unfold arrayAnswer
  refine if_congr Iff.rfl ?_ rfl
  cases verifier with
  | symmetric secret =>
    simp only [opened, verify, hcheck]
    rfl
  | asymmetric keys =>
    simp only [opened, verify, hcheck]
    cases keyFor keys found.kid <;> rfl

end Token

end RelyingParty
