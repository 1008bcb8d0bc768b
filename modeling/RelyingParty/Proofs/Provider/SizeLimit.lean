import Mathlib.Tactic.Common
import RelyingParty.Provider.Client

/-!
# The limit on the size of a document

A body that arrives in chunks is refused exactly if its bytes are more than allowed, and otherwise
comes to what its bytes come to, wherever it was cut. What has been gathered on the way is the part
of the body that has arrived, and never more than allowed. A body that declares its length and
arrives to its end comes to the same, although it is refused before any of it is read.
-/

namespace RelyingParty

open Text

/-- The text that bytes decode to is the one that they encode. -/
theorem Text.Utf8.decode_eq_ok_iff {bytes : Bytes} {text : String} :
    Utf8.decode bytes = .ok text ↔ Utf8.encode text = bytes := by
  constructor
  · intro h
    unfold Utf8.decode at h
    split at h
    · next found hfound =>
      cases h
      simp only [String.fromUTF8?] at hfound
      split at hfound
      · next hvalid =>
        cases hfound
        simp only [Utf8.encode, String.fromUTF8, String.toUTF8]
      · cases hfound
    · cases h
  · rintro rfl
    have hdecoded := Utf8.decode?_encode text
    unfold Utf8.decode? at hdecoded
    rw [Utf8.decode, hdecoded]

namespace Response

section Gathering

variable {limit : Nat} {body : Bytes}

/-- Gathering fails exactly if the chunks take the body beyond the limit; otherwise it appends
them. -/
theorem gather_eq (chunks : List Bytes) (h : body.length ≤ limit) :
    gather limit body chunks =
      if limit < body.length + chunks.flatten.length then none
      else some (body ++ chunks.flatten) := by
  -- The body grows from chunk to chunk, and it is within the limit as long as gathering goes on.
  induction chunks generalizing body with
  | nil =>
    have hfits : ¬limit < body.length := by omega
    simp only [gather, List.flatten_nil, List.length_nil, Nat.add_zero, if_neg hfits,
      List.append_nil]
  | cons chunk rest ih =>
    rw [gather, List.flatten_cons, List.length_append]
    by_cases hchunk : limit < body.length + chunk.length
    · have hwhole : limit < body.length + (chunk.length + rest.flatten.length) := by omega
      rw [if_pos hchunk, if_pos hwhole]
    · have hlength : (body ++ chunk).length ≤ limit := by
        rw [List.length_append]
        omega
      rw [if_neg hchunk, ih hlength, List.length_append, List.append_assoc, Nat.add_assoc]

/-- What follows is appended to what was gathered before. -/
theorem gather_append (before after : List Bytes) :
    gather limit body (before ++ after) =
      (gather limit body before).bind fun gathered => gather limit gathered after := by
  induction before generalizing body with
  | nil => rfl
  | cons chunk rest ih =>
    rw [List.cons_append, gather, gather]
    split
    · rfl
    · exact ih

/-- What has been gathered is what has arrived, and within the limit. -/
theorem gathered {chunks : List Bytes} (h : gather limit [] chunks = some body) :
    body = chunks.flatten ∧ body.length ≤ limit := by
  rw [gather_eq chunks (Nat.zero_le limit)] at h
  split at h
  · cases h
  · next hfits =>
    cases h
    rw [List.length_nil, Nat.zero_add] at hfits
    rw [List.nil_append]
    exact ⟨rfl, by omega⟩

end Gathering

/-- What is told when a body ends too early. -/
def unreadReason : String := "failed to read response: error decoding response body"

/-- What is told when a body is not UTF-8. -/
def undecodableReason (fault : Utf8.Fault) : String :=
  "response is not UTF-8: " ++ fault.message

/-- What an answer comes to of which `body` arrives, all of it or not. -/
structure Judges (text : String) (limit : Nat) (body : Bytes) (isComplete : Bool)
    (result : Except RetrievalError String) : Prop where
  /-- It is refused exactly if more has arrived than allowed. -/
  tooLarge : result = .error (.tooLarge text limit) ↔ limit < body.length
  /-- Within the limit, a body that ends too early is found out first. -/
  unread : result = .error (.transport text unreadReason) ↔
    body.length ≤ limit ∧ isComplete = false
  /-- A body within the limit that arrives to its end may still not be UTF-8. -/
  undecodable : (∃ fault, result = .error (.transport text (undecodableReason fault))) ↔
    body.length ≤ limit ∧ isComplete = true ∧ ∀ document, Utf8.encode document ≠ body
  /-- Otherwise the document is what the bytes encode. -/
  document : ∀ document, result = .ok document ↔
    body.length ≤ limit ∧ isComplete = true ∧ Utf8.encode document = body

section Arrival

variable (text : String) (limit : Nat) (body : Bytes)

/-- What the bytes that have arrived of a body come to, all of them or not. -/
def arrived (isComplete : Bool) : Except RetrievalError String :=
  if limit < body.length then .error (.tooLarge text limit)
  else if isComplete then textOf text body
  else .error (.transport text unreadReason)

/-- The two reasons are told apart by their first letter. -/
theorem undecodableReason_ne (fault : Utf8.Fault) : undecodableReason fault ≠ unreadReason := by
  intro h
  have hhead : ("response is not UTF-8: " ++ fault.message).toList.head? =
      unreadReason.toList.head? :=
    congrArg (fun reason => reason.toList.head?) h
  have hfirst : "response is not UTF-8: ".toList.head? = some 'r' := by decide
  have hother : unreadReason.toList.head? = some 'f' := by decide
  rw [String.toList_append, List.head?_append, hfirst, hother, Option.some_or] at hhead
  exact absurd (Option.some.inj hhead) (by decide)

/-- A body that is UTF-8 comes to its text. -/
theorem textOf_eq_ok_iff (document : String) :
    textOf text body = .ok document ↔ Utf8.encode document = body := by
  rw [← Utf8.decode_eq_ok_iff, textOf]
  split
  · next found hfound => rw [hfound, Except.ok.injEq, Except.ok.injEq]
  · next fault hfault => simp only [hfault, reduceCtorEq]

/-- A body that is not UTF-8 is told to be so. -/
theorem exists_textOf_eq_error (h : ∀ document, Utf8.encode document ≠ body) :
    ∃ fault, textOf text body = .error (.transport text (undecodableReason fault)) := by
  rw [textOf]
  split
  · next found hfound => exact absurd (Utf8.decode_eq_ok_iff.mp hfound) (h found)
  · next fault _ => exact ⟨fault, rfl⟩

/-- A whole body within the limit is judged by its text. -/
theorem judges_textOf (hle : body.length ≤ limit) :
    Judges text limit body true (textOf text body) := by
  have hlimit : ¬limit < body.length := by omega
  have hdocument : ∀ document, textOf text body = .ok document ↔
      body.length ≤ limit ∧ true = true ∧ Utf8.encode document = body := by
    intro document
    rw [textOf_eq_ok_iff]
    exact ⟨fun h => ⟨hle, rfl, h⟩, fun h => h.2.2⟩
  by_cases hencoded : ∃ document, Utf8.encode document = body
  · obtain ⟨document, hbytes⟩ := hencoded
    have htext : textOf text body = .ok document := (textOf_eq_ok_iff text body document).mpr hbytes
    refine ⟨?tooLarge, ?unread, ?undecodable, hdocument⟩
    case tooLarge => simp only [htext, reduceCtorEq, hlimit]
    case unread => simp only [htext, reduceCtorEq, Bool.true_eq_false, and_false]
    case undecodable =>
      constructor
      · rintro ⟨fault, hfault⟩
        cases htext.symm.trans hfault
      · rintro ⟨_, _, hnone⟩
        exact absurd hbytes (hnone document)
  · have hnone := not_exists.mp hencoded
    obtain ⟨fault, hfault⟩ := exists_textOf_eq_error text body hnone
    refine ⟨?tooLarge, ?unread, ?undecodable, hdocument⟩
    case tooLarge => simp only [hfault, Except.error.injEq, reduceCtorEq, hlimit]
    case unread =>
      simp only [hfault, Except.error.injEq, RetrievalError.transport.injEq,
        undecodableReason_ne fault, Bool.true_eq_false, and_false]
    case undecodable => exact ⟨fun _ => ⟨hle, rfl, hnone⟩, fun _ => ⟨fault, hfault⟩⟩

/-- The bytes that have arrived are judged. -/
theorem judges_arrived (isComplete : Bool) :
    Judges text limit body isComplete (arrived text limit body isComplete) := by
  by_cases hlimit : limit < body.length
  · have hle : ¬body.length ≤ limit := by omega
    rw [arrived, if_pos hlimit]
    constructor <;> simp [hlimit, hle]
  · have hle : body.length ≤ limit := by omega
    rw [arrived, if_neg hlimit]
    cases isComplete with
    | false =>
      have hne : ∀ fault, unreadReason ≠ undecodableReason fault := fun fault =>
        (undecodableReason_ne fault).symm
      constructor <;> simp [hlimit, hle, hne]
    | true => exact judges_textOf text limit body hle

end Arrival

section Answer

variable {text : String} {limit : Nat} {response : Response}

/-- The statuses of success. -/
theorem isSuccess_iff :
    response.isSuccess = true ↔ 200 ≤ response.status ∧ response.status < 300 := by
  simp only [isSuccess, Bool.and_eq_true, decide_eq_true_eq]

/-- An answer without success tells no more than its status. -/
theorem document_of_failure (h : response.status < 200 ∨ 300 ≤ response.status) :
    response.document text limit = .error (.status text response.status) := by
  have hfailure : response.isSuccess = false := by
    rw [← Bool.not_eq_true, isSuccess_iff]
    omega
  simp only [document, hfailure, Bool.not_false, if_true]

/-- An answer with success comes to what the bytes come to that arrive, however they are cut,
unless it declares too many of them. -/
theorem document_of_success (least : 200 ≤ response.status) (most : response.status < 300)
    (declared : response.declaresTooMuch limit = false) :
    response.document text limit =
      arrived text limit response.chunks.flatten response.isComplete := by
  have hsuccess := isSuccess_iff.mpr ⟨least, most⟩
  have hempty : ([] : Bytes).length ≤ limit := Nat.zero_le limit
  have hgather := gather_eq response.chunks hempty
  rw [List.length_nil, Nat.zero_add, List.nil_append] at hgather
  unfold document arrived
  rw [hsuccess, declared, hgather]
  by_cases hlimit : limit < response.chunks.flatten.length
  · simp only [hlimit, if_true, Bool.not_true, Bool.false_eq_true, if_false]
  · cases response.isComplete <;>
      simp only [hlimit, if_true, if_false, Bool.not_true, Bool.not_false, Bool.false_eq_true,
        unreadReason]

/-- A body without a declared length comes to what its bytes come to. -/
theorem document_chunked {status : Nat} (least : 200 ≤ status) (most : status < 300)
    (chunks : List Bytes) (isComplete : Bool) :
    (chunked status chunks isComplete).document text limit =
      arrived text limit chunks.flatten isComplete := by
  have declared : (chunked status chunks isComplete).declaresTooMuch limit = false := rfl
  exact document_of_success least most declared

/-- A body that declares too many bytes is not read. -/
theorem document_of_declared (least : 200 ≤ response.status) (most : response.status < 300)
    (declared : response.declaresTooMuch limit = true) :
    response.document text limit = .error (.tooLarge text limit) := by
  have hsuccess := isSuccess_iff.mpr ⟨least, most⟩
  simp only [document, hsuccess, declared, Bool.not_true, Bool.false_eq_true, if_false, if_true]

/-- A body that declares its length and arrives to its end comes to what its bytes come to. -/
theorem document_whole (least : 200 ≤ response.status) (most : response.status < 300)
    (whole : response.isComplete = true)
    (honest : response.declared = some response.chunks.flatten.length) :
    response.document text limit = arrived text limit response.chunks.flatten true := by
  have hdeclares : response.declaresTooMuch limit =
      decide (limit < response.chunks.flatten.length) := by
    simp only [declaresTooMuch, honest]
  by_cases hlimit : limit < response.chunks.flatten.length
  · have declared := hdeclares.trans (decide_eq_true hlimit)
    rw [document_of_declared least most declared, arrived, if_pos hlimit]
  · have declared := hdeclares.trans (decide_eq_false hlimit)
    rw [document_of_success least most declared, whole]

end Answer

end Response

namespace Client

variable (client : Client) {text : String} {url : Url}

/-- What a client gets is what the answer comes to. -/
theorem get_some (asked : url? text = .ok url) (response : Response) :
    (client.get text (some response)).1 = response.document text client.limit := by
  simp only [get, asked]

/-- An answer with success and without a declared length is refused exactly if the bytes that arrive
are more than allowed, whatever they are and whether or not reading fails after them. Within the
limit it comes to a failed reading, to the text that the bytes encode, or to bytes that are not
UTF-8. So it makes no difference where the bytes are cut. At any moment the bytes that have been
gathered are those that have arrived, and no more than allowed. Declaring the length makes no
difference for a body that arrives to its end, and an answer without success tells its status,
whatever its body is or is declared to be. -/
theorem limited (asked : url? text = .ok url) :
    (∀ status chunks isComplete, 200 ≤ status → status < 300 →
      Response.Judges text client.limit chunks.flatten isComplete
        (client.get text (some (.chunked status chunks isComplete))).1) ∧
    (∀ status first second isComplete, 200 ≤ status → status < 300 →
      first.flatten = second.flatten →
      (client.get text (some (.chunked status first isComplete))).1 =
        (client.get text (some (.chunked status second isComplete))).1) ∧
    (∀ before after,
      Response.gather client.limit [] (before ++ after) =
        (Response.gather client.limit [] before).bind
          fun gathered => Response.gather client.limit gathered after) ∧
    (∀ arrived gathered, Response.gather client.limit [] arrived = some gathered →
      gathered = arrived.flatten ∧ gathered.length ≤ client.limit) ∧
    (∀ status chunks, 200 ≤ status → status < 300 →
      (client.get text (some ⟨status, some chunks.flatten.length, chunks, true⟩)).1 =
        (client.get text (some (.chunked status chunks true))).1) ∧
    ∀ response : Response, response.status < 200 ∨ 300 ≤ response.status →
      (client.get text (some response)).1 = .error (.status text response.status) := by
  simp only [get_some client asked]
  refine ⟨?judged, ?cut, Response.gather_append, ?gathered, ?declared, ?failed⟩
  case judged =>
    intro status chunks isComplete least most
    rw [Response.document_chunked least most]
    exact Response.judges_arrived text client.limit chunks.flatten isComplete
  case cut =>
    intro status first second isComplete least most hsame
    rw [Response.document_chunked least most, Response.document_chunked least most, hsame]
  case gathered =>
    intro arrived gathered hgathered
    exact Response.gathered hgathered
  case declared =>
    intro status chunks least most
    rw [Response.document_whole least most rfl rfl, Response.document_chunked least most]
  case failed =>
    intro response hstatus
    exact Response.document_of_failure hstatus

/-- A character of two bytes that is cut in the middle is within a limit of two bytes, and beyond a
limit of one byte even if reading fails afterwards. -/
theorem limited_cut :
    (∃ url, url? "http://[::1]/" = .ok url) ∧
    (get ⟨"client", 2⟩ "http://[::1]/" (some (.chunked 200 [[0xC3], [0xA9]] true))).1 = .ok "é" ∧
    (get ⟨"client", 1⟩ "http://[::1]/" (some (.chunked 200 [[0xC3], [0xA9]] false))).1 =
      .error (.tooLarge "http://[::1]/" 1) := by
  have asked : url? "http://[::1]/" =
      .ok ⟨"http", some { host := .ipv6 ⟨[0, 0, 0, 0, 0, 0, 0, 1]⟩ }, .segments [""],
        ⟨none, none⟩⟩ := by decide +kernel
  have within := (limited ⟨"client", 2⟩ asked).1 200 [[0xC3], [0xA9]] true (by decide) (by decide)
  have beyond := (limited ⟨"client", 1⟩ asked).1 200 [[0xC3], [0xA9]] false (by decide) (by decide)
  exact ⟨⟨_, asked⟩, (within.document "é").mpr ⟨by decide, rfl, by decide⟩,
    beyond.tooLarge.mpr (by decide)⟩

end Client

end RelyingParty
