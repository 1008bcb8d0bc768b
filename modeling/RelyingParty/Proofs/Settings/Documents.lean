import RelyingParty.Proofs.Json.Printed
import RelyingParty.Settings

/-!
# Settings documents

A document may list the members of settings in any order, each as it is printed, leave some of them
out, and have other members anywhere. It is read as the settings whose listed members are as listed
and whose others have their defaults.
-/

namespace RelyingParty

open Json Json.Reader Text

namespace Duration

/-- How the parts of a duration are taken one after the other. -/
inductive Step (d : Duration) :
    String → Bytes → Option Nat × Option Nat → Option Nat × Option Nat → Prop where
  /-- The seconds. -/
  | seconds (nanos : Option Nat) :
    Step d "secs" (Utf8.encode (Value.number (.whole d.seconds)).print) (none, nanos)
      (some d.seconds, nanos)
  /-- The nanoseconds beyond them. -/
  | nanos (seconds : Option Nat) :
    Step d "nanos" (Utf8.encode (Value.number (.whole d.nanos)).print) (seconds, none)
      (seconds, some d.nanos)

theorem seconds_le (d : Duration) : d.seconds ≤ UInt64.size - 1 := by
  have h := d.seconds_lt
  omega

theorem nanos_le (d : Duration) : d.nanos ≤ UInt32.size - 1 := by
  have h : d.nanos < nanosPerSecond := Nat.mod_lt _ (by decide)
  unfold nanosPerSecond at h
  have hsize : UInt32.size = 4294967296 := rfl
  omega

theorem performs_readMember (d : Duration) : Performs readMember d.Step where
  complete := by
    intro name seen next gap value cursor last hgap _ hstep hpasses ends
    cases hstep with
    | seconds nanos =>
      apply keep_of_read rfl hgap hpasses
      intro reached hvalue
      exact unsigned_of_whole d.seconds_le (Nat.le_refl _) hvalue ends
    | nanos seconds =>
      apply keep_of_read rfl hgap hpasses
      intro reached hvalue
      exact unsigned_of_whole d.nanos_le (by decide) hvalue ends

/-- The parts of a duration as its document has them. -/
def parts (d : Duration) : Members :=
  [("secs", .number (.whole d.seconds)), ("nanos", .number (.whole d.nanos))]

theorem exists_contents (d : Duration) : ∃ content,
    Utf8.encode d.toJson.print = byte '{' :: (content ++ [byte '\x7d']) ∧
      Contents true content (printedMembers d.parts) := by
  apply exists_contents_print
  intro entry hentry
  rcases List.mem_cons.mp hentry with rfl | hentry
  · exact written_whole _
  · rw [List.mem_singleton.mp hentry]
    exact written_whole _

theorem written_toJson (d : Duration) : Written .value (Utf8.encode d.toJson.print) := by
  obtain ⟨content, hprint, hcontent⟩ := d.exists_contents
  rw [hprint]
  exact hcontent.written_value

theorem complete_seconds_nanos (d : Duration) :
    complete (some d.seconds, some d.nanos) = .ok d := by
  simp only [complete, ofParts?_seconds_nanos]

/-- A printed duration is read as itself. -/
theorem read_of_toJson {d : Duration} {cursor last : Cursor}
    (hpasses : cursor.Passes (Utf8.encode d.toJson.print) last) : read cursor = .ok d last := by
  obtain ⟨content, hprint, hcontent⟩ := d.exists_contents
  rw [hprint] at hpasses
  have hleads : Leads d.Step (printedMembers d.parts) (none, none) (some d.seconds, some d.nanos) :=
    .cons (.seconds none) (.cons (.nanos (some d.seconds)) (.nil _))
  exact record_eq_ok.mpr (Or.inr (object_of_contents d.performs_readMember allBlank_nil hcontent
    hleads d.complete_seconds_nanos hpasses))

end Duration

namespace Settings

/-- The members of settings. -/
inductive Field where
  /-- See `Settings.keySetMaxAge`. -/
  | keySetMaxAge
  /-- See `Settings.keySetRefreshMaxAge`. -/
  | keySetRefreshMaxAge
  /-- See `Settings.requestTimeout`. -/
  | requestTimeout
  /-- See `Settings.maxResponseSize`. -/
  | maxResponseSize
  /-- See `Settings.userAgent`. -/
  | userAgent
deriving DecidableEq, Repr

namespace Field

/-- All members, in the order in which they are printed. -/
def all : List Field :=
  [keySetMaxAge, keySetRefreshMaxAge, requestTimeout, maxResponseSize, userAgent]

/-- The name of a member in a document. -/
def name : Field → String
  | keySetMaxAge => "key_set_max_age"
  | keySetRefreshMaxAge => "key_set_refresh_max_age"
  | requestTimeout => "request_timeout"
  | maxResponseSize => "max_response_size"
  | userAgent => "user_agent"

/-- The value of a member in a document. -/
def value (settings : Settings) : Field → Value
  | keySetMaxAge => settings.keySetMaxAge.toJson
  | keySetRefreshMaxAge => settings.keySetRefreshMaxAge.toJson
  | requestTimeout => settings.requestTimeout.toJson
  | maxResponseSize => .number (.whole settings.maxResponseSize.toNat)
  | userAgent => .string settings.userAgent

theorem written_value (settings : Settings) (field : Field) :
    Written .value (Utf8.encode (field.value settings).print) := by
  cases field with
  | keySetMaxAge | keySetRefreshMaxAge | requestTimeout => exact Duration.written_toJson _
  | maxResponseSize => exact written_whole _
  | userAgent => exact written_printString _

end Field

theorem toMembers_eq_map (settings : Settings) :
    settings.toMembers = Field.all.map fun field => (field.name, field.value settings) := rfl

/-- What has been read when some members have. -/
def given (settings : Settings) (fields : List Field) : Draft where
  keySetMaxAge := if .keySetMaxAge ∈ fields then some settings.keySetMaxAge else none
  keySetRefreshMaxAge :=
    if .keySetRefreshMaxAge ∈ fields then some settings.keySetRefreshMaxAge else none
  requestTimeout := if .requestTimeout ∈ fields then some settings.requestTimeout else none
  maxResponseSize := if .maxResponseSize ∈ fields then some settings.maxResponseSize else none
  userAgent := if .userAgent ∈ fields then some settings.userAgent else none

/-- Settings with some of their members, and the defaults for the others. -/
def restricted (settings : Settings) (fields : List Field) : Settings where
  keySetMaxAge := if .keySetMaxAge ∈ fields then settings.keySetMaxAge else default.keySetMaxAge
  keySetRefreshMaxAge :=
    if .keySetRefreshMaxAge ∈ fields then settings.keySetRefreshMaxAge
    else default.keySetRefreshMaxAge
  requestTimeout :=
    if .requestTimeout ∈ fields then settings.requestTimeout else default.requestTimeout
  maxResponseSize :=
    if .maxResponseSize ∈ fields then settings.maxResponseSize else default.maxResponseSize
  userAgent := if .userAgent ∈ fields then settings.userAgent else default.userAgent

theorem given_nil (settings : Settings) : settings.given [] = {} := rfl

theorem complete_given (settings : Settings) (fields : List Field) :
    (settings.given fields).complete = settings.restricted fields := by
  have hgiven : ∀ {α : Type} (listed : Prop) [Decidable listed] (value other : α),
      (if listed then some value else none).getD other = if listed then value else other := by
    intro α listed _ value other
    split <;> rfl
  simp only [Draft.complete, given, restricted, hgiven]

/-- A draft with a member of the settings besides those it has. -/
def give (settings : Settings) (draft : Draft) : Field → Draft
  | .keySetMaxAge => { draft with keySetMaxAge := some settings.keySetMaxAge }
  | .keySetRefreshMaxAge => { draft with keySetRefreshMaxAge := some settings.keySetRefreshMaxAge }
  | .requestTimeout => { draft with requestTimeout := some settings.requestTimeout }
  | .maxResponseSize => { draft with maxResponseSize := some settings.maxResponseSize }
  | .userAgent => { draft with userAgent := some settings.userAgent }

theorem given_cons (settings : Settings) (field : Field) (before : List Field) :
    settings.given (field :: before) = settings.give (settings.given before) field := by
  cases field <;> simp [given, give]

theorem given_congr {settings : Settings} {fields others : List Field}
    (h : ∀ field, field ∈ fields ↔ field ∈ others) :
    settings.given fields = settings.given others := by
  simp only [given, h]

/-- How the members of a document are taken that lists those of some settings. -/
inductive Step (settings : Settings) : String → Bytes → Draft → Draft → Prop where
  /-- A member that has not been given before. -/
  | field {field : Field} {before : List Field} (fresh : field ∉ before) :
    Step settings field.name (Utf8.encode (field.value settings).print) (settings.given before)
      (settings.given (field :: before))
  /-- Anything else does not matter. -/
  | other {name : String} {value : Bytes} {draft : Draft}
      (unknown : ∀ field : Field, name ≠ field.name) :
    Step settings name value draft draft

theorem readSize_of_whole {size : UInt64} {cursor last : Cursor}
    (hpasses : cursor.Passes (Utf8.encode (Value.number (.whole size.toNat)).print) last)
    (ends : Numeral.Ends last.rest) : readSize cursor = .ok size last := by
  have hsmall : size.toNat ≤ UInt64.size - 1 := by
    have h := size.toNat_lt
    have hsize : UInt64.size = 2 ^ 64 := rfl
    omega
  have hread : unsigned (UInt64.size - 1) "usize" cursor = .ok size.toNat last :=
    unsigned_of_whole hsmall (Nat.le_refl _) hpasses ends
  refine Reader.bind_eq_ok.mpr ⟨size.toNat, last, hread, ?_⟩
  rw [UInt64.ofNat_toNat]
  rfl

/-- The value of an unknown member does not matter. -/
theorem readMember_of_unknown {name : String} (unknown : ∀ field : Field, name ≠ field.name)
    (draft : Draft) : readMember name draft = (do ignored; return draft) := by
  have hage : name ≠ "key_set_max_age" := unknown .keySetMaxAge
  have hrefresh : name ≠ "key_set_refresh_max_age" := unknown .keySetRefreshMaxAge
  have htimeout : name ≠ "request_timeout" := unknown .requestTimeout
  have hsize : name ≠ "max_response_size" := unknown .maxResponseSize
  have hagent : name ≠ "user_agent" := unknown .userAgent
  simp only [readMember, hage, hrefresh, htimeout, hsize, hagent, if_false]

theorem performs_readMember (settings : Settings) : Performs readMember settings.Step where
  complete := by
    intro name draft next gap value cursor last hgap hvalue hstep hpasses ends
    cases hstep with
    | other unknown =>
      rw [readMember_of_unknown unknown]
      exact Reader.bind_eq_ok.mpr ⟨(), last, ignored_of_written hgap hvalue hpasses ends, rfl⟩
    | @field field before fresh =>
      rw [given_cons]
      cases field with
      | keySetMaxAge | keySetRefreshMaxAge | requestTimeout =>
        apply keep_of_read (if_neg fresh) hgap hpasses
        intro reached hvalue
        exact Duration.read_of_toJson hvalue
      | maxResponseSize =>
        apply keep_of_read (if_neg fresh) hgap hpasses
        intro reached hvalue
        exact readSize_of_whole hvalue ends
      | userAgent =>
        apply keep_of_read (if_neg fresh) hgap hpasses
        intro reached hvalue
        exact string_of_printString hvalue

/-- The text of an object whose known members are those of some settings is read. -/
theorem ofDocument_of_objectText {settings : Settings} {document : String}
    {members : List (String × Bytes)} {draft : Draft}
    (htext : ObjectText (Utf8.encode document) members)
    (hleads : Leads settings.Step members (settings.given []) draft) :
    ofDocument document = .ok draft.complete := by
  rw [given_nil] at hleads
  exact readWith_record_of_objectText settings.performs_readMember htext hleads rfl

/-- A member that means nothing to settings, however it is written. -/
structure Foreign where
  /-- The member in the document. -/
  text : String
  /-- Its name. -/
  name : String
  /-- The text of its value. -/
  value : Bytes
  /-- The text is that of a member with this name and this value. -/
  isMember : MemberText (Utf8.encode text) (name, value)
  /-- No member of settings has this name. -/
  isForeign : ∀ field : Field, name ≠ field.name

/-- One member of a document that lists members of settings. -/
inductive Entry where
  /-- A member of the settings, as it is printed. -/
  | known (field : Field)
  /-- A member that means nothing to them. -/
  | unknown (member : Foreign)

namespace Entry

/-- The member in the document. -/
def text (settings : Settings) : Entry → String
  | known field => printMember (field.name, field.value settings)
  | unknown member => member.text

/-- The name of the member and the text of its value. -/
def member (settings : Settings) : Entry → String × Bytes
  | known field => (field.name, Utf8.encode (field.value settings).print)
  | unknown member => (member.name, member.value)

/-- Which member of the settings it is. -/
def field? : Entry → Option Field
  | known field => some field
  | unknown _ => none

theorem memberText (settings : Settings) (entry : Entry) :
    MemberText (Utf8.encode (entry.text settings)) (entry.member settings) := by
  cases entry with
  | known field => exact memberText_printMember (field.written_value settings)
  | unknown member => exact member.isMember

theorem memberTexts (settings : Settings) (entries : List Entry) :
    List.Forall₂ MemberText ((entries.map (text settings)).map Utf8.encode)
      (entries.map (member settings)) := by
  induction entries with
  | nil => exact .nil
  | cons entry rest ih => exact .cons (entry.memberText settings) ih

/-- The members of the settings that a document lists have been read in the end, besides those that
had been before. -/
theorem leads (settings : Settings) {entries : List Entry} {before : List Field}
    (once : (entries.filterMap field?).Nodup)
    (fresh : ∀ field ∈ entries.filterMap field?, field ∉ before) :
    Leads settings.Step (entries.map (member settings)) (settings.given before)
      (settings.given ((entries.filterMap field?).reverse ++ before)) := by
  induction entries generalizing before with
  | nil => exact .nil _
  | cons entry rest ih =>
    cases entry with
    | unknown member => exact .cons (.other member.isForeign) (ih once fresh)
    | known field =>
      have hfields : (Entry.known field :: rest).filterMap field? =
          field :: rest.filterMap field? := rfl
      rw [hfields] at once fresh ⊢
      obtain ⟨hfield, honce⟩ := List.nodup_cons.mp once
      obtain ⟨hfresh, hrest⟩ := List.forall_mem_cons.mp fresh
      have hlater : ∀ other ∈ rest.filterMap field?, other ∉ field :: before := by
        intro other hother hmember
        rcases List.mem_cons.mp hmember with rfl | hbefore
        · exact hfield hother
        · exact hrest other hother hbefore
      rw [List.reverse_cons, List.append_assoc]
      exact .cons (.field hfresh) (ih honce hlater)

end Entry

/-- A document that lists members of settings, and others. -/
def listed (settings : Settings) (entries : List Entry) : String :=
  braced (entries.map (Entry.text settings))

/-- The settings document lists all members. -/
theorem print_eq_listed (settings : Settings) :
    settings.print = settings.listed (Field.all.map Entry.known) := by
  rw [print, print_object, toMembers_eq_map, listed, List.map_map, List.map_map]
  exact congrArg braced (List.map_congr_left fun _ _ => rfl)

theorem restricted_all (settings : Settings) : settings.restricted Field.all = settings := by
  have hall : ∀ field : Field, field ∈ Field.all := by
    intro field
    cases field <;> decide
  simp only [restricted, hall, if_true]

theorem ofDocument_listed (settings : Settings) {entries : List Entry}
    (once : (entries.filterMap Entry.field?).Nodup) :
    ofDocument (settings.listed entries) =
      .ok (settings.restricted (entries.filterMap Entry.field?)) := by
  have hleads := Entry.leads settings once (fun _ _ => List.not_mem_nil)
  have htext := objectText_braced (Entry.memberTexts settings entries)
  rw [listed, ofDocument_of_objectText htext hleads, List.append_nil,
    given_congr fun _ => List.mem_reverse, complete_given]

/-- A document that lists some members of settings as they are printed, in any order and each at most
once, with other members anywhere, is read as the settings that have these members and the defaults
otherwise. The printed settings are read as themselves. -/
theorem ofDocument_listed_and_print (settings : Settings) :
    (∀ entries : List Entry, (entries.filterMap Entry.field?).Nodup →
      ofDocument (settings.listed entries) =
        .ok (settings.restricted (entries.filterMap Entry.field?))) ∧
      ofDocument settings.print = .ok settings := by
  constructor
  · intro entries once
    exact ofDocument_listed settings once
  · have hfields : (Field.all.map Entry.known).filterMap Entry.field? = Field.all := rfl
    have hlisted := settings.ofDocument_listed (hfields ▸ (by decide : Field.all.Nodup))
    rw [print_eq_listed, hlisted, hfields, restricted_all]

/-- A remark in a document of settings. -/
def remark : Foreign where
  text := printMember ("remark", .string "kept for \"later\"\n")
  name := "remark"
  value := Utf8.encode (Value.string "kept for \"later\"\n").print
  isMember := memberText_printMember (written_printString _)
  isForeign := by
    intro field
    cases field <;> decide

/-- Only the user agent and the request timeout are listed, behind and between remarks: the size has
its default. -/
theorem ofDocument_listed_remarks :
    ofDocument (listed
        { requestTimeout := .ofSeconds 3, maxResponseSize := 1, userAgent := "\"\\\u0001😀" }
        [.unknown remark, .known .userAgent, .unknown remark, .known .requestTimeout]) =
      .ok { requestTimeout := .ofSeconds 3, userAgent := "\"\\\u0001😀" } := by
  have hread := (ofDocument_listed_and_print
      { requestTimeout := .ofSeconds 3, maxResponseSize := 1, userAgent := "\"\\\u0001😀" }).1
    [.unknown remark, .known .userAgent, .unknown remark, .known .requestTimeout] (by decide)
  exact hread

end Settings

end RelyingParty
