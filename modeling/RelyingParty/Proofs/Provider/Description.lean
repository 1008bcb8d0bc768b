import RelyingParty.Proofs.Json.Plain
import RelyingParty.Proofs.Json.Typed
import RelyingParty.Provider.Metadata

/-!
# The members that describe metadata

A document is read as metadata where it is read as an object and the values of its members can be
taken one after the other: each known name at most once and with a value of its type, the others as
they are. What has been taken in the end can be told from the values that each name has.
-/

namespace RelyingParty

open Json Text

namespace Metadata

/-- The strings of an array of strings. -/
def texts? : Value → Option (List String)
  | .array items => items.mapM Value.string?
  | _ => none

/-- The array of some strings. -/
def writeTexts (texts : List String) : Value := .array (texts.map .string)

/-- What a value is, where `null` stands for nothing. -/
def nullable? {α : Type} (of? : Value → Option α) : Value → Option (Option α)
  | .null => some none
  | value => (of? value).map some

theorem string?_eq_some_iff (value : Value) (text : String) :
    value.string? = some text ↔ value = .string text := by
  cases value <;> simp [Value.string?]

theorem texts?_eq_some_iff (value : Value) (texts : List String) :
    texts? value = some texts ↔ value = writeTexts texts := by
  have hitems : ∀ items : List Value,
      items.mapM Value.string? = some texts ↔ items = texts.map .string := by
    intro items
    induction items generalizing texts with
    | nil => simp [eq_comm]
    | cons item rest ih =>
      cases texts with
      | nil => simp [Option.bind_eq_some_iff]
      | cons text texts =>
        simp [Option.bind_eq_some_iff, string?_eq_some_iff, ih]
  cases value with
  | array items =>
    rw [writeTexts, Value.array.injEq]
    exact hitems items
  | _ => simp [texts?, writeTexts]

theorem nullable?_eq_some_iff {α : Type} {of? : Value → Option α} {write : α → Value}
    (same : ∀ value found, of? value = some found ↔ value = write found)
    (notNull : ∀ found, write found ≠ .null) (value : Value) (found : Option α) :
    nullable? of? value = some found ↔ value = Reader.writeOptional write found := by
  have hother : value ≠ .null →
      (nullable? of? value = some found ↔ value = Reader.writeOptional write found) := by
    intro hvalue
    have hmap : nullable? of? value = (of? value).map some := by
      unfold nullable?
      split
      · exact absurd rfl hvalue
      · rfl
    rw [hmap, Option.map_eq_some_iff]
    constructor
    · rintro ⟨inner, hinner, rfl⟩
      exact (same _ _).mp hinner
    · intro h
      cases found with
      | none => exact absurd h hvalue
      | some inner => exact ⟨inner, (same _ _).mpr h, rfl⟩
  cases value with
  | null =>
    cases found with
    | none => exact ⟨fun _ => rfl, fun _ => rfl⟩
    | some inner => exact ⟨nofun, fun h => absurd h.symm (notNull inner)⟩
  | _ => exact hother nofun

theorem issuer_eq_some_iff (value : Value) (found : Option String) :
    nullable? Value.string? value = some found ↔ value = Reader.writeOptional .string found :=
  nullable?_eq_some_iff string?_eq_some_iff nofun value found

theorem signingAlgorithms_eq_some_iff (value : Value) (found : Option (List String)) :
    nullable? texts? value = some found ↔ value = Reader.writeOptional writeTexts found :=
  nullable?_eq_some_iff texts?_eq_some_iff nofun value found

/-- What is known of a member once it has been taken: it may be taken once. -/
def fill? {α : Type} (seen : Option α) (of? : Value → Option α) (value : Value) :
    Option (Option α) :=
  if seen.isSome then none else (of? value).map some

theorem fill?_eq_some_iff {α : Type} {of? : Value → Option α} {write : α → Value}
    (same : ∀ value found, of? value = some found ↔ value = write found) {seen next : Option α}
    {value : Value} :
    fill? seen of? value = some next ↔
      seen = none ∧ ∃ found, value = write found ∧ next = some found := by
  unfold fill?
  cases seen with
  | some found => exact ⟨nofun, fun h => nomatch h.1⟩
  | none => simp [Option.map_eq_some_iff, same, eq_comm]

theorem notMem_knownNames {name : String} :
    name ∉ knownNames ↔
      name ≠ issuerName ∧ name ≠ keySetUriName ∧ name ≠ signingAlgorithmsName := by
  simp [knownNames]

/-- Takes a member of an object. -/
def Draft.take? (draft : Draft) (entry : String × Value) : Option Draft :=
  if entry.1 = issuerName then
    return { draft with issuer := ← fill? draft.issuer (nullable? Value.string?) entry.2 }
  else if entry.1 = keySetUriName then
    return { draft with keySetUri := ← fill? draft.keySetUri Value.string? entry.2 }
  else if entry.1 = signingAlgorithmsName then
    return { draft with
      signingAlgorithms := ← fill? draft.signingAlgorithms (nullable? texts?) entry.2 }
  else return { draft with others := entry :: draft.others }

/-- A known member is read where its value is one that can be taken. -/
theorem field_iff_fill? {α σ : Type} {read : Reader α} {item : Reader Value} {write : α → Value}
    {of? : Value → Option α} (matched : Reader.Matches read item write)
    (same : ∀ value found, of? value = some found ↔ value = write found) {name : String}
    {seen : Option α} {set : Option α → σ} {next : σ} {cursor last : Cursor} :
    (do return set (← Reader.field name seen read) : Reader σ) cursor = .ok next last ↔
      ∃ value reached, Reader.colon cursor = .ok () reached ∧ item reached = .ok value last ∧
        (do return set (← fill? seen of? value)) = some next := by
  simp only [Option.bind_eq_bind, Option.bind_eq_some_iff, fill?_eq_some_iff same]
  constructor
  · intro h
    obtain ⟨found, _, hfield, hnext⟩ := Reader.bind_eq_ok.mp h
    obtain ⟨rfl, rfl⟩ := Reader.pure_eq_ok.mp hnext
    obtain ⟨hfresh, value, reached, hcolon, hvalue, rfl⟩ := matched.field.mp hfield
    exact ⟨_, reached, hcolon, hvalue, some value, ⟨hfresh, value, rfl, rfl⟩, rfl⟩
  · rintro ⟨_, reached, hcolon, hvalue, _, ⟨hfresh, value, rfl, rfl⟩, hnext⟩
    obtain rfl := Option.some.inj hnext
    exact Reader.bind_eq_ok.mpr
      ⟨some value, last, matched.field.mpr ⟨hfresh, value, reached, hcolon, hvalue, rfl⟩, rfl⟩

/-- A member is read where its value is one that can be taken. -/
theorem readMember_iff (name : String) (draft next : Draft) (cursor last : Cursor) :
    readMember name draft cursor = .ok next last ↔
      ∃ value reached, Reader.colon cursor = .ok () reached ∧
        Reader.value memberDepth reached = .ok value last ∧
        draft.take? (name, value) = some next := by
  have htext := Reader.matches_string (some (Reader.value (memberDepth - 1))) "a string"
  have htexts : Reader.Matches (Reader.list readText) (Reader.value memberDepth) writeTexts :=
    (Reader.matches_string _ _).list fun _ _ => Value.string.inj
  unfold readMember Draft.take?
  split
  · exact field_iff_fill? (htext.optional nofun) issuer_eq_some_iff
  split
  · exact field_iff_fill? htext string?_eq_some_iff
  split
  · exact field_iff_fill? (htexts.optional nofun) signingAlgorithms_eq_some_iff
  · constructor
    · intro h
      obtain ⟨_, reached, hcolon, hread⟩ := Reader.bind_eq_ok.mp h
      obtain ⟨value, _, hvalue, hnext⟩ := Reader.bind_eq_ok.mp hread
      obtain ⟨rfl, rfl⟩ := Reader.pure_eq_ok.mp hnext
      exact ⟨value, reached, hcolon, hvalue, rfl⟩
    · rintro ⟨value, reached, hcolon, hvalue, hnext⟩
      obtain rfl := Option.some.inj hnext
      exact Reader.bind_eq_ok.mpr
        ⟨(), reached, hcolon, Reader.bind_eq_ok.mpr ⟨value, last, hvalue, rfl⟩⟩

/-- The metadata that the members of an object describe. -/
def ofMembers? (bound : Nat) (members : Members) : Option Metadata := do
  ((← members.foldlM Draft.take? {}).complete bound).toOption

theorem ofMembers?_eq_some_iff {bound : Nat} {members : Members} {metadata : Metadata} :
    ofMembers? bound members = some metadata ↔
      ∃ draft, members.foldlM Draft.take? {} = some draft ∧
        draft.complete bound = .ok metadata := by
  have hoption : ∀ result : Except Fault Metadata,
      result.toOption = some metadata ↔ result = .ok metadata := by
    intro result
    cases result <;> simp [Except.toOption]
  simp only [ofMembers?, Option.bind_eq_bind, Option.bind_eq_some_iff, hoption]

/-- A document holds metadata when it is an object whose members describe them. -/
theorem ofDocument_eq_ok_iff {document : String} {metadata : Metadata} :
    ofDocument document = .ok metadata ↔
      ∃ members, readValue (Utf8.encode document) = .ok (.object members) ∧
        ofMembers? (Utf8.encode document).length members = some metadata := by
  simp only [ofDocument, readValue, readWith_eq_ok, ofMembers?_eq_some_iff]
  constructor
  · rintro ⟨reached, last, hread, hfinish⟩
    obtain ⟨members, draft, hvalue, hfold, hcomplete⟩ :=
      (Reader.object_iff_valueWith readMember_iff).mp hread
    exact ⟨members, ⟨reached, last, hvalue, hfinish⟩, draft, hfold, hcomplete⟩
  · rintro ⟨members, ⟨reached, last, hvalue, hfinish⟩, draft, hfold, hcomplete⟩
    exact ⟨reached, last, (Reader.object_iff_valueWith readMember_iff).mpr
      ⟨members, draft, hvalue, hfold, hcomplete⟩, hfinish⟩

namespace Draft

/-- A draft holds what some members say: each known one at most once, and all others. -/
structure Holds (members : Members) (draft : Draft) : Prop where
  /-- The issuer, or `null`. -/
  issuer : members.values issuerName =
    draft.issuer.toList.map (Reader.writeOptional .string)
  /-- The place of the keys. -/
  keySetUri : members.values keySetUriName = draft.keySetUri.toList.map .string
  /-- The algorithms, or `null`. -/
  signingAlgorithms : members.values signingAlgorithmsName =
    draft.signingAlgorithms.toList.map (Reader.writeOptional writeTexts)
  /-- All others, last first. -/
  others : draft.others = (members.filter fun entry => entry.1 ∉ knownNames).reverse

theorem holds_iff {members : Members} {draft : Draft} :
    draft.Holds members ↔
      members.values issuerName = draft.issuer.toList.map (Reader.writeOptional .string) ∧
      members.values keySetUriName = draft.keySetUri.toList.map .string ∧
      members.values signingAlgorithmsName =
        draft.signingAlgorithms.toList.map (Reader.writeOptional writeTexts) ∧
      draft.others = (members.filter fun entry => entry.1 ∉ knownNames).reverse :=
  ⟨fun h => ⟨h.issuer, h.keySetUri, h.signingAlgorithms, h.others⟩,
    fun ⟨issuer, uri, names, others⟩ => ⟨issuer, uri, names, others⟩⟩

theorem fill?_values {α : Type} {of? : Value → Option α} {write : α → Value}
    (same : ∀ value found, of? value = some found ↔ value = write found) {values : List Value}
    {value : Value} {next : Option α} :
    (∃ seen : Option α, values = seen.toList.map write ∧ fill? seen of? value = some next) ↔
      values ++ [value] = next.toList.map write := by
  simp only [fill?_eq_some_iff same]
  constructor
  · rintro ⟨_, rfl, rfl, found, rfl, rfl⟩
    rfl
  · intro h
    cases next with
    | none => exact absurd h (by simp)
    | some found =>
      have hone : values ++ [value] = [] ++ [write found] := h
      obtain ⟨rfl, hvalue⟩ := List.append_inj' hone rfl
      exact ⟨none, rfl, rfl, found, List.singleton_inj.mp hvalue, rfl⟩

/-- A known member is not among the others. -/
theorem filter_concat_of_mem (members : Members) {entry : String × Value}
    (known : entry.1 ∈ knownNames) :
    (members ++ [entry]).filter (fun entry => entry.1 ∉ knownNames) =
      members.filter fun entry => entry.1 ∉ knownNames := by
  simp [known]

theorem filter_concat_of_notMem (members : Members) {entry : String × Value}
    (unknown : entry.1 ∉ knownNames) :
    (members ++ [entry]).filter (fun entry => entry.1 ∉ knownNames) =
      (members.filter fun entry => entry.1 ∉ knownNames) ++ [entry] := by
  simp [unknown]

/-- A draft that holds some members holds one more when that has been taken. -/
theorem holds_concat {members : Members} {entry : String × Value} {next : Draft} :
    (∃ draft : Draft, draft.Holds members ∧ draft.take? entry = some next) ↔
      next.Holds (members ++ [entry]) := by
  unfold take?
  split
  · next hname =>
    have huri : entry.1 ≠ keySetUriName := hname ▸ by decide
    have hnames : entry.1 ≠ signingAlgorithmsName := hname ▸ by decide
    have hknown : entry.1 ∈ knownNames := hname ▸ by decide
    simp only [holds_iff, Keyed.values_concat_self _ hname, Keyed.values_concat_of_ne _ huri,
      Keyed.values_concat_of_ne _ hnames, filter_concat_of_mem _ hknown,
      ← fill?_values issuer_eq_some_iff, Option.bind_eq_bind, Option.bind_eq_some_iff]
    constructor
    · rintro ⟨draft, ⟨hissuer, hrest⟩, issuer, hfill, hnext⟩
      obtain rfl := Option.some.inj hnext
      exact ⟨⟨draft.issuer, hissuer, hfill⟩, hrest⟩
    · rintro ⟨⟨seen, hissuer, hfill⟩, hrest⟩
      exact ⟨{ next with issuer := seen }, ⟨hissuer, hrest⟩, _, hfill, rfl⟩
  split
  · next hissuer hname =>
    have hnames : entry.1 ≠ signingAlgorithmsName := hname ▸ by decide
    have hknown : entry.1 ∈ knownNames := hname ▸ by decide
    simp only [holds_iff, Keyed.values_concat_self _ hname, Keyed.values_concat_of_ne _ hissuer,
      Keyed.values_concat_of_ne _ hnames, filter_concat_of_mem _ hknown,
      ← fill?_values string?_eq_some_iff, Option.bind_eq_bind, Option.bind_eq_some_iff]
    constructor
    · rintro ⟨draft, ⟨hissuer, huri, hrest⟩, uri, hfill, hnext⟩
      obtain rfl := Option.some.inj hnext
      exact ⟨hissuer, ⟨draft.keySetUri, huri, hfill⟩, hrest⟩
    · rintro ⟨hissuer, ⟨seen, huri, hfill⟩, hrest⟩
      exact ⟨{ next with keySetUri := seen }, ⟨hissuer, huri, hrest⟩, _, hfill, rfl⟩
  split
  · next hissuer huri hname =>
    have hknown : entry.1 ∈ knownNames := hname ▸ by decide
    simp only [holds_iff, Keyed.values_concat_self _ hname, Keyed.values_concat_of_ne _ hissuer,
      Keyed.values_concat_of_ne _ huri, filter_concat_of_mem _ hknown,
      ← fill?_values signingAlgorithms_eq_some_iff, Option.bind_eq_bind, Option.bind_eq_some_iff]
    constructor
    · rintro ⟨draft, ⟨hissuer, huri, hnames, hothers⟩, names, hfill, hnext⟩
      obtain rfl := Option.some.inj hnext
      exact ⟨hissuer, huri, ⟨draft.signingAlgorithms, hnames, hfill⟩, hothers⟩
    · rintro ⟨hissuer, huri, ⟨seen, hnames, hfill⟩, hothers⟩
      exact ⟨{ next with signingAlgorithms := seen }, ⟨hissuer, huri, hnames, hothers⟩, _, hfill,
        rfl⟩
  · next hissuer huri hnames =>
    have hunknown := notMem_knownNames.mpr ⟨hissuer, huri, hnames⟩
    simp only [holds_iff, Keyed.values_concat_of_ne _ hissuer, Keyed.values_concat_of_ne _ huri,
      Keyed.values_concat_of_ne _ hnames, filter_concat_of_notMem _ hunknown, List.reverse_append]
    constructor
    · rintro ⟨draft, ⟨hissuer, huri, hnames, hothers⟩, hnext⟩
      obtain rfl := Option.some.inj hnext
      exact ⟨hissuer, huri, hnames, congrArg (entry :: ·) hothers⟩
    · rintro ⟨hissuer, huri, hnames, hothers⟩
      refine ⟨{ next with others := (members.filter fun entry => entry.1 ∉ knownNames).reverse },
        ⟨hissuer, huri, hnames, rfl⟩, ?_⟩
      exact congrArg (fun others => some { next with others := others }) hothers.symm

/-- The members of an object are taken by a draft that holds them. -/
theorem foldlM_take?_iff {members : Members} {draft : Draft} :
    members.foldlM take? {} = some draft ↔ draft.Holds members := by
  induction members using List.reverseRecOn generalizing draft with
  | nil =>
    constructor
    · intro h
      obtain rfl := Option.some.inj h
      exact ⟨rfl, rfl, rfl, rfl⟩
    · intro h
      have hempty : ∀ {α : Type} {write : α → Value} {found : Option α},
          [] = found.toList.map write → found = none := by
        intro α write found hfound
        cases found with
        | none => rfl
        | some => cases hfound
      obtain ⟨issuer, uri, names, others⟩ := draft
      obtain rfl : issuer = none := hempty h.issuer
      obtain rfl : uri = none := hempty h.keySetUri
      obtain rfl : names = none := hempty h.signingAlgorithms
      obtain rfl : others = [] := h.others
      rfl
  | append_singleton members entry ih =>
    simp only [← holds_concat, List.foldlM_append, List.foldlM_cons, List.foldlM_nil,
      Option.bind_eq_bind, Option.bind_eq_some_iff, ih]
    exact exists_congr fun _ => and_congr_right fun _ =>
      ⟨fun ⟨_, htake, hlast⟩ => htake.trans hlast, fun htake => ⟨draft, htake, rfl⟩⟩

/-- The plain forms of members. -/
def PlainForms (bound : Nat) (members found : Members) : Prop :=
  List.Forall₂ (fun entry plain => plain.1 = entry.1 ∧ Json.plain bound entry.2 = .ok plain.2)
    members found

theorem mapM_plain_iff {bound : Nat} {members found : Members} :
    members.mapM (fun (name, value) => do return (name, ← plain bound value)) =
        (.ok found : Except Fault Members) ↔ PlainForms bound members found := by
  induction members generalizing found with
  | nil =>
    constructor
    · intro h
      obtain rfl := Except.ok.inj h
      exact .nil
    · rintro ⟨⟩
      rfl
  | cons entry rest ih =>
    rw [List.mapM_cons]
    constructor
    · intro h
      obtain ⟨first, hfirst, hrest⟩ := bind_eq_ok.mp h
      obtain ⟨value, hvalue, hentry⟩ := bind_eq_ok.mp hfirst
      obtain ⟨later, hlater, hfound⟩ := bind_eq_ok.mp hrest
      obtain rfl := Except.ok.inj hentry
      obtain rfl := Except.ok.inj hfound
      exact .cons ⟨rfl, hvalue⟩ (ih.mp hlater)
    · intro h
      cases h with
      | @cons _ first _ later hfirst hlater =>
        obtain ⟨name, value⟩ := first
        obtain ⟨rfl, hvalue⟩ := hfirst
        exact bind_eq_ok.mpr ⟨_, bind_eq_ok.mpr ⟨value, hvalue, rfl⟩,
          bind_eq_ok.mpr ⟨later, ih.mpr hlater, rfl⟩⟩

/-- Metadata are made of a draft that has the place of the keys, with the others in plain form. -/
theorem complete_eq_ok_iff {bound : Nat} {draft : Draft} {metadata : Metadata} :
    draft.complete bound = .ok metadata ↔
      ∃ uri others, draft.keySetUri = some uri ∧ PlainForms bound draft.others.reverse others ∧
        metadata = ⟨draft.issuer.join, uri, draft.signingAlgorithms.join, others.merged⟩ := by
  unfold complete
  constructor
  · intro h
    split at h
    · cases h
    · next uri huri =>
      obtain ⟨others, hothers, hfound⟩ := bind_eq_ok.mp h
      obtain rfl := Except.ok.inj hfound
      exact ⟨uri, others, huri, mapM_plain_iff.mp hothers, rfl⟩
  · rintro ⟨uri, others, huri, hothers, rfl⟩
    rw [huri]
    exact bind_eq_ok.mpr ⟨others, mapM_plain_iff.mpr hothers, rfl⟩

end Draft

end Metadata

end RelyingParty
