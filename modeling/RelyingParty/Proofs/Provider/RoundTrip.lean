import RelyingParty.Proofs.Json.PrintedValue
import RelyingParty.Proofs.Provider.Description

/-!
# Metadata survive a round trip

Metadata that were read from a document are described by its members: by all of them, besides an
issuer and algorithms that are `null`, each name with its last value and the unknown ones apart from
the known. From the members that describe them the same metadata are made again.
-/

namespace RelyingParty

open Json Text

namespace Metadata

/-- What a document says under a name: the plain form of the last value there. -/
def Says (bound : Nat) (written : Members) (name : String) (value : Value) : Prop :=
  ∃ last, (written.values name).getLast? = some last ∧ plain bound last = .ok value

theorem values_of_plainForms {bound : Nat} {members found : Members}
    (h : Draft.PlainForms bound members found) (name : String) :
    List.Forall₂ (fun value last => plain bound value = .ok last) (members.values name)
      (found.values name) := by
  induction h with
  | nil => exact .nil
  | @cons entry first rest later hfirst _ ih =>
    obtain ⟨hname, hvalue⟩ := hfirst
    rw [Keyed.values_cons, Keyed.values_cons, hname]
    split
    · exact .cons hvalue ih
    · exact ih

/-- Of the plain forms that are merged each is what the document says under its name. -/
theorem mem_merged_iff_says {bound : Nat} {members found : Members}
    (h : Draft.PlainForms bound members found) (name : String) (value : Value) :
    (name, value) ∈ found.merged ↔ Says bound members name value := by
  rw [Keyed.mem_merged, Says, List.getLast?_eq_head?_reverse, List.getLast?_eq_head?_reverse]
  have hvalues := List.rel_reverse (values_of_plainForms h name)
  generalize (members.values name).reverse = written at hvalues ⊢
  generalize (found.values name).reverse = plains at hvalues ⊢
  cases hvalues with
  | nil => simp
  | cons hvalue _ =>
    simp only [List.head?_cons, Option.some.injEq, exists_eq_left', hvalue, Except.ok.injEq]

/-- A member that is left out: a known one that may be missing and is `null`. -/
def LeftOut (name : String) (value : Value) : Prop :=
  value = .null ∧ (name = issuerName ∨ name = signingAlgorithmsName)

theorem mem_optionalMember {name other : String} {found : Option Value} {value : Value} :
    (name, value) ∈ optionalMember other found ↔ name = other ∧ found = some value := by
  cases found <;> simp [optionalMember, eq_comm]

theorem mem_toMembers {metadata : Metadata} {name : String} {value : Value} :
    (name, value) ∈ metadata.toMembers ↔
      (name = issuerName ∧ metadata.issuer.map .string = some value) ∨
      (name = keySetUriName ∧ .string metadata.keySetUri = value) ∨
      (name = signingAlgorithmsName ∧ metadata.signingAlgorithms.map writeTexts = some value) ∨
      (name, value) ∈ metadata.others := by
  rw [toMembers, List.mem_append, List.mem_append, List.mem_cons, mem_optionalMember,
    mem_optionalMember, Prod.mk.injEq, or_assoc, or_assoc, @eq_comm _ value]
  rfl

/-- What a document says under a known name is what has been taken of it. -/
theorem says_iff_of_values {α : Type} {bound : Nat} {written : Members} {name : String}
    {write : α → Value} {found : Option α} (plain : ∀ inner, (write inner).IsPlain)
    (h : written.values name = found.toList.map write) {value : Value} :
    Says bound written name value ↔ found.map write = some value := by
  rw [Says, h]
  cases found with
  | none => simp
  | some inner =>
    have hplain := (plain inner).plain bound
    simp only [Option.toList_some, List.map_cons, List.map_nil, List.getLast?_singleton,
      Option.some.injEq, exists_eq_left', hplain, Except.ok.injEq, Option.map_some]

/-- An optional member is left out when it has been taken as `null`. -/
theorem map_join_eq_some_iff {α : Type} {write : α → Value} (notNull : ∀ inner, write inner ≠ .null)
    {found : Option (Option α)} {value : Value} :
    found.join.map write = some value ↔
      found.map (Reader.writeOptional write) = some value ∧ value ≠ .null := by
  have hnull : ∀ inner, write inner = value → value ≠ .null := by
    rintro inner rfl
    exact notNull inner
  rcases found with _ | _ | inner
  · simp
  · simp [Reader.writeOptional, eq_comm]
  · simpa [Reader.writeOptional] using hnull inner

/-- Under a name that is not known a document says as much as its unknown members do. -/
theorem says_filter_iff {bound : Nat} {written : Members} {name : String} {value : Value} :
    Says bound (written.filter fun entry => entry.1 ∉ knownNames) name value ↔
      name ∉ knownNames ∧ Says bound written name value := by
  have hvalues : Keyed.values (written.filter fun entry => entry.1 ∉ knownNames) name =
      if name ∈ knownNames then [] else written.values name := by
    rw [Keyed.values, List.filter_filter]
    split
    · next hknown =>
      rw [List.map_eq_nil_iff, List.filter_eq_nil_iff]
      rintro entry - h
      simp only [Bool.and_eq_true, decide_eq_true_eq] at h
      exact h.2 (h.1 ▸ hknown)
    · next hunknown =>
      refine congrArg (List.map Prod.snd) (List.filter_congr fun entry _ => ?_)
      by_cases hname : entry.1 = name
      · simp [hname, hunknown]
      · simp [hname]
  rw [Says, hvalues]
  by_cases hknown : name ∈ knownNames
  · simp [hknown]
  · simp [hknown, Says]

theorem isPlain_writeTexts (texts : List String) : (writeTexts texts).IsPlain := by
  refine isPlain_array fun item hitem => ?_
  obtain ⟨text, -, rfl⟩ := List.mem_map.mp hitem
  exact isPlain_string text

theorem isPlain_writeOptional {α : Type} {write : α → Value} (h : ∀ inner, (write inner).IsPlain)
    (found : Option α) : (Reader.writeOptional write found).IsPlain := by
  cases found with
  | none => exact isPlain_null
  | some inner => exact h inner

section

variable {bound : Nat} {written : Members} {draft : Draft} {metadata : Metadata}

/-- The other members are those with unknown names. -/
theorem mem_others_iff (holds : draft.Holds written) (complete : draft.complete bound = .ok metadata)
    (name : String) (value : Value) :
    (name, value) ∈ metadata.others ↔ name ∉ knownNames ∧ Says bound written name value := by
  obtain ⟨uri, others, -, hothers, rfl⟩ := Draft.complete_eq_ok_iff.mp complete
  rw [holds.others, List.reverse_reverse] at hothers
  rw [← says_filter_iff]
  exact mem_merged_iff_says hothers name value

/-- The members that describe metadata are those of the document, besides those that are left
out. -/
theorem mem_toMembers_iff (holds : draft.Holds written)
    (complete : draft.complete bound = .ok metadata) (name : String) (value : Value) :
    (name, value) ∈ metadata.toMembers ↔
      Says bound written name value ∧ ¬ LeftOut name value := by
  have hothers := mem_others_iff holds complete name value
  obtain ⟨uri, others, huri, -, rfl⟩ := Draft.complete_eq_ok_iff.mp complete
  have hissuer : draft.issuer.join.map .string = some value ↔
      Says bound written issuerName value ∧ value ≠ .null := by
    rw [says_iff_of_values (isPlain_writeOptional isPlain_string) holds.issuer,
      map_join_eq_some_iff nofun]
  have hkeySetUri : .string uri = value ↔ Says bound written keySetUriName value := by
    rw [says_iff_of_values isPlain_string holds.keySetUri, huri, Option.map_some, Option.some.injEq]
  have hnames : draft.signingAlgorithms.join.map writeTexts = some value ↔
      Says bound written signingAlgorithmsName value ∧ value ≠ .null := by
    rw [says_iff_of_values (isPlain_writeOptional isPlain_writeTexts) holds.signingAlgorithms,
      map_join_eq_some_iff nofun]
  rw [mem_toMembers, hothers]
  simp only [hissuer, hkeySetUri, hnames, LeftOut]
  by_cases hknown : name ∈ knownNames
  · have hname : name = issuerName ∨ name = keySetUriName ∨ name = signingAlgorithmsName := by
      simpa [knownNames] using hknown
    rcases hname with rfl | rfl | rfl
    · have hne : issuerName ≠ keySetUriName ∧ issuerName ≠ signingAlgorithmsName := by decide
      simp [hknown, hne]
    · have hne : keySetUriName ≠ issuerName ∧ keySetUriName ≠ signingAlgorithmsName := by decide
      simp [hknown, hne]
    · have hne : signingAlgorithmsName ≠ issuerName ∧ signingAlgorithmsName ≠ keySetUriName := by
        decide
      simp [hknown, hne]
  · obtain ⟨hother, hplace, hlast⟩ := notMem_knownNames.mp hknown
    simp [hknown, hother, hplace, hlast]

end

/-- The names of the other members are unknown, and distinct. -/
structure IsOpen (metadata : Metadata) : Prop where
  /-- No name is repeated. -/
  distinct : metadata.others.names.Nodup
  /-- No known name is used. -/
  unknown : ∀ entry ∈ metadata.others, entry.1 ∉ knownNames
  /-- The values are plain. -/
  plain : ∀ entry ∈ metadata.others, entry.2.IsPlain

theorem sublist_names_optionalMember (name : String) (found : Option Value) :
    (Keyed.names (optionalMember name found)).Sublist [name] := by
  cases found with
  | none => exact List.nil_sublist _
  | some value => exact List.Sublist.refl _

/-- Every name occurs once among the members that describe metadata. -/
theorem IsOpen.nodup_names {metadata : Metadata} (h : metadata.IsOpen) :
    metadata.toMembers.names.Nodup := by
  have hsublist := (sublist_names_optionalMember issuerName (metadata.issuer.map .string)).append
    ((sublist_names_optionalMember signingAlgorithmsName
      (metadata.signingAlgorithms.map writeTexts)).cons_cons keySetUriName)
  have hknown : knownNames.Nodup := by decide
  rw [toMembers, Keyed.names, List.map_append, List.map_append, List.map_cons]
  refine (hknown.sublist hsublist).append h.distinct ?_
  intro name hname hother
  obtain ⟨entry, hentry, rfl⟩ := List.mem_map.mp hother
  exact h.unknown entry hentry (hsublist.subset hname)

theorem values_optionalMember (name other : String) (found : Option Value) :
    Keyed.values (optionalMember other found) name = if other = name then found.toList else [] := by
  cases found with
  | none => simp [optionalMember, Keyed.values]
  | some value => rw [optionalMember, Keyed.values_cons]; rfl

/-- What the members that describe metadata say under the known names. -/
theorem IsOpen.values {metadata : Metadata} (h : metadata.IsOpen) :
    metadata.toMembers.values issuerName = metadata.issuer.toList.map .string ∧
      metadata.toMembers.values keySetUriName = [.string metadata.keySetUri] ∧
      metadata.toMembers.values signingAlgorithmsName =
        metadata.signingAlgorithms.toList.map writeTexts := by
  have hothers : ∀ name ∈ knownNames, metadata.others.values name = [] := by
    intro name hname
    rw [Keyed.values, List.map_eq_nil_iff, List.filter_eq_nil_iff]
    intro entry hentry hsame
    exact h.unknown entry hentry (of_decide_eq_true hsame ▸ hname)
  have htoList : ∀ {α : Type} (write : α → Value) (found : Option α),
      (found.map write).toList = found.toList.map write := by
    intro α write found
    cases found <;> rfl
  have hissuer := hothers issuerName (by decide)
  have huri := hothers keySetUriName (by decide)
  have hnames := hothers signingAlgorithmsName (by decide)
  have hne : issuerName ≠ keySetUriName ∧ issuerName ≠ signingAlgorithmsName ∧
      keySetUriName ≠ signingAlgorithmsName := by decide
  simp only [toMembers, Keyed.values_append, Keyed.values_cons, values_optionalMember, hissuer, huri,
    hnames, htoList, hne, hne.1.symm, hne.2.1.symm, hne.2.2.symm, if_true, if_false, List.append_nil,
    List.nil_append, true_and]
  rfl

/-- Only the other members of those that describe metadata have unknown names. -/
theorem IsOpen.filter_toMembers {metadata : Metadata} (h : metadata.IsOpen) :
    metadata.toMembers.filter (fun entry => entry.1 ∉ knownNames) = metadata.others := by
  have hothers : metadata.others.filter (fun entry => entry.1 ∉ knownNames) = metadata.others :=
    List.filter_eq_self.mpr fun entry hentry => decide_eq_true (h.unknown entry hentry)
  have hoptional : ∀ name ∈ knownNames, ∀ found,
      (optionalMember name found).filter (fun entry => entry.1 ∉ knownNames) = [] := by
    intro name hname found
    cases found <;> simp [optionalMember, hname]
  have huri : keySetUriName ∈ knownNames := by decide
  rw [toMembers, List.filter_append, List.filter_append, hoptional issuerName (by decide),
    List.filter_cons_of_neg (by simpa using huri), hoptional signingAlgorithmsName (by decide),
    hothers]
  rfl

/-- Two metadata are the same when they agree in all but the order of the other members. -/
structure Same (first second : Metadata) : Prop where
  /-- The issuers are equal. -/
  issuer : first.issuer = second.issuer
  /-- The places of the keys are equal. -/
  keySetUri : first.keySetUri = second.keySetUri
  /-- The algorithms are equal. -/
  signingAlgorithms : first.signingAlgorithms = second.signingAlgorithms
  /-- The other members are the same. -/
  others : first.others.Perm second.others

theorem eq_of_perm_toList {α : Type} {write : α → Value} {found : Option α} {values : List Value}
    (h : values.Perm (found.toList.map write)) :
    values = (found.map some).toList.map (Reader.writeOptional write) := by
  cases found with
  | none => exact h.eq_nil
  | some inner => exact List.perm_singleton.mp h

theorem plainForms_self {bound : Nat} {members : Members}
    (h : ∀ entry ∈ members, entry.2.IsPlain) : Draft.PlainForms bound members members :=
  List.forall₂_same.mpr fun entry hentry => ⟨rfl, (h entry hentry).plain bound⟩

/-- From the members that describe metadata, in any order, the same metadata are made. -/
theorem IsOpen.ofMembers? {metadata : Metadata} (h : metadata.IsOpen) {members : Members}
    (same : members.Perm metadata.toMembers) :
    ∃ again : Metadata, again.Same metadata ∧
      ∀ bound, Metadata.ofMembers? bound members = some again := by
  have hothers : (members.filter fun entry => entry.1 ∉ knownNames).Perm metadata.others :=
    h.filter_toMembers ▸ same.filter _
  have hvalues : ∀ name, (members.values name).Perm (metadata.toMembers.values name) :=
    fun name => (same.filter _).map Prod.snd
  obtain ⟨hissuer, huri, hnames⟩ := h.values
  refine ⟨⟨metadata.issuer, metadata.keySetUri, metadata.signingAlgorithms,
    members.filter fun entry => entry.1 ∉ knownNames⟩, ⟨rfl, rfl, rfl, hothers⟩, ?_⟩
  intro bound
  refine ofMembers?_eq_some_iff.mpr ⟨⟨metadata.issuer.map some, some metadata.keySetUri,
    metadata.signingAlgorithms.map some,
    (members.filter fun entry => entry.1 ∉ knownNames).reverse⟩,
    Draft.foldlM_take?_iff.mpr ⟨?_, ?_, ?_, rfl⟩, ?_⟩
  · exact eq_of_perm_toList (hissuer ▸ hvalues issuerName)
  · exact List.perm_singleton.mp (huri ▸ hvalues keySetUriName)
  · exact eq_of_perm_toList (hnames ▸ hvalues signingAlgorithmsName)
  · refine Draft.complete_eq_ok_iff.mpr
      ⟨metadata.keySetUri, members.filter fun entry => entry.1 ∉ knownNames, rfl, ?_, ?_⟩
    · rw [List.reverse_reverse]
      exact plainForms_self fun entry hentry => h.plain entry (hothers.mem_iff.mp hentry)
    · have hdistinct : (Keyed.names (members.filter fun entry => entry.1 ∉ knownNames)).Nodup :=
        (hothers.map Prod.fst).nodup_iff.mpr h.distinct
      rw [Keyed.merged_of_nodup hdistinct]
      cases metadata.issuer <;> cases metadata.signingAlgorithms <;> rfl

theorem isPlain_of_plainForms {bound : Nat} {members found : Members}
    (h : Draft.PlainForms bound members found) : ∀ entry ∈ found, entry.2.IsPlain := by
  induction h with
  | nil => simp
  | cons hfirst _ ih => exact List.forall_mem_cons.mpr ⟨isPlain_of_plain hfirst.2, ih⟩

theorem isOpen_of_complete {bound : Nat} {written : Members} {draft : Draft} {metadata : Metadata}
    (holds : draft.Holds written) (complete : draft.complete bound = .ok metadata) :
    metadata.IsOpen := by
  have hothers := mem_others_iff holds complete
  obtain ⟨uri, others, -, hplain, rfl⟩ := Draft.complete_eq_ok_iff.mp complete
  refine ⟨Keyed.nodup_names_merged others, ?_, ?_⟩
  · rintro ⟨name, value⟩ hentry
    exact ((hothers name value).mp hentry).1
  · intro entry hentry
    exact isPlain_of_plainForms hplain entry (Keyed.mem_of_mem_merged hentry)

/-- Metadata that were read are described by the members of the document, in their plain form and
each name with its last value, besides an issuer and algorithms that are `null`. The members with
unknown names, and no others, are kept among the other ones. From the members that describe them, in
any order, the same metadata are made again. So they are of every document that is read as an object
of these members, in particular of the printed one, unless a number in it is not read back or it has
too many containers inside each other. -/
theorem survives {document : String} {metadata : Metadata}
    (h : ofDocument document = .ok metadata) :
    ∃ written, readValue (Utf8.encode document) = .ok (.object written) ∧
      metadata.toMembers.names.Nodup ∧
      (∀ name value, (name, value) ∈ metadata.toMembers ↔
        Says (Utf8.encode document).length written name value ∧ ¬ LeftOut name value) ∧
      (∀ name value, (name, value) ∈ metadata.others ↔
        name ∉ knownNames ∧ Says (Utf8.encode document).length written name value) ∧
      ∀ members : Members, members.Perm metadata.toMembers → ∃ again : Metadata,
        again.Same metadata ∧ (∀ bound, ofMembers? bound members = some again) ∧
          (∀ text, readValue (Utf8.encode text) = .ok (.object members) →
            ofDocument text = .ok again) ∧
          ((Value.object members).Readable Reader.maxDepth →
            ofDocument (Value.object members).print = .ok again) := by
  obtain ⟨written, hread, hmembers⟩ := ofDocument_eq_ok_iff.mp h
  obtain ⟨draft, hfold, hcomplete⟩ := ofMembers?_eq_some_iff.mp hmembers
  have hholds := Draft.foldlM_take?_iff.mp hfold
  have hopen := isOpen_of_complete hholds hcomplete
  refine ⟨written, hread, hopen.nodup_names, mem_toMembers_iff hholds hcomplete,
    mem_others_iff hholds hcomplete, ?_⟩
  intro members same
  obtain ⟨again, hsame, hagain⟩ := hopen.ofMembers? same
  have htext : ∀ text, readValue (Utf8.encode text) = .ok (.object members) →
      ofDocument text = .ok again :=
    fun text htext => ofDocument_eq_ok_iff.mpr ⟨members, htext, hagain _⟩
  exact ⟨again, hsame, hagain, htext, fun hreadable => htext _ (readValue_print hreadable)⟩

/-- A document with a repeated name and an issuer that is `null` is read, and what is printed of it
is read again. -/
theorem survives_repeated :
    let metadata : Metadata := ⟨none, "u", none, [("x", .array [.number (.whole (-2))])]⟩
    ofDocument "\x7b\"x\":1,\"jwks_uri\":\"u\",\"issuer\":null,\"x\":[-2]\x7d" = .ok metadata ∧
      ∃ again : Metadata, again.Same metadata ∧
        ofDocument (Value.object metadata.toMembers).print = .ok again := by
  intro metadata
  have hdocument :
      ofDocument "\x7b\"x\":1,\"jwks_uri\":\"u\",\"issuer\":null,\"x\":[-2]\x7d" = .ok metadata :=
    ofDocument_eq_ok_iff.mpr ⟨[("x", .number (.whole 1)), ("jwks_uri", .string "u"),
      ("issuer", .null), ("x", .array [.number (.whole (-2))])], rfl, rfl⟩
  have hnumber : (Number.whole (-2)).ReadsBack := Reader.readsBack_whole (by decide) (by decide)
  have hreadable : (Value.object metadata.toMembers).Readable Reader.maxDepth := by
    refine .object fun entry hentry => ?_
    rcases List.mem_cons.mp hentry with rfl | hentry
    · exact .string
    · obtain rfl := List.mem_singleton.mp hentry
      refine .array fun item hitem => ?_
      obtain rfl := List.mem_singleton.mp hitem
      exact .number hnumber
  obtain ⟨_, -, -, -, -, hagain⟩ := survives hdocument
  obtain ⟨again, hsame, -, -, hprinted⟩ := hagain _ (List.Perm.refl _)
  exact ⟨hdocument, again, hsame, hprinted hreadable⟩

end Metadata

end RelyingParty
