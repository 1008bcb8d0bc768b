import Mathlib.Data.List.Induction
import Mathlib.Data.List.Nodup
import RelyingParty.Json.Plain

/-!
# Plain forms

Merged entries have every name once, with its last value. A plain form is its own plain form, however
deep documents may be embedded: no object in it has a name twice or stands for a document.
-/

namespace RelyingParty

open Json

/-- A sequence of two steps succeeds exactly when each of them does. -/
theorem bind_eq_ok {ε α β : Type} {step : Except ε α} {next : α → Except ε β} {result : β} :
    (step >>= next) = .ok result ↔ ∃ value, step = .ok value ∧ next value = .ok result := by
  cases step <;> simp [bind, Except.bind]

namespace Keyed

variable {α : Type}

/-- A name that no entry has is not found. -/
theorem find?_of_notMem {entries : Keyed α} {name : String} (h : name ∉ entries.names) :
    entries.find? name = none := by
  induction entries with
  | nil => rfl
  | cons head rest ih =>
    obtain ⟨other, value⟩ := head
    obtain ⟨hother, hrest⟩ := not_or.mp (mt List.mem_cons.mpr h)
    rw [find?_cons, if_neg hother, ih hrest]

/-- A name that no entry has gets its value at the end. -/
theorem put_of_notMem {entries : Keyed α} {name : String} (h : name ∉ entries.names) (value : α) :
    put name value entries = entries ++ [(name, value)] := by
  induction entries with
  | nil => rfl
  | cons head rest ih =>
    obtain ⟨other, old⟩ := head
    obtain ⟨hother, hrest⟩ := not_or.mp (mt List.mem_cons.mpr h)
    rw [put, if_neg (Ne.symm hother), ih hrest, List.cons_append]

/-- Entries with a name of its own each are merged already. -/
theorem merged_of_nodup {entries : Keyed α} (h : entries.names.Nodup) :
    entries.merged = entries := by
  have hfold : ∀ rest seen : Keyed α, (names (seen ++ rest)).Nodup →
      rest.foldl (fun seen entry => put entry.1 entry.2 seen) seen = seen ++ rest := by
    intro rest
    induction rest with
    | nil =>
      intro seen _
      exact (List.append_nil seen).symm
    | cons head rest ih =>
      intro seen hdistinct
      obtain ⟨name, value⟩ := head
      have hassoc : seen ++ (name, value) :: rest = (seen ++ [(name, value)]) ++ rest := by simp
      have hnew : name ∉ seen.names := by
        intro hmember
        rw [names, List.map_append] at hdistinct
        exact (List.nodup_append.mp hdistinct).2.2 name hmember name List.mem_cons_self rfl
      rw [hassoc] at hdistinct ⊢
      rw [List.foldl_cons, ← ih _ hdistinct]
      exact congrArg (List.foldl _ · rest) (put_of_notMem hnew value)
  exact hfold entries [] h

theorem nodup_names_reverse {entries : Keyed α} (h : entries.names.Nodup) :
    (names entries.reverse).Nodup := by
  rw [names, List.map_reverse]
  exact List.nodup_reverse.mpr h

/-- In a list without repeated names the order of the entries does not matter to what is found. -/
theorem find?_reverse {entries : Keyed α} (h : entries.names.Nodup) (name : String) :
    find? entries.reverse name = entries.find? name := by
  apply Option.ext
  intro value
  rw [find?_eq_some_iff (nodup_names_reverse h), find?_eq_some_iff h, List.mem_reverse]

/-- All values of a name, in order. -/
def values (entries : Keyed α) (name : String) : List α :=
  (entries.filter fun entry => entry.1 = name).map Prod.snd

theorem values_cons (entry : String × α) (rest : Keyed α) (name : String) :
    values (entry :: rest) name =
      if entry.1 = name then entry.2 :: values rest name else values rest name := by
  by_cases h : entry.1 = name <;> simp [values, h]

theorem values_append (first last : Keyed α) (name : String) :
    values (first ++ last) name = values first name ++ values last name := by
  simp [values]

/-- An entry behind others is the last under its name. -/
theorem values_concat_self (entries : Keyed α) {entry : String × α} {name : String}
    (h : entry.1 = name) :
    values (entries ++ [entry]) name = entries.values name ++ [entry.2] := by
  rw [values_append, values_cons, if_pos h]
  rfl

/-- An entry behind others does not matter under another name. -/
theorem values_concat_of_ne (entries : Keyed α) {entry : String × α} {name : String}
    (h : entry.1 ≠ name) :
    values (entries ++ [entry]) name = entries.values name := by
  rw [values_append, values_cons, if_neg h]
  exact List.append_nil _

/-- Merging puts the last entry into what the others are merged to. -/
theorem merged_concat (entries : Keyed α) (entry : String × α) :
    merged (entries ++ [entry]) = put entry.1 entry.2 entries.merged := by
  rw [merged, List.foldl_append]
  rfl

/-- Of the values of a name the last one is merged. -/
theorem find?_merged (entries : Keyed α) (name : String) :
    find? entries.merged name = (entries.values name).getLast? := by
  induction entries using List.reverseRecOn with
  | nil => rfl
  | append_singleton entries entry ih =>
    rw [merged_concat, find?_put, values_append, values_cons, ih]
    by_cases h : entry.1 = name
    · rw [if_pos h.symm, if_pos h]
      exact (List.getLast?_concat).symm
    · rw [if_neg (Ne.symm h), if_neg h]
      exact congrArg List.getLast? (List.append_nil _).symm

theorem nodup_names_merged (entries : Keyed α) : entries.merged.names.Nodup := by
  induction entries using List.reverseRecOn with
  | nil => exact List.nodup_nil
  | append_singleton entries entry ih =>
    rw [merged_concat]
    exact nodup_names_put ih _ _

theorem mem_merged {entries : Keyed α} {name : String} {value : α} :
    (name, value) ∈ entries.merged ↔ (entries.values name).getLast? = some value := by
  rw [← find?_eq_some_iff (nodup_names_merged entries), find?_merged]

/-- What is merged was there before. -/
theorem mem_of_mem_merged {entries : Keyed α} {entry : String × α} (h : entry ∈ entries.merged) :
    entry ∈ entries := by
  obtain ⟨name, value⟩ := entry
  have hvalue := List.mem_of_getLast? (mem_merged.mp h)
  obtain ⟨other, hother, rfl⟩ := List.mem_map.mp hvalue
  obtain ⟨hmember, hname⟩ := List.mem_filter.mp hother
  rw [← of_decide_eq_true hname]
  exact hmember

/-- The first name stays the first when a value is put in. -/
theorem head?_names_put {entries : Keyed α} {first : String} (h : entries.names.head? = some first)
    (name : String) (value : α) : (names (put name value entries)).head? = some first := by
  cases entries with
  | nil => cases h
  | cons entry rest =>
    obtain ⟨other, old⟩ := entry
    rw [put]
    split
    · next hsame => exact hsame ▸ h
    · exact h

/-- The first name stays the first when entries are merged. -/
theorem head?_names_merged (entries : Keyed α) :
    entries.merged.names.head? = entries.names.head? := by
  induction entries using List.reverseRecOn with
  | nil => rfl
  | append_singleton entries entry ih =>
    rw [merged_concat]
    cases entries with
    | nil => rfl
    | cons first rest => exact head?_names_put ih _ _

end Keyed

namespace Json

/-- The plain form keeps the names. -/
theorem names_of_plainMembers {embedded : String → Except Json.Fault Value}
    {written claims : Members} (h : plainMembers embedded written = .ok claims) :
    claims.names = written.names := by
  induction written generalizing claims with
  | nil =>
    rw [plainMembers] at h
    obtain rfl := Except.ok.inj h
    rfl
  | cons head rest ih =>
    obtain ⟨name, item⟩ := head
    rw [plainMembers] at h
    obtain ⟨first, _, hrest⟩ := bind_eq_ok.mp h
    obtain ⟨later, hlater, heq⟩ := bind_eq_ok.mp hrest
    obtain rfl := Except.ok.inj heq
    rw [Keyed.names, List.map_cons, ← Keyed.names, ih hlater]
    rfl

/-- A value that is its own plain form, whatever documents may be embedded. -/
def Value.IsPlain (value : Value) : Prop :=
  ∀ embedded : String → Except Fault Value, plainWith embedded value = .ok value

theorem plainItems_of_isPlain {items : List Value} (h : ∀ item ∈ items, item.IsPlain)
    (embedded : String → Except Fault Value) : plainItems embedded items = .ok items := by
  induction items with
  | nil => rfl
  | cons item rest ih =>
    obtain ⟨hitem, hrest⟩ := List.forall_mem_cons.mp h
    rw [plainItems, hitem embedded, ih hrest]
    rfl

theorem plainMembers_of_isPlain {members : Members} (h : ∀ entry ∈ members, entry.2.IsPlain)
    (embedded : String → Except Fault Value) : plainMembers embedded members = .ok members := by
  induction members with
  | nil => rfl
  | cons entry rest ih =>
    obtain ⟨hentry, hrest⟩ := List.forall_mem_cons.mp h
    rw [plainMembers, hentry embedded, ih hrest]
    rfl

/-- An object stands for itself unless its first name is the reserved one. -/
theorem embedded?_eq_none_iff {members : Members} :
    embedded? members = .ok none ↔ members.names.head? ≠ some embeddedName := by
  cases members with
  | nil => exact ⟨nofun, fun _ => rfl⟩
  | cons entry rest =>
    obtain ⟨name, value⟩ := entry
    have hhead : (Keyed.names ((name, value) :: rest)).head? = some name := rfl
    rw [hhead, Ne, Option.some.injEq]
    unfold embedded?
    constructor
    · rintro h rfl
      simp only [if_true] at h
      cases value <;> cases h
    · intro h
      exact if_neg h

theorem isPlain_null : Value.null.IsPlain := fun _ => rfl

theorem isPlain_string (text : String) : (Value.string text).IsPlain := fun _ => rfl

/-- An array of plain values is plain. -/
theorem isPlain_array {items : List Value} (h : ∀ item ∈ items, item.IsPlain) :
    (Value.array items).IsPlain := by
  intro embedded
  rw [plainWith, plainItems_of_isPlain h]
  rfl

/-- An object of plain values is plain when its names are distinct and the reserved one is not its
first. -/
theorem isPlain_object {members : Members} (first : members.names.head? ≠ some embeddedName)
    (distinct : members.names.Nodup) (h : ∀ entry ∈ members, entry.2.IsPlain) :
    (Value.object members).IsPlain := by
  intro embedded
  rw [plainWith, embedded?_eq_none_iff.mpr first]
  refine bind_eq_ok.mpr
    ⟨none, rfl, bind_eq_ok.mpr ⟨members, plainMembers_of_isPlain h embedded, ?_⟩⟩
  rw [Keyed.merged_of_nodup distinct]
  rfl

section

variable {embedded : String → Except Fault Value}

mutual

/-- A plain form is plain if those of embedded documents are. -/
theorem isPlain_of_plainWith (documents : ∀ text value, embedded text = .ok value → value.IsPlain)
    (value : Value) {found : Value} (h : plainWith embedded value = .ok found) : found.IsPlain := by
  cases value with
  | null | bool | number | string =>
    rw [plainWith] at h
    · obtain rfl := Except.ok.inj h
      intro other
      rw [plainWith] <;> nofun
    all_goals nofun
  | array items =>
    rw [plainWith] at h
    obtain ⟨plain, hplain, hfound⟩ := bind_eq_ok.mp h
    obtain rfl := Except.ok.inj hfound
    exact isPlain_array (isPlain_of_plainItems documents items hplain)
  | object members =>
    rw [plainWith] at h
    obtain ⟨document, hdocument, hrest⟩ := bind_eq_ok.mp h
    cases document with
    | some text =>
      obtain ⟨value, hvalue, hone⟩ := bind_eq_ok.mp hrest
      split at hone
      · obtain rfl := Except.ok.inj hone
        exact documents text value hvalue
      · cases hone
    | none =>
      obtain ⟨plain, hplain, hfound⟩ := bind_eq_ok.mp hrest
      obtain rfl := Except.ok.inj hfound
      have hmembers := isPlain_of_plainMembers documents members hplain
      refine isPlain_object ?_ (Keyed.nodup_names_merged plain) fun entry hentry =>
        hmembers entry (Keyed.mem_of_mem_merged hentry)
      rw [Keyed.head?_names_merged, names_of_plainMembers hplain]
      exact embedded?_eq_none_iff.mp hdocument

theorem isPlain_of_plainItems (documents : ∀ text value, embedded text = .ok value → value.IsPlain)
    (items : List Value) {found : List Value} (h : plainItems embedded items = .ok found) :
    ∀ item ∈ found, item.IsPlain := by
  cases items with
  | nil =>
    obtain rfl := Except.ok.inj h
    exact fun _ hitem => nomatch hitem
  | cons item rest =>
    rw [plainItems] at h
    obtain ⟨first, hfirst, hrest⟩ := bind_eq_ok.mp h
    obtain ⟨later, hlater, hfound⟩ := bind_eq_ok.mp hrest
    obtain rfl := Except.ok.inj hfound
    exact List.forall_mem_cons.mpr
      ⟨isPlain_of_plainWith documents item hfirst, isPlain_of_plainItems documents rest hlater⟩

theorem isPlain_of_plainMembers
    (documents : ∀ text value, embedded text = .ok value → value.IsPlain) (members : Members)
    {found : Members} (h : plainMembers embedded members = .ok found) :
    ∀ entry ∈ found, entry.2.IsPlain := by
  cases members with
  | nil =>
    obtain rfl := Except.ok.inj h
    exact fun _ hentry => nomatch hentry
  | cons entry rest =>
    rw [plainMembers] at h
    obtain ⟨first, hfirst, hrest⟩ := bind_eq_ok.mp h
    obtain ⟨later, hlater, hfound⟩ := bind_eq_ok.mp hrest
    obtain rfl := Except.ok.inj hfound
    exact List.forall_mem_cons.mpr
      ⟨isPlain_of_plainWith documents entry.2 hfirst, isPlain_of_plainMembers documents rest hlater⟩

end

end

/-- Whatever is found as a plain form is plain. -/
theorem isPlain_of_plain {bound : Nat} {value found : Value} (h : plain bound value = .ok found) :
    found.IsPlain := by
  induction bound generalizing value found with
  | zero =>
    refine isPlain_of_plainWith (fun _ _ hnone => ?_) value h
    cases hnone
  | succ bound ih =>
    refine isPlain_of_plainWith (fun text inner hinner => ?_) value h
    obtain ⟨written, -, hplain⟩ := bind_eq_ok.mp hinner
    exact ih hplain

/-- A plain value is its plain form. -/
theorem Value.IsPlain.plain {value : Value} (h : value.IsPlain) (bound : Nat) :
    Json.plain bound value = .ok value := by
  cases bound with
  | zero => exact h _
  | succ bound => exact h _

end Json

end RelyingParty
