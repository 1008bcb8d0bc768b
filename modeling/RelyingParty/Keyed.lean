/-!
# Values by name

A list of named values in a fixed order. Looking a name up gives its first value; putting a value
keeps the place of a name that is there already, so that a list without repeated names stays one.
-/

namespace RelyingParty

/-- Values with names, in order. -/
abbrev Keyed (α : Type) := List (String × α)

namespace Keyed

/-- The value of the first entry with a name. -/
def find? {α : Type} (entries : Keyed α) (name : String) : Option α :=
  List.lookup name entries

/-- The names, in order. -/
def names {α : Type} (entries : Keyed α) : List String :=
  entries.map Prod.fst

/-- Gives a name a value: in the place of the entry that has the name, or at the end. -/
def put {α : Type} (name : String) (value : α) : Keyed α → Keyed α
  | [] => [(name, value)]
  | (other, old) :: rest =>
    if other = name then (name, value) :: rest else (other, old) :: put name value rest

/-- The entries without those that have a name. -/
def erase {α : Type} (entries : Keyed α) (name : String) : Keyed α :=
  entries.filter (·.1 != name)

/-- Every name once, at its first place and with its last value. -/
def merged {α : Type} (entries : Keyed α) : Keyed α :=
  entries.foldl (fun seen (name, value) => put name value seen) []

variable {α : Type}

theorem find?_cons (name other : String) (value : α) (rest : Keyed α) :
    find? ((name, value) :: rest) other =
      if other = name then some value else find? rest other := by
  by_cases h : other = name
  · simp [find?, h]
  · simp [find?, List.lookup_cons, h, beq_eq_false_iff_ne.2 h]

theorem find?_put (entries : Keyed α) (name other : String) (value : α) :
    find? (put name value entries) other =
      if other = name then some value else find? entries other := by
  induction entries with
  | nil => simp [put, find?_cons]
  | cons head rest ih =>
    obtain ⟨key, old⟩ := head
    by_cases hk : key = name
    · subst hk
      by_cases h : other = key <;> simp [put, find?_cons, h]
    · by_cases ho : other = key
      · subst ho
        simp [put, find?_cons, hk]
      · simp [put, find?_cons, hk, ho, ih]

theorem find?_erase (entries : Keyed α) (name other : String) :
    find? (erase entries name) other = if other = name then none else find? entries other := by
  induction entries with
  | nil => simp [erase, find?]
  | cons head rest ih =>
    obtain ⟨key, old⟩ := head
    simp only [erase] at ih
    by_cases hk : key = name
    · subst hk
      by_cases h : other = key <;> simp_all [erase, find?_cons]
    · by_cases ho : other = key
      · subst ho
        simp [erase, find?_cons, hk]
      · simp [erase, find?_cons, hk, ho, ih]

/-- A name that is given the value it has already changes nothing. -/
theorem put_of_find? {entries : Keyed α} {name : String} {value : α}
    (h : entries.find? name = some value) : put name value entries = entries := by
  induction entries with
  | nil => cases h
  | cons head rest ih =>
    obtain ⟨other, old⟩ := head
    rw [find?_cons] at h
    by_cases hname : other = name
    · rw [if_pos hname.symm] at h
      rw [put, if_pos hname, hname, Option.some.inj h]
    · rw [if_neg (Ne.symm hname)] at h
      rw [put, if_neg hname, ih h]

/-- Of two values that a name is given the second stays. -/
theorem put_put (entries : Keyed α) (name : String) (first last : α) :
    put name last (put name first entries) = put name last entries := by
  induction entries with
  | nil => simp [put]
  | cons head rest ih =>
    obtain ⟨other, old⟩ := head
    by_cases hname : other = name <;> simp [put, hname, ih]

theorem mem_names_put (entries : Keyed α) (name other : String) (value : α) :
    other ∈ names (put name value entries) ↔ other = name ∨ other ∈ names entries := by
  induction entries with
  | nil => simp [put, names]
  | cons head rest ih =>
    obtain ⟨key, old⟩ := head
    simp only [names] at ih
    by_cases hkey : key = name
    · simp [put, names, hkey]
    · simp [put, names, hkey, ih, or_left_comm]

/-- A list without repeated names stays one when a name is given a value. -/
theorem nodup_names_put {entries : Keyed α} (h : entries.names.Nodup) (name : String) (value : α) :
    (names (put name value entries)).Nodup := by
  induction entries with
  | nil => simp [put, names]
  | cons head rest ih =>
    obtain ⟨other, old⟩ := head
    obtain ⟨hother, hrest⟩ := List.nodup_cons.mp h
    by_cases hname : other = name
    · rw [put, if_pos hname]
      exact hname ▸ h
    · have hfresh : other ∉ names (put name value rest) := by
        rw [mem_names_put]
        exact fun hmember => hmember.elim hname hother
      rw [put, if_neg hname]
      exact List.nodup_cons.mpr ⟨hfresh, ih hrest⟩

/-- A list without repeated names stays one when a name is taken away. -/
theorem nodup_names_erase {entries : Keyed α} (h : entries.names.Nodup) (name : String) :
    (names (erase entries name)).Nodup :=
  List.Nodup.sublist (List.filter_sublist.map Prod.fst) h

/-- In a list without repeated names every entry is found by its name. -/
theorem find?_eq_some_iff {entries : Keyed α} (h : entries.names.Nodup) (name : String)
    (value : α) : entries.find? name = some value ↔ (name, value) ∈ entries := by
  induction entries with
  | nil => simp [find?]
  | cons head rest ih =>
    obtain ⟨other, old⟩ := head
    obtain ⟨hother, hrest⟩ := List.nodup_cons.mp h
    rw [find?_cons, List.mem_cons, ← ih hrest]
    by_cases hname : name = other
    · subst hname
      have hnone : find? rest name ≠ some value := by
        rw [Ne, ih hrest]
        exact fun hmember => hother (List.mem_map.mpr ⟨_, hmember, rfl⟩)
      simp [hnone, eq_comm]
    · simp [hname]

end Keyed

end RelyingParty
