import Mathlib.Tactic.Common
import RelyingParty.Proofs.Text.Trimming
import RelyingParty.Requirements

/-!
# Amendments

What a statement says after a row of amendments: for each kind what the last amendment of that kind
sets, whatever the earlier ones have set, and what it said before where there is none. So amendments
of different kinds may be made in any order. The requirements that are stated ask for just that, but
for the texts that are blank.
-/

namespace RelyingParty

open Text

namespace Amendment

/-- The parts of a statement that can be amended. -/
inductive Kind where
  /-- The nonce. -/
  | nonce
  /-- The greatest age of the authentication. -/
  | maxAge
  /-- How far clocks may differ. -/
  | leeway
  /-- The organization. -/
  | organization
deriving DecidableEq, Repr

/-- The part that an amendment sets. -/
def kind : Amendment → Kind
  | nonce _ => .nonce
  | maxAge _ => .maxAge
  | leeway _ => .leeway
  | organization _ => .organization

/-- An amendment is the last of its kind in a row of amendments. -/
def IsLast (amendments : List Amendment) (amendment : Amendment) : Prop :=
  ∃ before after, amendments = before ++ amendment :: after ∧
    ∀ later ∈ after, later.kind ≠ amendment.kind

/-- Two rows hold the same amendments of each kind in the same order, so that only amendments of
different kinds have changed places. -/
def Reorders (amendments others : List Amendment) : Prop :=
  ∀ kind, amendments.filter (·.kind = kind) = others.filter (·.kind = kind)

variable {amendments others : List Amendment} {amendment : Amendment}

theorem not_isLast_nil : ¬ IsLast [] amendment := by
  rintro ⟨before, after, h, _⟩
  simp at h

theorem isLast_cons {first : Amendment} : IsLast (first :: amendments) amendment ↔
    IsLast amendments amendment ∨
      first = amendment ∧ ∀ later ∈ amendments, later.kind ≠ amendment.kind := by
  constructor
  · rintro ⟨before, after, hsplit, hafter⟩
    cases before with
    | nil =>
      obtain ⟨rfl, rfl⟩ := List.cons.inj hsplit
      exact Or.inr ⟨rfl, hafter⟩
    | cons _ before =>
      obtain ⟨rfl, rfl⟩ := List.cons.inj hsplit
      exact Or.inl ⟨before, after, rfl, hafter⟩
  · rintro (⟨before, after, rfl, hafter⟩ | ⟨rfl, hafter⟩)
    · exact ⟨first :: before, after, rfl, hafter⟩
    · exact ⟨[], amendments, rfl, hafter⟩

/-- The last amendment of a kind stands at the end of those of the kind. -/
theorem isLast_iff_filter : IsLast amendments amendment ↔
    ∃ earlier, amendments.filter (·.kind = amendment.kind) = earlier ++ [amendment] := by
  constructor
  · rintro ⟨before, after, rfl, hafter⟩
    have hnone : after.filter (·.kind = amendment.kind) = [] := by simpa using hafter
    exact ⟨before.filter (·.kind = amendment.kind), by simp [hnone]⟩
  · rintro ⟨earlier, hfilter⟩
    obtain ⟨front, back, rfl, _, hback⟩ := List.filter_eq_append_iff.mp hfilter
    obtain ⟨skipped, after, rfl, _, _, hafter⟩ := List.filter_eq_cons_iff.mp hback
    exact ⟨front ++ skipped, after, by simp, by simpa using hafter⟩

/-- Rows that are reordered have the same last amendments. -/
theorem Reorders.isLast_iff (h : Reorders amendments others) :
    IsLast amendments amendment ↔ IsLast others amendment := by
  rw [isLast_iff_filter, isLast_iff_filter, h]

/-- Rows that are reordered lack the same kinds. -/
theorem Reorders.lacks_iff (h : Reorders amendments others) (kind : Kind) :
    (∀ amendment ∈ amendments, amendment.kind ≠ kind) ↔
      ∀ amendment ∈ others, amendment.kind ≠ kind := by
  have hnil (row : List Amendment) :
      (∀ amendment ∈ row, amendment.kind ≠ kind) ↔ row.filter (·.kind = kind) = [] := by
    simp
  rw [hnil, hnil, h]

end Amendment

namespace Statement

open Amendment

variable {statement other : Statement} {amendments : List Amendment} {amendment : Amendment}

/-- The statement says already what an amendment would have it say. -/
def Says (statement : Statement) : Amendment → Prop
  | .nonce value => statement.nonce = some value
  | .maxAge value => statement.maxAge = some value
  | .leeway value => statement.leeway = value
  | .organization value => statement.organization = some value

/-- One amendment sets its own part and leaves the others as they are. -/
theorem says_amend_iff {made : Amendment} : (statement.amend made).Says amendment ↔
    made = amendment ∨ made.kind ≠ amendment.kind ∧ statement.Says amendment := by
  cases made <;> cases amendment <;> simp [amend, Says, kind]

/-- After a row of amendments a statement says what the last one of a kind has set, or what it said
before when there was none. -/
theorem says_amendAll_iff : (statement.amendAll amendments).Says amendment ↔
    IsLast amendments amendment ∨
      statement.Says amendment ∧ ∀ made ∈ amendments, made.kind ≠ amendment.kind := by
  induction amendments generalizing statement with
  | nil => simp [amendAll, not_isLast_nil]
  | cons first rest ih =>
    -- to the rest of the row the first amendment is something that the statement said before
    have hstep : statement.amendAll (first :: rest) = (statement.amend first).amendAll rest := rfl
    rw [hstep, ih, isLast_cons, says_amend_iff, List.forall_mem_cons]
    tauto

/-- What cannot be amended stays as it is. -/
theorem amendAll_kept (statement : Statement) (amendments : List Amendment) :
    (statement.amendAll amendments).algorithm = statement.algorithm ∧
      (statement.amendAll amendments).issuer = statement.issuer ∧
      (statement.amendAll amendments).audience = statement.audience := by
  induction amendments generalizing statement with
  | nil => exact ⟨rfl, rfl, rfl⟩
  | cons first rest ih =>
    have hstep : statement.amendAll (first :: rest) = (statement.amend first).amendAll rest := rfl
    rw [hstep]
    obtain ⟨halgorithm, hissuer, haudience⟩ := ih (statement.amend first)
    cases first <;> exact ⟨halgorithm, hissuer, haudience⟩

/-- A statement is what it says. -/
theorem eq_of_says_iff (halgorithm : statement.algorithm = other.algorithm)
    (hissuer : statement.issuer = other.issuer) (haudience : statement.audience = other.audience)
    (h : ∀ amendment, statement.Says amendment ↔ other.Says amendment) : statement = other := by
  have hnonce : statement.nonce = other.nonce := Option.ext fun value => h (.nonce value)
  have hmaxAge : statement.maxAge = other.maxAge := Option.ext fun value => h (.maxAge value)
  have hleeway : statement.leeway = other.leeway := ((h (.leeway statement.leeway)).mp rfl).symm
  have horganization : statement.organization = other.organization :=
    Option.ext fun value => h (.organization value)
  cases statement
  cases other
  simp_all

/-- Rows that are reordered amend a statement alike. -/
theorem amendAll_of_reorders {others : List Amendment} (h : Reorders amendments others) :
    statement.amendAll others = statement.amendAll amendments := by
  obtain ⟨halgorithm, hissuer, haudience⟩ := statement.amendAll_kept amendments
  obtain ⟨halgorithm', hissuer', haudience'⟩ := statement.amendAll_kept others
  apply eq_of_says_iff
  · rw [halgorithm, halgorithm']
  · rw [hissuer, hissuer']
  · rw [haudience, haudience']
  · intro amendment
    rw [says_amendAll_iff, says_amendAll_iff, h.isLast_iff, h.lacks_iff]

/-- Before any amendment a statement says only how far clocks may differ. -/
theorem says_initial_iff {algorithm : Algorithm} {issuer audience : String} :
    Says { algorithm, issuer, audience } amendment ↔ amendment = .leeway (.ofSeconds 60) := by
  cases amendment with
  | leeway value => simp [Says, eq_comm]
  | nonce | maxAge | organization => simp [Says]

end Statement

namespace Requirements

open Amendment

/-- Requirements ask for what a statement says, but for texts that are blank. -/
structure Restates (requirements : Requirements) (statement : Statement) : Prop where
  /-- The algorithm is the one stated. -/
  algorithm : requirements.algorithm = statement.algorithm
  /-- The issuer is the one stated. -/
  issuer : requirements.issuer = statement.issuer
  /-- The audience is the one stated. -/
  audience : requirements.audience = statement.audience
  /-- The nonce is the one stated, if that is not blank. -/
  nonce : requirements.nonce = statement.nonce.bind nonBlank?
  /-- The greatest age is the one stated. -/
  maxAge : requirements.maxAge = statement.maxAge
  /-- The leeway is the one stated. -/
  leeway : requirements.leeway = statement.leeway
  /-- The organization is the one stated, if that is not blank. -/
  organization : requirements.organization = statement.organization.bind nonBlank?

/-- What building requirements comes to. -/
theorem build_cases (statement : Statement) :
    Blank statement.issuer ∧ statement.build = .error .blankIssuer ∨
    ¬ Blank statement.issuer ∧ Blank statement.audience ∧
      statement.build = .error .blankAudience ∨
    ¬ Blank statement.issuer ∧ ¬ Blank statement.audience ∧
      ∃ requirements, statement.build = .ok requirements ∧ requirements.Restates statement := by
  simp only [blank_iff]
  unfold Statement.build
  by_cases hissuer : isBlank statement.issuer = true
  · exact Or.inl ⟨hissuer, dif_pos hissuer⟩
  · by_cases haudience : isBlank statement.audience = true
    · refine Or.inr (Or.inl ⟨hissuer, haudience, ?_⟩)
      rw [dif_neg hissuer, dif_pos haudience]
    · refine Or.inr (Or.inr ⟨hissuer, haudience, ?_⟩)
      rw [dif_neg hissuer, dif_neg haudience]
      exact ⟨_, rfl, rfl, rfl, rfl, rfl, rfl, rfl, rfl⟩

/-- The requirements for an algorithm, an issuer and an audience, with amendments. -/
def stated (algorithm : Algorithm) (issuer audience : String) (amendments : List Amendment) :
    Except RequirementsError Requirements :=
  (Statement.amendAll { algorithm, issuer, audience } amendments).build

/-- Why there are no requirements, in words. A blank issuer is reported before a blank audience. -/
inductive Refusal (issuer audience : String) : String → Prop where
  /-- The issuer is blank. -/
  | issuer : Blank issuer → Refusal issuer audience "issuer is required and must not be blank"
  /-- Only the audience is blank. -/
  | audience : ¬ Blank issuer → Blank audience →
    Refusal issuer audience "audience is required and must not be blank"

/-- Requirements ask for what the last amendment of each kind sets, unless it is a blank text. -/
structure Reflects (requirements : Requirements) (algorithm : Algorithm)
    (issuer audience : String) (amendments : List Amendment) : Prop where
  /-- The algorithm is as given. -/
  algorithm : requirements.algorithm = algorithm
  /-- The issuer is as given. -/
  issuer : requirements.issuer = issuer
  /-- The audience is as given. -/
  audience : requirements.audience = audience
  /-- A nonce is required when the last one that was set is not blank. -/
  nonce : ∀ value, requirements.nonce = some value ↔
    IsLast amendments (.nonce value) ∧ ¬ Blank value
  /-- A greatest age is required when one was set, and is the last. -/
  maxAge : ∀ value, requirements.maxAge = some value ↔ IsLast amendments (.maxAge value)
  /-- The leeway is the last one that was set, and a minute when none was. -/
  leeway : ∀ value, requirements.leeway = value ↔ IsLast amendments (.leeway value) ∨
    value = .ofSeconds 60 ∧ ∀ amendment ∈ amendments, amendment.kind ≠ .leeway
  /-- An organization is required when the last one that was set is not blank. -/
  organization : ∀ value, requirements.organization = some value ↔
    IsLast amendments (.organization value) ∧ ¬ Blank value

variable {requirements : Requirements} {algorithm : Algorithm} {issuer audience : String}
  {amendments : List Amendment}

theorem bind_nonBlank?_eq_some_iff {text : Option String} {value : String} :
    text.bind nonBlank? = some value ↔ text = some value ∧ ¬ Blank value := by
  rw [Option.bind_eq_some_iff, not_blank_iff]
  simp only [nonBlank?_eq_some_iff]
  constructor
  · rintro ⟨found, hfound, hblank, rfl⟩
    exact ⟨hfound, hblank⟩
  · rintro ⟨hvalue, hblank⟩
    exact ⟨value, hvalue, hblank, rfl⟩

theorem Restates.reflects (h : requirements.Restates
    (Statement.amendAll { algorithm, issuer, audience } amendments)) :
    requirements.Reflects algorithm issuer audience amendments := by
  have hkept := Statement.amendAll_kept { algorithm, issuer, audience } amendments
  have hsaid (amendment : Amendment) :
      (Statement.amendAll { algorithm, issuer, audience } amendments).Says amendment ↔
        IsLast amendments amendment ∨ amendment = .leeway (.ofSeconds 60) ∧
          ∀ made ∈ amendments, made.kind ≠ amendment.kind := by
    rw [Statement.says_amendAll_iff, Statement.says_initial_iff]
  constructor
  case algorithm => exact h.algorithm.trans hkept.1
  case issuer => exact h.issuer.trans hkept.2.1
  case audience => exact h.audience.trans hkept.2.2
  case nonce =>
    intro value
    rw [h.nonce, bind_nonBlank?_eq_some_iff]
    exact and_congr_left' ((hsaid (.nonce value)).trans (by simp))
  case maxAge =>
    intro value
    rw [h.maxAge]
    exact (hsaid (.maxAge value)).trans (by simp)
  case leeway =>
    intro value
    rw [h.leeway]
    exact (hsaid (.leeway value)).trans (by simp [kind])
  case organization =>
    intro value
    rw [h.organization, bind_nonBlank?_eq_some_iff]
    exact and_congr_left' ((hsaid (.organization value)).trans (by simp))

/-- What stating requirements comes to. -/
theorem stated_cases (algorithm : Algorithm) (issuer audience : String)
    (amendments : List Amendment) :
    Blank issuer ∧ stated algorithm issuer audience amendments = .error .blankIssuer ∨
    ¬ Blank issuer ∧ Blank audience ∧
      stated algorithm issuer audience amendments = .error .blankAudience ∨
    ¬ Blank issuer ∧ ¬ Blank audience ∧ ∃ requirements,
      stated algorithm issuer audience amendments = .ok requirements ∧
      requirements.Reflects algorithm issuer audience amendments := by
  have hcases := build_cases (Statement.amendAll { algorithm, issuer, audience } amendments)
  obtain ⟨-, hissuer, haudience⟩ :=
    Statement.amendAll_kept { algorithm, issuer, audience } amendments
  rw [hissuer, haudience] at hcases
  rcases hcases with hrefused | hrefused | ⟨hnamed, hmeant, requirements, hbuilt, hrestates⟩
  · exact Or.inl hrefused
  · exact Or.inr (Or.inl hrefused)
  · exact Or.inr (Or.inr ⟨hnamed, hmeant, requirements, hbuilt, hrestates.reflects⟩)

theorem exists_stated_iff :
    (∃ requirements, stated algorithm issuer audience amendments = .ok requirements) ↔
      ¬ Blank issuer ∧ ¬ Blank audience := by
  rcases stated_cases algorithm issuer audience amendments with
    ⟨hissuer, hstated⟩ | ⟨_, haudience, hstated⟩ | ⟨hissuer, haudience, requirements, hstated, _⟩
  · simp [hstated, hissuer]
  · simp [hstated, haudience]
  · simp [hstated, hissuer, haudience]

theorem exists_error_iff_refusal {message : String} :
    (∃ error, stated algorithm issuer audience amendments = .error error ∧
      error.message = message) ↔ Refusal issuer audience message := by
  rcases stated_cases algorithm issuer audience amendments with
    ⟨hissuer, hstated⟩ | ⟨hissuer, haudience, hstated⟩ | ⟨hissuer, haudience, _, hstated, _⟩
  · rw [hstated]
    constructor
    · rintro ⟨_, ⟨⟩, rfl⟩
      exact .issuer hissuer
    · rintro (_ | ⟨hnamed, _⟩)
      · exact ⟨_, rfl, rfl⟩
      · exact absurd hissuer hnamed
  · rw [hstated]
    constructor
    · rintro ⟨_, ⟨⟩, rfl⟩
      exact .audience hissuer haudience
    · rintro (hblank | _)
      · exact absurd hblank hissuer
      · exact ⟨_, rfl, rfl⟩
  · rw [hstated]
    constructor
    · rintro ⟨_, ⟨⟩, _⟩
    · rintro (hblank | ⟨_, hblank⟩)
      · exact absurd hblank hissuer
      · exact absurd hblank haudience

theorem reflects_of_stated
    (h : stated algorithm issuer audience amendments = .ok requirements) :
    requirements.Reflects algorithm issuer audience amendments := by
  rcases stated_cases algorithm issuer audience amendments with
    ⟨_, hstated⟩ | ⟨_, _, hstated⟩ | ⟨_, _, found, hstated, hreflects⟩
  · cases hstated.symm.trans h
  · cases hstated.symm.trans h
  · obtain rfl := Except.ok.inj (hstated.symm.trans h)
    exact hreflects

/-- The order of amendments of different kinds does not matter. -/
theorem stated_of_reorders {others : List Amendment} (h : Reorders amendments others) :
    stated algorithm issuer audience others = stated algorithm issuer audience amendments :=
  congrArg Statement.build (Statement.amendAll_of_reorders h)

end Requirements

end RelyingParty
