import RelyingParty.Validation
import RelyingParty.Proofs.Run.Attribution

/-!
# Inquiries

What is asked of validators and of caches of keys, and what comes of it. Whoever asks looks keys up
only to fetch them from the issuer that they are looked up for. How a token is judged follows from
what its lookups found, of which there are at most two: the second only after the first gave keys
among which the one for the token is not.
-/

namespace RelyingParty

open Text

/-- Something that is asked. -/
inductive Inquiry where
  /-- Whether a token is valid. -/
  | assert (validator : Validator) (presentation : Presentation)
  /-- Which keys an issuer has. -/
  | keys (cache issuer : String) (window : Duration)

/-- What comes of an inquiry. -/
inductive Reply where
  /-- What a validation comes to. -/
  | validated (result : Validated)
  /-- The keys that a computation of a cache has found. -/
  | keys (cache : String) (id : Nat) (result : Provider.Fetched)

/-- The token that is accepted, if one is. -/
def Reply.token? : Reply → Option Token
  | validated (.ok token) => some token
  | _ => none

theorem Reply.eq_validated {reply : Reply} {token : Token} (h : reply.token? = some token) :
    reply = .validated (.ok token) := by
  cases reply with
  | keys => cases h
  | validated result =>
    cases result with
    | error => cases h
    | ok other =>
      obtain rfl := Option.some.inj h
      rfl

/-- What fails is a failure whatever would be made of its value. -/
theorem eq_error_of_map {ε α β : Type} {result : Except ε α} {change : α → β} {fault : ε}
    (h : result.map change = .error fault) : result = .error fault := by
  cases result with
  | error other => exact congrArg Except.error (Except.error.inj h)
  | ok _ => cases h

/-- One who asks. -/
def Inquiry.caller : Inquiry → KeyCaller Reply
  | assert validator presentation => validator.assert presentation .validated
  | keys cache issuer window =>
    .lookup cache issuer window (Provider.fetch issuer) fun id found => .done (.keys cache id found)

/-- Nobody is started but those who ask. -/
def Event.Inquires (event : Event ValidationError KeySet Reply) : Prop :=
  ∀ caller, event = .start caller → ∃ inquiry : Inquiry, caller = inquiry.caller

namespace Caller

variable {ε α ρ : Type}

/-- All lookups of a caller, whatever they find, give an admissible job for their key. -/
def Only (admits : String → Job (Except ε α) → Prop) : Caller ε α ρ → Prop
  | .done _ => True
  | .record _ next => next.Only admits
  | .lookup _ key _ job next => admits key job ∧ ∀ id result, (next id result).Only admits
  | .awaiting _ _ _ next => ∀ id result, (next id result).Only admits

/-- What is left of such a caller is such a caller. -/
theorem Only.leads {admits : String → Job (Except ε α) → Prop} {caller left : Caller ε α ρ}
    {findings : Findings ε α} (h : caller.Only admits) (leads : caller.Leads findings left) :
    left.Only admits := by
  induction leads with
  | refl => exact h
  | record _ ih => exact ih h
  | lookup _ ih => exact ih (h.2 _ _)
  | resume _ ih => exact ih (h _ _)

/-- Nothing comes after the end. -/
theorem Leads.of_done {result : ρ} {left : Caller ε α ρ} {findings : Findings ε α}
    (h : (done result : Caller ε α ρ).Leads findings left) :
    findings = [] ∧ left = .done result := by
  cases h
  exact ⟨rfl, rfl⟩

end Caller

namespace Validator

/-- Keys are looked up only to be fetched from the issuer. -/
theorem only_lookUp {ρ : Type} (cache : String) (presentation : Presentation)
    (next : Validated → KeyCaller ρ) (retry : Retry) (window : Duration)
    (hnext : ∀ result, (next result).Only fun issuer job => job = Provider.fetch issuer) :
    (lookUp cache presentation next retry window).Only fun issuer job =>
      job = Provider.fetch issuer := by
  rw [lookUp]
  refine ⟨rfl, fun id found => ?_⟩
  cases found with
  | error error => exact hnext _
  | ok keys =>
    simp only
    split
    · split
      · next again hagain => exact only_lookUp cache presentation next again again.window hnext
      · exact hnext _
    · exact hnext _
termination_by retry.left
decreasing_by exact Retry.left_lt_of_afterMiss? ‹_›

end Validator

/-- A lookup of a key in a cache, which allows an age. -/
def Lookup.Seeks (lookup : Lookup) (cache key : String) (window : Duration) : Prop :=
  lookup.cache = cache ∧ lookup.key = key ∧ lookup.window = window

/-- The window of a second lookup is fixed from the beginning. -/
theorem Retry.window_of_afterMiss? {retry again : Retry} (h : retry.afterMiss? = some again) :
    again.window = retry.window := by
  unfold afterMiss? at h
  split at h
  · cases h
  · rw [← Option.some.inj h]

namespace Validator

/-- How a token is judged with what a lookup of keys has found. -/
def verdict (presentation : Presentation) (found : Provider.Fetched) : Validated := do
  asymmetric presentation (← found)

/-- The first keys that were found settle how a token is judged, or there is no other lookup. -/
def Settles (presentation : Presentation) (found : Provider.Fetched) : Prop :=
  ∀ keys kid, found = .ok keys → asymmetric presentation keys ≠ .error (.keyNotFound kid)

/-- How a token is judged after what its lookups have found. -/
inductive Judges (validator : Validator) (presentation : Presentation) :
    Findings ValidationError KeySet → Validated → Prop where
  /-- There is no token. -/
  | missing (blank : isBlank presentation.token = true) :
    Judges validator presentation [] (.error missingToken)
  /-- The client secret decides. -/
  | symmetric (given : isBlank presentation.token = false)
    (algorithm : presentation.requirements.algorithm = .hs256) :
    Judges validator presentation [] (Validator.symmetric presentation)
  /-- The keys that were found decide. -/
  | once (given : isBlank presentation.token = false)
    (algorithm : presentation.requirements.algorithm = .rs256) {lookup : Lookup}
    {found : Provider.Fetched}
    (seeks : lookup.Seeks validator.cache presentation.requirements.issuer
      validator.settings.keySetMaxAge)
    (settles : Settles presentation found) :
    Judges validator presentation [(lookup, found)] (verdict presentation found)
  /-- The key for the token is not among those that were found first, and the others decide. -/
  | twice (given : isBlank presentation.token = false)
    (algorithm : presentation.requirements.algorithm = .rs256) {first last : Lookup}
    {keys : KeySet} {found : Provider.Fetched} {kid : Option String}
    (seeks : first.Seeks validator.cache presentation.requirements.issuer
      validator.settings.keySetMaxAge)
    (lacks : asymmetric presentation keys = .error (.keyNotFound kid))
    (seeksAgain : last.Seeks validator.cache presentation.requirements.issuer
      validator.settings.keySetRefreshMaxAge) :
    Judges validator presentation [(first, .ok keys), (last, found)] (verdict presentation found)

variable {ρ : Type}

/-- Keys are looked up, and then once more, or the token is judged with what was found. -/
theorem exists_lookUp_eq (cache : String) (presentation : Presentation)
    (next : Validated → KeyCaller ρ) (retry : Retry) (window : Duration) :
    ∃ after : Provider.Fetched → KeyCaller ρ,
      lookUp cache presentation next retry window =
        .lookup cache presentation.requirements.issuer window
          (Provider.fetch presentation.requirements.issuer) (fun _ found => after found) ∧
      ∀ found,
        (∃ keys kid again, found = .ok keys ∧
          asymmetric presentation keys = .error (.keyNotFound kid) ∧
          retry.afterMiss? = some again ∧
          after found = lookUp cache presentation next again again.window) ∨
        ((retry.afterMiss? = none ∨ Settles presentation found) ∧
          after found = next (verdict presentation found)) := by
  rw [lookUp]
  refine ⟨_, rfl, fun found => ?_⟩
  cases found with
  | error error => exact Or.inr ⟨Or.inr fun _ _ h => (by cases h), rfl⟩
  | ok keys =>
    simp only
    split
    · next kid hlacks =>
      split
      · next again hagain => exact Or.inl ⟨keys, kid, again, rfl, hlacks, hagain, rfl⟩
      · next hnone =>
        have hverdict : verdict presentation (.ok keys) = .error (.keyNotFound kid) := hlacks
        rw [hverdict]
        exact Or.inr ⟨Or.inl hnone, rfl⟩
    · next result hsettles =>
      refine Or.inr ⟨Or.inr ?_, rfl⟩
      intro other kid heq hlacks
      cases heq
      exact hsettles kid hlacks

/-- A token is validated with lookups of the keys of its issuer alone. -/
theorem asks_lookUp {admits : String → String → Duration → Job Provider.Fetched → Prop}
    {cache : String} {presentation : Presentation} {next : Validated → KeyCaller ρ}
    {retry : Retry} {window : Duration}
    (hfirst : admits cache presentation.requirements.issuer window
      (Provider.fetch presentation.requirements.issuer))
    (hagain : admits cache presentation.requirements.issuer retry.window
      (Provider.fetch presentation.requirements.issuer))
    (hnext : ∀ result, (next result).Asks admits) :
    (lookUp cache presentation next retry window).Asks admits := by
  obtain ⟨after, heq, hafter⟩ := exists_lookUp_eq cache presentation next retry window
  rw [heq]
  refine ⟨hfirst, fun id found => ?_⟩
  rcases hafter found with ⟨_, _, again, _, _, hretry, hmore⟩ | ⟨_, hlast⟩
  · rw [← Retry.window_of_afterMiss? hretry] at hagain
    simp only [hmore]
    exact asks_lookUp hagain hagain hnext
  · simp only [hlast]
    exact hnext _
termination_by retry.left
decreasing_by exact Retry.left_lt_of_afterMiss? ‹_›

theorem asks_assert {admits : String → String → Duration → Job Provider.Fetched → Prop}
    {validator : Validator} {presentation : Presentation} {next : Validated → ρ}
    (hfirst : admits validator.cache presentation.requirements.issuer
      validator.settings.keySetMaxAge (Provider.fetch presentation.requirements.issuer))
    (hagain : admits validator.cache presentation.requirements.issuer
      validator.settings.keySetRefreshMaxAge
      (Provider.fetch presentation.requirements.issuer)) :
    (validator.assert presentation next).Asks admits := by
  unfold assert verify
  split
  · trivial
  · split
    · trivial
    · exact asks_lookUp hfirst hagain fun _ => trivial

/-- A validation waits for nothing but what it has looked up. -/
theorem orderly_assert (validator : Validator) (presentation : Presentation)
    (next : Validated → ρ) : (validator.assert presentation next).Orderly :=
  asks_assert trivial trivial

/-- A lookup of keys is the last, unless the key for the token is not among them and there may be
another. -/
theorem leads_lookUp {cache : String} {presentation : Presentation} {next : Validated → KeyCaller ρ}
    {retry : Retry} {window : Duration} {findings : Findings ValidationError KeySet} {reply : ρ}
    (h : (lookUp cache presentation next retry window).Leads findings (.done reply)) :
    ∃ lookup found rest, findings = (lookup, found) :: rest ∧
      lookup.Seeks cache presentation.requirements.issuer window ∧
      ((∃ keys kid again, found = .ok keys ∧
          asymmetric presentation keys = .error (.keyNotFound kid) ∧
          retry.afterMiss? = some again ∧
          (lookUp cache presentation next again again.window).Leads rest (.done reply)) ∨
        ((retry.afterMiss? = none ∨ Settles presentation found) ∧
          (next (verdict presentation found)).Leads rest (.done reply))) := by
  obtain ⟨after, heq, hafter⟩ := exists_lookUp_eq cache presentation next retry window
  rw [heq] at h
  cases h with
  | @lookup _ _ _ _ id isNew found _ _ rest hrest =>
    refine ⟨_, found, rest, rfl, ⟨rfl, rfl, rfl⟩, ?_⟩
    rcases hafter found with ⟨keys, kid, again, hkeys, hlacks, hagain, hnext⟩ | ⟨hlast, hnext⟩
    · simp only [hnext] at hrest
      exact Or.inl ⟨keys, kid, again, hkeys, hlacks, hagain, hrest⟩
    · simp only [hnext] at hrest
      exact Or.inr ⟨hlast, hrest⟩

/-- A validation that is over has judged the token after what its lookups have found. -/
theorem judges_of_leads {validator : Validator} {presentation : Presentation}
    {next : Validated → ρ} {findings : Findings ValidationError KeySet} {reply : ρ}
    (h : (validator.assert presentation next).Leads findings (.done reply)) :
    ∃ result, reply = next result ∧ validator.Judges presentation findings result := by
  have counted {result : Validated} {findings : Findings ValidationError KeySet}
      (h : (Caller.record .duration <|
        .record (.validation presentation.requirements.algorithm (status result)) <|
          (.done (next result) : KeyCaller ρ)).Leads findings (.done reply)) :
      findings = [] ∧ reply = next result := by
    cases h with
    | record h =>
      cases h with
      | record h =>
        obtain ⟨hfindings, hreply⟩ := h.of_done
        exact ⟨hfindings, Caller.done.inj hreply⟩
  unfold assert verify at h
  split at h
  · next blank =>
    obtain ⟨rfl, hreply⟩ := counted h
    exact ⟨_, hreply, .missing blank⟩
  · next given =>
    have given : isBlank presentation.token = false := by simpa using given
    split at h
    · next algorithm =>
      obtain ⟨rfl, hreply⟩ := counted h
      exact ⟨_, hreply, .symmetric given algorithm⟩
    · next algorithm =>
      obtain ⟨first, found, rest, rfl, hseeks, hrest⟩ := leads_lookUp h
      rcases hrest with ⟨keys, kid, again, rfl, hlacks, hagain, hleads⟩ | ⟨hlast, hleads⟩
      · obtain rfl := Option.some.inj hagain
        obtain ⟨last, found, rest, rfl, hseeksAgain, hrest⟩ := leads_lookUp hleads
        rcases hrest with ⟨_, _, again, _, _, hagain, _⟩ | ⟨_, hleads⟩
        · cases hagain
        · obtain ⟨rfl, hreply⟩ := counted hleads
          exact ⟨_, hreply, .twice given algorithm hseeks hlacks hseeksAgain⟩
      · obtain ⟨rfl, hreply⟩ := counted hleads
        rcases hlast with hnone | hsettles
        · cases hnone
        · exact ⟨_, hreply, .once given algorithm hseeks hsettles⟩

end Validator

/-- Whoever asks looks keys up only to fetch them from the issuer. -/
theorem Inquiry.only (inquiry : Inquiry) :
    inquiry.caller.Only fun issuer job => job = Provider.fetch issuer := by
  cases inquiry with
  | keys cache issuer window => exact ⟨rfl, fun _ _ => trivial⟩
  | assert validator presentation =>
    simp only [caller, Validator.assert, Validator.verify]
    split
    · trivial
    · split
      · trivial
      · exact Validator.only_lookUp _ _ _ _ _ fun _ => trivial

/-- Whoever asks waits for nothing but what it has looked up. -/
theorem Inquiry.orderly (inquiry : Inquiry) : inquiry.caller.Orderly := by
  cases inquiry with
  | keys cache issuer window => exact ⟨trivial, fun _ _ => trivial⟩
  | assert validator presentation => exact validator.orderly_assert presentation _

theorem Event.Inquires.orderly {event : Event ValidationError KeySet Reply} (h : event.Inquires) :
    event.Orderly := by
  rintro caller rfl
  obtain ⟨inquiry, rfl⟩ := h caller rfl
  exact inquiry.orderly

/-- When nobody is started but those who ask, every job that is given for a key fetches from that
issuer. -/
theorem Chronicle.Offers.eq_fetch {started : List (KeyCaller Reply)}
    (asking : ∀ caller ∈ started, ∃ inquiry : Inquiry, caller = inquiry.caller) {caller : Nat}
    {cache issuer : String} {window : Duration} {job : Job Provider.Fetched}
    (h : Chronicle.Offers started caller cache issuer window job) :
    job = Provider.fetch issuer := by
  obtain ⟨program, findings, next, hstarted, hleads⟩ := h
  obtain ⟨inquiry, rfl⟩ := asking program (List.mem_of_getElem? hstarted)
  exact (inquiry.only.leads hleads).1

/-- Those who are started are those who ask. -/
theorem Event.asking_started {events : List (Event ValidationError KeySet Reply)}
    (inquires : ∀ event ∈ events, event.Inquires) :
    ∀ caller ∈ Event.started events, ∃ inquiry : Inquiry, caller = inquiry.caller := by
  intro caller hcaller
  obtain ⟨event, hevent, hstarts⟩ := List.mem_filterMap.mp hcaller
  cases event with
  | start other =>
    obtain rfl := Option.some.inj hstarts
    exact inquires _ hevent other rfl
  | _ => cases hstarts

/-- What a caller got for a lookup is what a fetch came to, which was started for the cache and the
issuer of the lookup and no longer ago than the lookup allows. -/
theorem Chronicle.Accounted.fetched {chronicle : Chronicle ValidationError KeySet Reply}
    (accounted : chronicle.Accounted) (booked : chronicle.Booked)
    (asking : ∀ caller ∈ chronicle.started, ∃ inquiry : Inquiry, caller = inquiry.caller)
    {caller : Nat} {findings : Findings ValidationError KeySet}
    (made : chronicle.history.lookupsBy caller = findings.map Prod.fst)
    (gave : chronicle.pipeline.caches.Gave findings) {lookup : Lookup} {found : Provider.Fetched}
    (member : (lookup, found) ∈ findings) :
    ∃ used ∈ chronicle.history, used.happening = .observed caller (.lookedUp lookup) ∧
      ∃ before start after answers, chronicle.history = before ++ start :: after ∧
        start.Starts lookup.cache lookup.key lookup.id ∧ start.clock ≤ used.clock ∧
        used.clock ≤ start.clock + lookup.window.total ∧
        (Provider.fetch lookup.key).Leads answers (.done found) ∧
        answers.Sublist (History.asked after) := by
  have hlookup : lookup ∈ chronicle.history.lookupsBy caller := by
    rw [made]
    exact List.mem_map.mpr ⟨_, member, rfl⟩
  obtain ⟨used, hused, hhappening⟩ := History.exists_of_mem_lookupsBy hlookup
  obtain ⟨before, start, after, starter, window, given, job, answers, heq, hstart, hclock, hyoung,
    hoffers, hbuilt, hleads, hasked⟩ := accounted.built booked hused ⟨caller, hhappening⟩
  obtain ⟨computation, hfound, hdone⟩ := gave lookup found member
  obtain rfl := Option.some.inj (hfound.symm.trans hbuilt)
  obtain rfl : job = .done found := hdone
  obtain rfl := hoffers.eq_fetch asking
  exact ⟨used, hused, hhappening, before, start, after, answers, heq, ⟨starter, window, hstart⟩,
    hclock, hyoung, hleads, hasked⟩

end RelyingParty
