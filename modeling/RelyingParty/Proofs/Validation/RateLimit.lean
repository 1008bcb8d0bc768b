import RelyingParty.Proofs.Cache.Soundness
import RelyingParty.Proofs.Validation.Inquiry

/-!
# Rate limits

How often keys are fetched from an issuer. However many tokens are validated, and whichever keys
they name, no fetch is started as long as the last one is younger than every lookup allows: as long
as entries are not taken away and no fetch fails, fetches from one issuer keep a distance. A fetch
asks for two documents at most, and nothing is asked for but by fetches.
-/

namespace RelyingParty

namespace Provider

/-- What a fetch may have asked for so far. -/
inductive Asks (issuer : String) : Answers → Prop where
  /-- Nothing. -/
  | nothing : Asks issuer []
  /-- The document in which the provider describes itself. -/
  | description (answer : Except RetrievalError String) :
    Asks issuer [(discoveryUrl issuer, answer)]
  /-- That document, and the one with the keys that it names. -/
  | keySet {answer : Except RetrievalError String} {url : Url}
    (named : keySetUrl (discoveryUrl issuer) answer = .ok url)
    (last : Except RetrievalError String) :
    Asks issuer [(discoveryUrl issuer, answer), (url.text, last)]

/-- A fetch asks for nothing else, however far it has come. -/
theorem asks_of_leads_fetch {issuer : String} {answers : Answers} {left : Job Fetched}
    (h : (fetch issuer).Leads answers left) : Asks issuer answers := by
  have ended {outcome : Except FetchError KeySet} {answers : Answers} {left : Job Fetched}
      (h : (concluded outcome).Leads answers left) : answers = [] := by
    cases h with
    | refl => rfl
    | record h => exact h.of_done.1
  cases h with
  | refl => exact .nothing
  | @request _ first _ _ _ rest h =>
    cases h with
    | refl => exact .description first
    | sleeping h =>
      simp only at h
      split at h
      · rw [ended h]
        exact .description first
      · next url hurl =>
        cases h with
        | refl => exact .description first
        | @request _ last _ _ _ rest h =>
          cases h with
          | refl => exact .keySet hurl last
          | sleeping h =>
            rw [ended h]
            exact .keySet hurl last

end Provider

/-- What an inquiry looks up: the keys of its issuer, in its cache and with one of its windows. -/
def Inquiry.Admits (inquiry : Inquiry) (cache issuer : String) (window : Duration)
    (job : Job Provider.Fetched) : Prop :=
  job = Provider.fetch issuer ∧
    match inquiry with
    | assert validator presentation =>
      cache = validator.cache ∧ issuer = presentation.requirements.issuer ∧
        (window = validator.settings.keySetMaxAge ∨
          window = validator.settings.keySetRefreshMaxAge)
    | keys own source length => cache = own ∧ issuer = source ∧ window = length

/-- Whoever asks makes no lookups but those of the inquiry. -/
theorem Inquiry.asks (inquiry : Inquiry) : inquiry.caller.Asks inquiry.Admits := by
  cases inquiry with
  | keys cache issuer window => exact ⟨⟨rfl, rfl, rfl, rfl⟩, fun _ _ => trivial⟩
  | assert validator presentation =>
    exact Validator.asks_assert ⟨rfl, rfl, rfl, Or.inl rfl⟩ ⟨rfl, rfl, rfl, Or.inr rfl⟩

/-- Every lookup of the inquiry in a cache allows some age. -/
def Inquiry.Tolerates (cache : String) (age : Duration) : Inquiry → Prop
  | assert validator _ => validator.cache = cache →
    age.total ≤ validator.settings.keySetMaxAge.total ∧
      age.total ≤ validator.settings.keySetRefreshMaxAge.total
  | keys other _ window => other = cache → age.total ≤ window.total

theorem Inquiry.Tolerates.window {inquiry : Inquiry} {cache issuer : String}
    {age window : Duration} {job : Job Provider.Fetched} (h : inquiry.Tolerates cache age)
    (admits : inquiry.Admits cache issuer window job) : age.total ≤ window.total := by
  cases inquiry with
  | keys other source length =>
    obtain ⟨_, rfl, _, rfl⟩ := admits
    exact h rfl
  | assert validator presentation =>
    obtain ⟨_, rfl, _, rfl | rfl⟩ := admits
    · exact (h rfl).1
    · exact (h rfl).2

/-- Whoever is started asks, and tolerates some age in a cache, and the entry of an issuer is not
taken away from outside. -/
def Event.Lenient (cache issuer : String) (age : Duration) :
    Event ValidationError KeySet Reply → Prop
  | .start caller => ∃ inquiry : Inquiry, caller = inquiry.caller ∧ inquiry.Tolerates cache age
  | .invalidate other key => ¬ (other = cache ∧ key = issuer)
  | .clear other => other ≠ cache
  | _ => True

variable {cache issuer : String} {age : Duration}

theorem Event.Lenient.orderly {event : Event ValidationError KeySet Reply}
    (h : event.Lenient cache issuer age) : event.Orderly := by
  rintro caller rfl
  obtain ⟨inquiry, rfl, _⟩ := h
  exact inquiry.orderly

namespace Pipeline

variable {ε α ρ : Type}

/-- Entries are taken away from outside by the events that do so. -/
theorem event_of_removal (pipeline : Pipeline ε α ρ) (events : List (Event ε α ρ))
    {record : Record} (member : record ∈ pipeline.history events) :
    (∀ cache key, record.happening = .invalidated cache key → .invalidate cache key ∈ events) ∧
      ∀ cache, record.happening = .cleared cache → .clear cache ∈ events := by
  induction events generalizing pipeline with
  | nil => exact absurd member List.not_mem_nil
  | cons event rest ih =>
    rcases List.mem_append.mp member with hfirst | hrest
    · cases event with
      | poll id =>
        obtain ⟨observation, _, rfl⟩ := List.mem_map.mp hfirst
        exact ⟨fun _ _ h => (by cases h), fun _ h => (by cases h)⟩
      | invalidate cache key =>
        obtain rfl := List.mem_singleton.mp hfirst
        refine ⟨fun other lost h => ?_, fun _ h => (by cases h)⟩
        obtain ⟨rfl, rfl⟩ := Happening.invalidated.inj h
        exact List.mem_cons_self
      | clear cache =>
        obtain rfl := List.mem_singleton.mp hfirst
        refine ⟨fun _ _ h => (by cases h), fun other h => ?_⟩
        obtain rfl := Happening.cleared.inj h
        exact List.mem_cons_self
      | start | drop | pass | publish | withdraw => exact absurd hfirst List.not_mem_nil
    · obtain ⟨hinvalidate, hclear⟩ := ih _ hrest
      exact ⟨fun cache key h => List.mem_cons_of_mem _ (hinvalidate cache key h),
        fun cache h => List.mem_cons_of_mem _ (hclear cache h)⟩

end Pipeline

/-- As long as a key keeps its entries and every lookup that starts a computation for it allows some
age, the starts lie further apart. -/
theorem History.Every.spaced {history before after : History} {record first : Record}
    {caller : Nat} {key : String} {window : Duration} {id next : Nat}
    (justified : history.Every Record.Justified)
    (ordered : history.Pairwise fun earlier later => earlier.clock ≤ later.clock)
    (h : history = before ++ record :: after)
    (last : record.happening = .observed caller (.lookedUp ⟨cache, key, window, next, true⟩))
    (allowed : age.total ≤ window.total) (started : first ∈ before)
    (starts : first.Starts cache key id)
    (kept : ∀ other ∈ before, ∀ id, ¬ other.Removes cache key id) :
    first.clock + age.total < record.clock := by
  rcases (justified.isNew_iff h ⟨caller, last⟩).mp rfl with hquiet | ⟨_, _, since, hlast, hlost⟩
  · exact absurd starts (hquiet first started id)
  · obtain ⟨earlier, start, heq, _, rfl, hsince⟩ := hlast
    have hstale : start.clock + window.total < record.clock := by
      rcases hlost with ⟨removal, hremoval, hremoves⟩ | hstale
      · have hmember : removal ∈ before := by
          rw [heq]
          exact List.mem_append_right _ (List.mem_cons_of_mem _ hremoval)
        exact absurd hremoves (kept removal hmember _)
      · exact hstale
    -- the first start is the last before this one, or lies before that
    have hclock : first.clock ≤ start.clock := by
      rw [heq] at started
      rw [h, heq, List.append_assoc, List.cons_append, List.pairwise_append] at ordered
      rcases List.mem_append.mp started with hearlier | hlater
      · exact ordered.2.2 first hearlier start List.mem_cons_self
      · rcases List.mem_cons.mp hlater with rfl | hmember
        · exact Nat.le_refl _
        · exact absurd starts (hsince first hmember id)
    omega

/-- Which requests a cache has caused, and how far its fetches from an issuer lie apart. -/
structure History.RateLimited (cache issuer : String) (age : Duration) (history : History)
    (caches : Caches ValidationError KeySet) : Prop where
  /-- The fetches start further apart than the age. -/
  spaced : ∀ (id other : Nat) (first last : Computation ValidationError KeySet), id < other →
    (caches.named cache).computations[id]? = some first →
    (caches.named cache).computations[other]? = some last →
    first.key = issuer → last.key = issuer → first.since + age.total < last.since
  /-- In an interval no longer than the age at most one fetch starts. -/
  single : ∀ start finish : Nat, finish ≤ start + age.total →
    ((caches.named cache).computations.filter fun computation =>
      computation.key = issuer ∧ start ≤ computation.since ∧ computation.since ≤ finish).length ≤ 1
  /-- Each fetch asks at most for the document in which the issuer describes itself, and for the one
  with the keys. -/
  requests : ∀ (id : Nat) (computation : Computation ValidationError KeySet),
    (caches.named cache).computations[id]? = some computation → computation.key = issuer →
    Provider.Asks issuer (history.askedBy cache id)
  /-- Whatever is asked for is asked for by a fetch. -/
  attributed : ∀ (before after : History) (record : Record) (caller : Nat) (url : String),
    history = before ++ record :: after → record.happening = .observed caller (.requested url) →
    ∃ lookup, before.awaited? caller = some lookup ∧
      caches.Belongs lookup.cache lookup.key lookup.id ∧
      (url, record.documents.retrieve url) ∈ history.askedBy lookup.cache lookup.id

namespace Chronicle

variable {chronicle : Chronicle ValidationError KeySet Reply}

/-- A lookup of one who asks and tolerates an age allows that age. -/
theorem Offers.window {started : List (KeyCaller Reply)} (tolerant : ∀ caller ∈ started,
    ∃ inquiry : Inquiry, caller = inquiry.caller ∧ inquiry.Tolerates cache age) {caller : Nat}
    {key : String} {window : Duration} {job : Job Provider.Fetched}
    (h : Offers started caller cache key window job) :
    job = Provider.fetch key ∧ age.total ≤ window.total := by
  obtain ⟨program, findings, next, hstarted, hleads⟩ := h
  obtain ⟨inquiry, rfl, htolerates⟩ := tolerant program (List.mem_of_getElem? hstarted)
  obtain ⟨hadmits, _⟩ := inquiry.asks.leads hleads
  exact ⟨hadmits.1, htolerates.window hadmits⟩

/-- While all lookups allow an age and the issuer keeps its entries, the starts of two fetches lie
further apart. -/
theorem Accounted.spaced (h : chronicle.Accounted) (booked : chronicle.Booked)
    (tolerant : ∀ caller ∈ chronicle.started,
      ∃ inquiry : Inquiry, caller = inquiry.caller ∧ inquiry.Tolerates cache age)
    (kept : ∀ record ∈ chronicle.history, ∀ id, ¬ record.Removes cache issuer id)
    {id other : Nat} {first last : Computation ValidationError KeySet} (less : id < other)
    (hfirst : (chronicle.pipeline.caches.named cache).computations[id]? = some first)
    (hlast : (chronicle.pipeline.caches.named cache).computations[other]? = some last)
    (firstKey : first.key = issuer) (lastKey : last.key = issuer) :
    first.since + age.total < last.since := by
  obtain ⟨origin, start, later, _, _, _, _, horigin, hstart, hsince, _⟩ :=
    h.traced cache id first hfirst
  obtain ⟨before, record, after, caller, window, given, _, heq, hrecord, hclock, hoffers, _⟩ :=
    h.traced cache other last hlast
  rw [firstKey] at hstart
  rw [lastKey] at hrecord hoffers
  have hstarts : start.Starts cache issuer id := ⟨_, _, hstart⟩
  have hmember : start ∈ before := by
    have hstarted : start ∈ before ++ record :: after := by
      rw [← heq, horigin]
      exact List.mem_append_right _ List.mem_cons_self
    rcases List.mem_append.mp hstarted with hbefore | hafter
    · exact hbefore
    · have hnext : record.Starts cache issuer other := ⟨caller, window, hrecord⟩
      rcases List.mem_cons.mp hafter with rfl | hafter
      · exact absurd (hstarts.unique hnext).2 (Nat.ne_of_lt less)
      · obtain ⟨middle, rest, rfl⟩ := List.append_of_mem hafter
        have hback := booked.justified.start_lt heq hnext hstarts
        omega
  have hkept : ∀ removal ∈ before, ∀ id, ¬ removal.Removes cache issuer id := by
    intro removal hremoval
    refine kept removal ?_
    rw [heq]
    exact List.mem_append_left _ hremoval
  have hspaced := booked.justified.spaced booked.ordered heq hrecord (hoffers.window tolerant).2
    hmember hstarts hkept
  omega

/-- When no fetch from an issuer fails and nothing is taken away from outside, the issuer keeps its
entries. -/
theorem Attended.keeps (h : chronicle.Attended) (booked : chronicle.Booked)
    (untouched : ∀ record ∈ chronicle.history, record.happening ≠ .invalidated cache issuer ∧
      record.happening ≠ .cleared cache)
    (succeeds : ∀ id fault, chronicle.pipeline.caches.Belongs cache issuer id →
      ¬ chronicle.pipeline.caches.Failed cache id fault) :
    ∀ record ∈ chronicle.history, ∀ id, ¬ record.Removes cache issuer id := by
  rintro record hrecord id (hinvalidated | hcleared | ⟨caller, hevicted⟩)
  · exact (untouched record hrecord).1 hinvalidated
  · exact (untouched record hrecord).2 hcleared
  · obtain ⟨computation, fault, hfound, hfailed⟩ := h.failed record hrecord caller _ _ _ hevicted
    obtain ⟨before, after, heq⟩ := List.append_of_mem hrecord
    have hattributed := h.attributed before record after heq
    simp only [Record.Attributed, hevicted] at hattributed
    obtain ⟨lookup, hawaited, rfl, rfl, rfl⟩ := hattributed
    have hmade : lookup ∈ chronicle.history.lookupsBy caller :=
      heq ▸ History.mem_lookupsBy_of_awaited? hawaited
    exact succeeds _ fault (h.belongs booked hmade) ⟨computation, hfound, hfailed⟩

/-- A request is one that the computation made which its caller had found. -/
theorem Attended.requested (h : chronicle.Attended) (booked : chronicle.Booked)
    {before after : History} {record : Record} {caller : Nat} {url : String}
    (heq : chronicle.history = before ++ record :: after)
    (happening : record.happening = .observed caller (.requested url)) :
    ∃ lookup, before.awaited? caller = some lookup ∧
      chronicle.pipeline.caches.Belongs lookup.cache lookup.key lookup.id ∧
      (url, record.documents.retrieve url) ∈
        chronicle.history.askedBy lookup.cache lookup.id := by
  have hattributed := h.attributed before record after heq
  simp only [Record.Attributed, happening] at hattributed
  obtain ⟨lookup, hawaited⟩ := hattributed
  have hmade : lookup ∈ chronicle.history.lookupsBy caller :=
    heq ▸ History.mem_lookupsBy_of_awaited? hawaited
  have hpolls : before.Polls caller lookup.cache lookup.id := ⟨lookup, hawaited, rfl, rfl⟩
  refine ⟨lookup, hawaited, h.belongs booked hmade, ?_⟩
  rw [heq, History.askedBy_append]
  refine List.mem_append_right _ (List.mem_append_left _ ?_)
  simp [Record.answerTo?, happening, hpolls, Record.asked?]

/-- Of a list in which no two members have a property together, at most one has it. -/
theorem length_filter_le_one {α : Type} {items : List α} {p : α → Bool}
    (apart : items.Pairwise fun first last => ¬ (p first = true ∧ p last = true)) :
    (items.filter p).length ≤ 1 := by
  have hapart := apart.filter p
  match hfiltered : items.filter p with
  | [] | [_] => simp
  | first :: last :: rest =>
    rw [hfiltered] at hapart
    have hfirst : first ∈ items.filter p := by simp [hfiltered]
    have hlast : last ∈ items.filter p := by simp [hfiltered]
    have hboth := (List.pairwise_cons.mp hapart).1 last List.mem_cons_self
    exact absurd ⟨(List.mem_filter.mp hfirst).2, (List.mem_filter.mp hlast).2⟩ hboth

/-- While all lookups allow an age and the issuer keeps its entries, its fetches are rate
limited. -/
theorem Attended.rateLimited_of_kept (h : chronicle.Attended) (booked : chronicle.Booked)
    (tolerant : ∀ caller ∈ chronicle.started,
      ∃ inquiry : Inquiry, caller = inquiry.caller ∧ inquiry.Tolerates cache age)
    (kept : ∀ record ∈ chronicle.history, ∀ id, ¬ record.Removes cache issuer id) :
    chronicle.history.RateLimited cache issuer age chronicle.pipeline.caches where
  spaced id other first last less hfirst hlast firstKey lastKey :=
    h.spaced booked tolerant kept less hfirst hlast firstKey lastKey
  single start finish length := by
    apply length_filter_le_one
    rw [List.pairwise_iff_getElem]
    intro id other hid hother less
    rintro ⟨hfirst, hlast⟩
    simp only [decide_eq_true_eq] at hfirst hlast
    have hspaced := h.spaced booked tolerant kept less (List.getElem?_eq_getElem hid)
      (List.getElem?_eq_getElem hother) hfirst.1 hlast.1
    omega
  requests id computation hfound hkey := by
    obtain ⟨caller, window, given, hoffers, hleads⟩ := h.credited.course cache id computation hfound
    obtain ⟨rfl, _⟩ := hoffers.window tolerant
    rw [hkey] at hleads
    exact Provider.asks_of_leads_fetch hleads
  attributed before after record caller url heq happening := h.requested booked heq happening

end Chronicle

/-- Whoever is started tolerates the age. -/
theorem Event.tolerant_started {events : List (Event ValidationError KeySet Reply)}
    (lenient : ∀ event ∈ events, event.Lenient cache issuer age) :
    ∀ caller ∈ Event.started events,
      ∃ inquiry : Inquiry, caller = inquiry.caller ∧ inquiry.Tolerates cache age := by
  intro caller hcaller
  obtain ⟨event, hevent, hstarts⟩ := List.mem_filterMap.mp hcaller
  cases event with
  | start other =>
    obtain rfl := Option.some.inj hstarts
    exact lenient _ hevent
  | _ => cases hstarts

/-- In every run in which all lookups allow some age, nothing is taken away from outside and no
fetch fails, fetches from an issuer are rate limited. -/
theorem Pipeline.rateLimited {documents : Documents}
    {events : List (Event ValidationError KeySet Reply)}
    (lenient : ∀ event ∈ events, event.Lenient cache issuer age)
    (succeeds : ∀ id fault, ((opened documents).run events).1.caches.Belongs cache issuer id →
      ¬ ((opened documents).run events).1.caches.Failed cache id fault) :
    History.RateLimited cache issuer age ((opened documents).history events)
      ((opened documents).run events).1.caches := by
  have hattended := Chronicle.attended_extend documents fun event h => (lenient event h).orderly
  have hbooked := Chronicle.booked_extend documents events
  simp only [Chronicle.extend, Chronicle.opened, List.nil_append] at hattended hbooked
  have htolerant := Event.tolerant_started lenient
  have huntouched : ∀ record ∈ (opened documents).history events,
      record.happening ≠ .invalidated cache issuer ∧ record.happening ≠ .cleared cache := by
    intro record hrecord
    obtain ⟨hinvalidate, hclear⟩ := event_of_removal _ events hrecord
    exact ⟨fun h => lenient _ (hinvalidate _ _ h) ⟨rfl, rfl⟩, fun h => lenient _ (hclear _ h) rfl⟩
  have hkept := hattended.keeps hbooked huntouched succeeds
  exact hattended.rateLimited_of_kept hbooked htolerant hkept

/-- Three validations while the issuer is slow to answer, the last of them after the window. -/
theorem Pipeline.rateLimited_slow :
    let issuer := "https://login.example"
    let age : Duration := .ofSeconds 5
    let inquiry : Inquiry := .assert ⟨.default, "keys"⟩
      { requirements := {
          algorithm := .rs256, issuer, audience := "c", nonce := none, maxAge := none
          leeway := .ofSeconds 60, organization := none
          issuer_nonBlank := by decide, audience_nonBlank := by decide
          nonce_nonBlank := by simp, organization_nonBlank := by simp }
        token := "a.b.c", secret := none, now := 0 }
    let slow : Document := ⟨.status 404, 1000000000000⟩
    let events : List (Event ValidationError KeySet Reply) :=
      [.publish (Provider.discoveryUrl issuer) slow, .start inquiry.caller, .start inquiry.caller,
        .start inquiry.caller, .poll 0, .poll 1, .drop 0, .pass 601000000000, .poll 2]
    let caches := ((opened []).run events).1.caches
    (caches.named "keys").computations.map Computation.since = [0, 601000000000] ∧
      History.RateLimited "keys" issuer age ((opened []).history events) caches := by
  intro issuer age inquiry slow events caches
  have lenient : ∀ event ∈ events, event.Lenient "keys" issuer age := by
    have htolerates : inquiry.Tolerates "keys" age := fun _ => by decide
    have hstart : Event.Lenient "keys" issuer age (.start inquiry.caller) :=
      ⟨inquiry, rfl, htolerates⟩
    simp only [events, List.forall_mem_cons, hstart]
    simp [Event.Lenient]
  have pending : ((caches.named "keys").computations.all fun computation =>
      computation.job.result?.isNone) = true := by
    decide +kernel
  have succeeds : ∀ id fault, caches.Belongs "keys" issuer id →
      ¬ caches.Failed "keys" id fault := by
    rintro id fault _ ⟨computation, hfound, hfailed⟩
    have hpending := List.all_eq_true.mp pending computation (List.mem_of_getElem? hfound)
    rw [hfailed] at hpending
    cases hpending
  exact ⟨by decide +kernel, rateLimited lenient succeeds⟩

end RelyingParty
