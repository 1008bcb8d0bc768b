import RelyingParty.Proofs.Cache.Eviction
import RelyingParty.Proofs.Run.Handover
import RelyingParty.Proofs.Validation.Acceptance

/-!
# Outages

What keys that were fetched are worth while their issuer cannot be reached. As long as no other
fetch has been started for the issuer they decide on every token that names one of them, until they
are too old. A fetch takes their place when it starts, not when it succeeds: from then on a token is
judged with what has been fetched since, and rejected when there is nothing.
-/

namespace RelyingParty

open Text

variable {ε α ρ : Type}

/-- A computation that has come to a result keeps it in every run. -/
theorem Pipeline.CameTo.run {pipeline : Pipeline ε α ρ} {name : String} {id : Nat}
    {result : Except ε α} (h : pipeline.CameTo name id result) (events : List (Event ε α ρ)) :
    (pipeline.run events).1.CameTo name id result := by
  let chronicle : Chronicle ε α ρ := ⟨pipeline, [], []⟩
  have hmoves : Chronicle.Moves (fun _ => True) chronicle (chronicle.extend events) :=
    chronicle.moves_extend events fun _ _ => trivial
  change (chronicle.extend events).pipeline.CameTo name id result
  generalize chronicle.extend events = last at hmoves ⊢
  induction hmoves with
  | refl => exact h
  | tail _ hmove ih =>
    obtain ⟨computation, hfound, hdone⟩ := ih
    obtain ⟨_, _, hgoOn, _⟩ := hmove.progress
    obtain ⟨next, _, hnext, hgoesOn, _⟩ := hgoOn name id computation hfound
    have hleads := hgoesOn.leads
    rw [hdone] at hleads
    exact ⟨next, hnext, hleads.of_done.2⟩

namespace History

/-- A caller makes its first lookup with a record, after some others. -/
structure FirstLookup (history : History) (caller : Nat) (before : History) (used : Record)
    (after : History) : Prop where
  /-- It is there. -/
  split : history = before ++ used :: after
  /-- The caller has looked nothing up before. -/
  first : before.lookupsBy caller = []
  /-- It looks something up. -/
  looksUp : ∃ lookup, used.happening = .observed caller (.lookedUp lookup)

/-- Nothing takes the place of the entry of a key: no computation is started for it, and it is not
taken away from outside. -/
def Spares (history : History) (cache key : String) : Prop :=
  ∀ record ∈ history, (∀ id, ¬ record.Starts cache key id) ∧
    record.happening ≠ .invalidated cache key ∧ record.happening ≠ .cleared cache

/-- Keys of an issuer were to be had: the document in which it describes itself was asked for, and
then the one with the keys, and both came. -/
def Published (history : History) (issuer : String) (keys : KeySet) : Prop :=
  ∃ description url document,
    List.Sublist [(Provider.discoveryUrl issuer, .ok description), (url.text, .ok document)]
      history.asked ∧
    Provider.keySetUrl (Provider.discoveryUrl issuer) (.ok description) = .ok url ∧
    Provider.keySet issuer url.text (.ok document) = .ok keys

variable {history before after : History} {record : Record} {cache key : String} {id : Nat}
  {caller : Nat} {lookup : Lookup}

theorem mem_lookupsBy (member : record ∈ history)
    (happening : record.happening = .observed caller (.lookedUp lookup)) :
    lookup ∈ history.lookupsBy caller :=
  List.mem_filterMap.mpr ⟨record, member, by simp [Record.lookupBy?, happening]⟩

/-- A computation that was started no earlier than another was started with that one or after it. -/
theorem Every.suffix_of_le (justified : history.Every Record.Justified) {first last : Record}
    {before' after' : History} {other : String} {next : Nat}
    (h : history = before ++ first :: after) (hfirst : first.Starts cache key id)
    (h' : history = before' ++ last :: after') (hlast : last.Starts cache other next)
    (le : id ≤ next) : after' <:+ after := by
  rcases List.append_eq_append_iff.mp (h.symm.trans h') with ⟨rest, rfl, hrest⟩ | ⟨rest, rfl, hrest⟩
  · cases rest with
    | nil =>
      obtain ⟨_, rfl⟩ := List.cons.inj hrest
      exact List.suffix_refl _
    | cons record middle =>
      obtain ⟨_, rfl⟩ := List.cons.inj hrest
      exact ⟨middle ++ [last], by simp⟩
  · cases rest with
    | nil =>
      obtain ⟨_, rfl⟩ := List.cons.inj hrest
      exact List.suffix_refl _
    | cons record middle =>
      obtain ⟨rfl, rfl⟩ := List.cons.inj hrest
      have hback := justified.start_lt h' hlast hfirst
      omega

end History

namespace Provider

/-- What a fetch comes to: keys that were to be had, or that there were none. -/
theorem published_of_leads {issuer : String} {answers : Answers} {found : Fetched}
    {history : History} (leads : (fetch issuer).Leads answers (.done found))
    (asked : answers.Sublist history.asked) :
    (∃ keys, found = .ok keys ∧ history.Published issuer keys) ∨
      ∃ message, found = .error (.keyRetrieval message) := by
  cases found with
  | ok keys =>
    obtain ⟨description, url, document, rfl, hurl, hkeys⟩ := leads_fetch_ok leads
    exact Or.inl ⟨keys, rfl, description, url, document, asked, hurl, hkeys⟩
  | error fault =>
    have hfailed (outcome : Except FetchError KeySet) (h : .error fault = fetched outcome) :
        ∃ message, .error fault = (.error (.keyRetrieval message) : Fetched) := by
      cases outcome with
      | ok keys => cases h
      | error error => exact ⟨error.message, h⟩
    rcases leads_fetch leads with ⟨_, error, _, _, h⟩ | ⟨_, url, last, _, _, h⟩
    · exact Or.inr (hfailed _ h)
    · exact Or.inr (hfailed _ h)

end Provider

namespace Validator

variable {validator : Validator} {presentation : Presentation} {keys : KeySet}
  {findings : Findings ValidationError KeySet} {result : Validated}

/-- When keys are looked up, the last that was found decides. -/
theorem Judges.last (h : validator.Judges presentation findings result)
    (given : isBlank presentation.token = false)
    (algorithm : presentation.requirements.algorithm = .rs256) :
    ∃ lookup found, (lookup, found) ∈ findings ∧
      lookup.cache = validator.cache ∧ lookup.key = presentation.requirements.issuer ∧
      result = verdict presentation found := by
  cases h with
  | missing blank => cases given.symm.trans blank
  | symmetric _ other => cases algorithm.symm.trans other
  | once _ _ seeks => exact ⟨_, _, List.mem_cons_self, seeks.1, seeks.2.1, rfl⟩
  | twice _ _ _ _ seeks =>
    exact ⟨_, _, List.mem_cons_of_mem _ List.mem_cons_self, seeks.1, seeks.2.1, rfl⟩

/-- Keys that are found first decide on a token that names one of them. -/
theorem Judges.of_first (h : validator.Judges presentation findings result)
    (given : isBlank presentation.token = false)
    (algorithm : presentation.requirements.algorithm = .rs256) :
    ∃ lookup found rest, findings = (lookup, found) :: rest ∧
      lookup.Seeks validator.cache presentation.requirements.issuer
        validator.settings.keySetMaxAge ∧
      ∀ keys, found = .ok keys →
        (∀ kid, asymmetric presentation keys ≠ .error (.keyNotFound kid)) →
        result = asymmetric presentation keys := by
  cases h with
  | missing blank => cases given.symm.trans blank
  | symmetric _ other => cases algorithm.symm.trans other
  | @once _ _ lookup found seeks settles =>
    refine ⟨lookup, found, [], rfl, seeks, ?_⟩
    rintro keys rfl _
    rfl
  | @twice _ _ first last other found kid seeks lacks seeksAgain =>
    refine ⟨first, .ok other, _, rfl, seeks, ?_⟩
    rintro keys hkeys names
    obtain rfl := Except.ok.inj hkeys
    exact absurd lacks (names kid)

/-- What a validation relies on that begins after keys have been cached for the issuer, when these
were asked for at some moment and the token names one of them. -/
structure Relies (validator : Validator) (presentation : Presentation) (keys : KeySet)
    (moment : Nat) (history : History) (caller : Nat) (result : Validated) : Prop where
  /-- As long as nothing has taken their place and they are young enough, the keys decide. -/
  kept : ∀ before used after, history.FirstLookup caller before used after →
    before.Spares validator.cache presentation.requirements.issuer →
    used.clock ≤ moment + validator.settings.keySetMaxAge.total →
    result = asymmetric presentation keys
  /-- When another fetch has been started, keys decide that were to be had since, or there are
  none. -/
  replaced : ∀ since refresh middle used after id,
    history.FirstLookup caller (since ++ refresh :: middle) used after →
    refresh.Starts validator.cache presentation.requirements.issuer id →
    (∃ others, History.Published (middle ++ used :: after) presentation.requirements.issuer others ∧
        result = asymmetric presentation others) ∨
      ∃ message, result = .error (.keyRetrieval message)
  /-- When another fetch has been started and no keys were to be had since, the token is
  rejected. -/
  unavailable : ∀ since refresh middle used after id,
    history.FirstLookup caller (since ++ refresh :: middle) used after →
    refresh.Starts validator.cache presentation.requirements.issuer id →
    (∀ others, ¬ History.Published (middle ++ used :: after) presentation.requirements.issuer
      others) →
    ∃ message, result = .error (.keyRetrieval message)

end Validator

namespace Chronicle

/-- An entry that nothing takes the place of stays with its computation, when that does not fail. -/
theorem Attended.holder?_of_spares {chronicle : Chronicle ε α ρ} (h : chronicle.Attended)
    (booked : chronicle.Booked) {before since after : History} {cache key : String} {id : Nat}
    (heq : chronicle.history = before ++ since ++ after)
    (held : before.holder? cache key = some id) (spares : since.Spares cache key)
    (safe : ∀ fault, ¬ chronicle.pipeline.caches.Failed cache id fault) :
    History.holder? (before ++ since) cache key = some id := by
  by_contra hlost
  obtain ⟨earlier, record, rest, entry, rfl, hheld, hbecomes, hentry⟩ :=
    History.exists_loss held hlost
  have hsplit : chronicle.history = (before ++ earlier) ++ record :: (rest ++ after) := by
    simp [heq]
  obtain ⟨hquiet, hinvalidated, hcleared⟩ :=
    spares record (List.mem_append_right _ List.mem_cons_self)
  cases h.ends booked hsplit hheld hbecomes hentry with
  | invalidated happening => exact hinvalidated happening
  | cleared happening => exact hcleared happening
  | @replaced caller other window _ happening => exact hquiet other ⟨caller, window, happening⟩
  | evicted _ _ _ failed => exact safe _ failed

section Validations

variable {chronicle : Chronicle ValidationError KeySet Reply}
  {events : List (Event ValidationError KeySet Reply)} {validator : Validator}
  {presentation : Presentation} {id caller : Nat}
  {computation : Computation ValidationError KeySet} {keys : KeySet}
  {findings : Findings ValidationError KeySet} {result : Validated}

/-- A validation that begins after keys were cached, while nothing takes their place, is decided by
them. -/
theorem Attended.kept (h : (chronicle.extend events).Attended)
    (booked : (chronicle.extend events).Booked) (before : chronicle.Booked)
    (held : (chronicle.pipeline.caches.named validator.cache).entries.find?
      presentation.requirements.issuer = some id)
    (there : (chronicle.pipeline.caches.named validator.cache).computations[id]? = some computation)
    (done : computation.job = .done (.ok keys))
    (names : ∀ kid, Validator.asymmetric presentation keys ≠ .error (.keyNotFound kid))
    (unasked : chronicle.history.lookupsBy caller = [])
    (made : (chronicle.extend events).history.lookupsBy caller = findings.map Prod.fst)
    (gave : (chronicle.extend events).pipeline.caches.Gave findings)
    (judges : validator.Judges presentation findings result)
    (given : isBlank presentation.token = false)
    (algorithm : presentation.requirements.algorithm = .rs256) {since after : History}
    {used : Record}
    (first : (chronicle.pipeline.history events).FirstLookup caller since used after)
    (spares : since.Spares validator.cache presentation.requirements.issuer)
    (young : used.clock ≤ computation.since + validator.settings.keySetMaxAge.total) :
    result = Validator.asymmetric presentation keys := by
  have hcame : chronicle.pipeline.CameTo validator.cache id (.ok keys) := ⟨computation, there, done⟩
  obtain ⟨last, hlast, hdone⟩ := hcame.run events
  have hlast : ((chronicle.extend events).pipeline.caches.named validator.cache).computations[id]? =
      some last := hlast
  have hsafe (fault : ValidationError) :
      ¬ (chronicle.extend events).pipeline.caches.Failed validator.cache id fault := by
    rintro ⟨failed, hfound, hfailed⟩
    obtain rfl := Option.some.inj (hlast.symm.trans hfound)
    cases hdone.symm.trans hfailed
  have hsplit : (chronicle.extend events).history =
      (chronicle.history ++ since) ++ used :: after := by
    rw [List.append_assoc, ← first.split]
    rfl
  -- the first lookup on record is the first that the validation has made
  obtain ⟨lookup, found, rest, rfl, ⟨hcache, hkey, hwindow⟩, hdecides⟩ :=
    judges.of_first given algorithm
  obtain ⟨other, hused⟩ := first.looksUp
  have hother : other = lookup := by
    rw [hsplit, History.lookupsBy_append, History.lookupsBy_append, unasked, first.first] at made
    simp only [History.lookupsBy, List.filterMap_cons, Record.lookupBy?, hused, if_pos] at made
    exact (List.cons.inj made).1
  subst hother
  have hheld := h.holder?_of_spares booked hsplit
    (((before.recorded _).entries _).symm.trans held) spares hsafe
  have hstamp : (History.starts (chronicle.history ++ since) validator.cache)[id]? =
      some (computation.key, computation.since) := by
    have hearlier : (chronicle.history.starts validator.cache)[id]? =
        some (computation.key, computation.since) := by
      rw [← (before.recorded _).stamps, AgedCache.stamps, List.getElem?_map, there]
      rfl
    rw [History.starts_append, List.getElem?_append_left (List.getElem?_eq_some_iff.mp hearlier).1,
      hearlier]
  have hid : other.id = id := by
    refine booked.justified.id_eq hsplit ⟨caller, hused⟩ ?_
    have hyoung : used.clock - computation.since ≤ validator.settings.keySetMaxAge.total := by
      omega
    rw [History.fresh?, hcache, hkey, hheld, Option.bind_some, hstamp, Option.bind_some, hwindow,
      if_pos hyoung]
  obtain ⟨same, hsame, hfound⟩ := gave other found List.mem_cons_self
  rw [hcache, hid, hlast] at hsame
  obtain rfl := Option.some.inj hsame
  exact hdecides keys (Job.done.inj (hfound.symm.trans hdone)) names

/-- A validation that makes its first lookup after a fetch has been started for the issuer is
decided by what was to be had since. -/
theorem Accounted.replaced (h : chronicle.Accounted) (booked : chronicle.Booked)
    (asking : ∀ caller ∈ chronicle.started, ∃ inquiry : Inquiry, caller = inquiry.caller)
    (made : chronicle.history.lookupsBy caller = findings.map Prod.fst)
    (gave : chronicle.pipeline.caches.Gave findings)
    (judges : validator.Judges presentation findings result)
    (given : isBlank presentation.token = false)
    (algorithm : presentation.requirements.algorithm = .rs256) {since middle after : History}
    {refresh used : Record}
    (split : chronicle.history = since ++ refresh :: (middle ++ used :: after))
    (unasked : History.lookupsBy (since ++ refresh :: middle) caller = [])
    (starts : refresh.Starts validator.cache presentation.requirements.issuer id) :
    (∃ others, History.Published (middle ++ used :: after) presentation.requirements.issuer others ∧
        result = Validator.asymmetric presentation others) ∨
      ∃ message, result = .error (.keyRetrieval message) := by
  obtain ⟨lookup, found, hmember, hcache, hkey, hresult⟩ := judges.last given algorithm
  obtain ⟨seen, hseen, hhappening, before, start, rest, answers, hsplit, hstarts, _, _, hleads,
    hasked⟩ := h.fetched booked asking made gave hmember
  rw [hcache, hkey] at hstarts
  rw [hkey] at hleads
  have hlater : seen ∈ used :: after := by
    rw [split, ← List.cons_append, ← List.append_assoc] at hseen
    refine (List.mem_append.mp hseen).resolve_left fun hearlier => ?_
    have hlookup := History.mem_lookupsBy hearlier hhappening
    rw [unasked] at hlookup
    exact absurd hlookup List.not_mem_nil
  -- what the lookup has found was started with the refresh or after it
  have hle : id ≤ lookup.id := by
    obtain ⟨origin, window, hrefresh⟩ := starts
    obtain ⟨earlier, last, heq⟩ := List.append_of_mem hlater
    have hpair : chronicle.history = since ++ refresh :: ((middle ++ earlier) ++ seen :: last) := by
      rw [split, heq, List.append_assoc]
    exact booked.justified.id_le hpair ⟨origin, hrefresh⟩ ⟨caller, hhappening⟩ hcache.symm hkey.symm
  have hsuffix := booked.justified.suffix_of_le split starts hsplit hstarts hle
  have hsince : answers.Sublist (History.asked (middle ++ used :: after)) :=
    hasked.trans (hsuffix.sublist.filterMap _)
  rcases Provider.published_of_leads hleads hsince with ⟨others, rfl, hpublished⟩ | ⟨message, rfl⟩
  · exact Or.inl ⟨others, hpublished, hresult⟩
  · exact Or.inr ⟨message, hresult⟩

/-- What a validation relies on that is over and began after keys had been cached. -/
theorem Attended.relies (h : (chronicle.extend events).Attended)
    (booked : (chronicle.extend events).Booked) (before : chronicle.Booked)
    (enrolled : chronicle.Enrolled)
    (asking : ∀ caller ∈ (chronicle.extend events).started,
      ∃ inquiry : Inquiry, caller = inquiry.caller)
    (held : (chronicle.pipeline.caches.named validator.cache).entries.find?
      presentation.requirements.issuer = some id)
    (there : (chronicle.pipeline.caches.named validator.cache).computations[id]? = some computation)
    (done : computation.job = .done (.ok keys))
    (names : ∀ kid, Validator.asymmetric presentation keys ≠ .error (.keyNotFound kid))
    (given : isBlank presentation.token = false)
    (algorithm : presentation.requirements.algorithm = .rs256)
    (later : chronicle.pipeline.callers.length ≤ caller)
    (asked : (chronicle.extend events).started[caller]? =
      some (Inquiry.assert validator presentation).caller)
    (ended : (chronicle.extend events).pipeline.callers[caller]? =
      some (.finished (.validated result))) :
    validator.Relies presentation keys computation.since (chronicle.pipeline.history events) caller
      result := by
  obtain ⟨program, findings, hprogram, hleads, hmade, hgave⟩ := h.finished ended
  obtain rfl := Option.some.inj (hprogram.symm.trans asked)
  obtain ⟨judged, hreply, hjudges⟩ := Validator.judges_of_leads hleads
  obtain rfl := Reply.validated.inj hreply
  have hunasked : chronicle.history.lookupsBy caller = [] :=
    enrolled.unstarted caller (enrolled.numbered ▸ later)
  have hreplaced {since middle after : History} {refresh used : Record} {id : Nat}
      (first : (chronicle.pipeline.history events).FirstLookup caller (since ++ refresh :: middle)
        used after)
      (starts : refresh.Starts validator.cache presentation.requirements.issuer id) :
      (∃ others, History.Published (middle ++ used :: after) presentation.requirements.issuer
          others ∧ result = Validator.asymmetric presentation others) ∨
        ∃ message, result = .error (.keyRetrieval message) := by
    have hsplit : (chronicle.extend events).history =
        (chronicle.history ++ since) ++ refresh :: (middle ++ used :: after) := by
      rw [List.append_assoc, ← List.cons_append, ← List.append_assoc since, ← first.split]
      rfl
    refine h.replaced booked asking hmade hgave hjudges given algorithm hsplit ?_ starts
    rw [List.append_assoc, History.lookupsBy_append, hunasked, first.first]
    rfl
  refine ⟨?_, ?_, ?_⟩
  · intro since used after first spares young
    exact h.kept booked before held there done names hunasked hmade hgave hjudges given algorithm
      first spares young
  · intro since refresh middle used after id first starts
    exact hreplaced first starts
  · intro since refresh middle used after id first starts none
    exact (hreplaced first starts).resolve_left fun ⟨others, hpublished, _⟩ =>
      none others hpublished

end Validations

end Chronicle

/-- In every run, when keys have been cached for an issuer, a validation that begins later of a
token that names one of them relies on them for as long as no other fetch is started, and then on
what was to be had since; and it can always come to its end. -/
theorem Pipeline.outage {documents : Documents}
    {first last : List (Event ValidationError KeySet Reply)}
    (inquires : ∀ event ∈ first ++ last, event.Inquires) {validator : Validator}
    {presentation : Presentation} (given : isBlank presentation.token = false)
    (algorithm : presentation.requirements.algorithm = .rs256) {id : Nat}
    {computation : Computation ValidationError KeySet} {keys : KeySet}
    (held : (((opened documents).run first).1.caches.named validator.cache).entries.find?
      presentation.requirements.issuer = some id)
    (there : (((opened documents).run first).1.caches.named validator.cache).computations[id]? =
      some computation)
    (done : computation.job = .done (.ok keys))
    (names : ∀ kid, Validator.asymmetric presentation keys ≠ .error (.keyNotFound kid)) :
    let before := ((opened documents).run first).1
    let after := (before.run last).1
    let inquiry : Inquiry := .assert validator presentation
    (∀ caller result, before.callers.length ≤ caller →
      (Event.started (first ++ last))[caller]? = some inquiry.caller →
      after.callers[caller]? = some (.finished (.validated result)) →
      validator.Relies presentation keys computation.since (before.history last) caller result) ∧
    (after.step (.start inquiry.caller)).1.Ends after.callers.length := by
  intro before after inquiry
  refine ⟨?_, ends_started _ inquiry.orderly after⟩
  intro caller result later asked ended
  have hattended := Chronicle.attended_extend documents fun event h => (inquires event h).orderly
  have hbooked := Chronicle.booked_extend documents (first ++ last)
  have hasking := Event.asking_started inquires
  have hbefore := Chronicle.booked_extend documents first
  have henrolled := (Chronicle.accounted_extend documents first).toEnrolled
  rw [Chronicle.extend_append] at hattended hbooked
  rw [Event.started_append] at hasking asked
  exact hattended.relies hbooked hbefore henrolled hasking held there done names given algorithm
    later asked ended

/-- A token that names a key which was fetched a minute before the issuer disappeared. Its signature
is checked with that key, and no more when another token, which names an unknown key, has come
before. -/
theorem Pipeline.outage_refreshed :
    let issuer := "https://login.example"
    let validator : Validator := ⟨.default, "keys"⟩
    let present (token : String) : Presentation :=
      { requirements := {
          algorithm := .rs256, issuer, audience := "c", nonce := none, maxAge := none
          leeway := .ofSeconds 60, organization := none
          issuer_nonBlank := by decide, audience_nonBlank := by decide
          nonce_nonBlank := by simp, organization_nonBlank := by simp }
        token, secret := none, now := 0 }
    let known := present "eyJhbGciOiJSUzI1NiIsImtpZCI6ImEifQ.e30.AA"
    let unknown := present "eyJhbGciOiJSUzI1NiIsImtpZCI6ImIifQ.e30.AA"
    let description :=
      "\x7b\"issuer\":\"https://login.example\",\"jwks_uri\":\"urn:keys\"\x7d"
    let document :=
      "\x7b\"keys\":[\x7b\"kty\":\"RSA\",\"kid\":\"a\",\"n\":\"AQAB\",\"e\":\"AQAB\"\x7d]\x7d"
    let documents : Documents :=
      [(Provider.discoveryUrl issuer, ⟨.body description, 0⟩), ("urn:keys", ⟨.body document, 0⟩)]
    let first : List (Event ValidationError KeySet Reply) :=
      [.start (Inquiry.keys "keys" issuer (.ofSeconds 60)).caller, .poll 0]
    let before := ((opened documents).run first).1
    let calm : List (Event ValidationError KeySet Reply) :=
      [.withdraw (Provider.discoveryUrl issuer), .pass 60000000000,
        .start (Inquiry.assert validator known).caller, .poll 1]
    let troubled : List (Event ValidationError KeySet Reply) :=
      [.withdraw (Provider.discoveryUrl issuer), .pass 60000000000,
        .start (Inquiry.assert validator unknown).caller, .poll 1,
        .start (Inquiry.assert validator known).caller, .poll 2]
    (before.run calm).1.callers[1]? = some (.finished (.validated (.error .invalidSignature))) ∧
      ∃ message, (before.run troubled).1.callers[2]? =
        some (.finished (.validated (.error (.keyRetrieval message)))) := by
  intro issuer validator present known unknown description document documents first before calm
    troubled
  let keys : KeySet := ⟨issuer, "urn:keys", [⟨some "a", .rsa "AQAB" "AQAB"⟩]⟩
  let moment (caller : Nat) (lookup : Lookup) : Record :=
    ⟨60000000000, documents.erase (Provider.discoveryUrl issuer),
      .observed caller (.lookedUp lookup)⟩
  have held : (before.caches.named "keys").entries.find? issuer = some 0 := by decide +kernel
  have cached : before.CameTo "keys" 0 (.ok keys) := cameTo_of_value? (by decide +kernel)
  obtain ⟨computation, there, done⟩ := cached
  have since : computation.since = 0 := by
    have hsince : (before.caches.named "keys").computations[0]?.map Computation.since = some 0 := by
      decide +kernel
    rw [there] at hsince
    exact Option.some.inj hsince
  have hfault : (Validator.asymmetric known keys).map (fun _ => ()) = .error .invalidSignature := by
    decide +kernel
  have rejected := eq_error_of_map hfault
  have names (kid : Option String) :
      Validator.asymmetric known keys ≠ .error (.keyNotFound kid) := by
    rw [rejected]
    exact fun h => by cases h
  have validated {pipeline : Pipeline ValidationError KeySet Reply} {caller : Nat}
      (h : (pipeline.callers[caller]?.bind Slot.result?).any (fun
        | .validated _ => true
        | .keys .. => false) = true) :
      ∃ result, pipeline.callers[caller]? = some (.finished (.validated result)) := by
    match hreply : pipeline.callers[caller]?.bind Slot.result? with
    | none | some (.keys ..) =>
      rw [hreply] at h
      cases h
    | some (.validated result) => exact ⟨result, Slot.eq_finished hreply⟩
  constructor
  · obtain ⟨result, ended⟩ : ∃ result, (before.run calm).1.callers[1]? =
      some (.finished (.validated result)) := validated (by decide +kernel)
    have inquires : ∀ event ∈ first ++ calm, event.Inquires := by
      simp [first, calm, Event.Inquires]
    have hrelies := (outage inquires (by decide) rfl held there done names).1 1 result
      (by decide +kernel) rfl ended
    have looks : (before.history calm).FirstLookup 1 []
        (moment 1 ⟨"keys", issuer, validator.settings.keySetMaxAge, 0, false⟩)
        ((before.history calm).drop 1) :=
      ⟨by decide +kernel, rfl, ⟨_, rfl⟩⟩
    have hresult := hrelies.kept _ _ _ looks (fun _ h => absurd h List.not_mem_nil)
      (by rw [since]; decide)
    rw [ended, hresult, rejected]
  · obtain ⟨result, ended⟩ : ∃ result, (before.run troubled).1.callers[2]? =
      some (.finished (.validated result)) := validated (by decide +kernel)
    have inquires : ∀ event ∈ first ++ troubled, event.Inquires := by
      simp [first, troubled, Event.Inquires]
    have hrelies := (outage inquires (by decide) rfl held there done names).1 2 result
      (by decide +kernel) rfl ended
    let later := before.history troubled
    have looks : later.FirstLookup 2
        (later.take 1 ++
          moment 1 ⟨"keys", issuer, validator.settings.keySetRefreshMaxAge, 1, true⟩ ::
            (later.drop 2).take 5)
        (moment 2 ⟨"keys", issuer, validator.settings.keySetMaxAge, 2, true⟩) (later.drop 8) :=
      ⟨by decide +kernel, by decide +kernel, ⟨_, rfl⟩⟩
    -- whatever was asked for since the first token was refused did not come
    have silent : (History.asked ((later.drop 2).take 5 ++
        moment 2 ⟨"keys", issuer, validator.settings.keySetMaxAge, 2, true⟩ ::
          later.drop 8)).all (fun asked => !asked.2.isOk) = true := by
      decide +kernel
    obtain ⟨message, hresult⟩ := hrelies.unavailable _ _ _ _ _ 1 looks ⟨1, _, rfl⟩ (by
      rintro others ⟨_, _, _, hasked, _⟩
      have hanswer := List.all_eq_true.mp silent _ (hasked.subset List.mem_cons_self)
      cases hanswer)
    exact ⟨message, by rw [ended, hresult]⟩

end RelyingParty
