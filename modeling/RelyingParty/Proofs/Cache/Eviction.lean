import RelyingParty.Proofs.Cache.Soundness

/-!
# Eviction

A computation that fails loses the entry of its key to the first who waits for it, and nothing else
takes an entry away but what is meant to. Between the start of a computation and the moment at which
somebody sees it fail its key may have got another entry, which then stays: whoever takes an entry
away says whose it is to be.
-/

namespace RelyingParty

variable {ε α ρ : Type}

/-- By this the computation `id` loses the entry of a key, after what happened `before`. -/
inductive Record.Ends (before : History) (caches : Caches ε α) (cache key : String) (id : Nat)
    (record : Record) : Prop where
  /-- The entry of the key is taken away from outside. -/
  | invalidated (happening : record.happening = .invalidated cache key)
  /-- All entries are taken away from outside. -/
  | cleared (happening : record.happening = .cleared cache)
  /-- A lookup does not allow its age, and starts another. -/
  | replaced {caller other : Nat} {window : Duration} {computation : Computation ε α}
    (happening : record.happening =
      .observed caller (.lookedUp ⟨cache, key, window, other, true⟩))
    (found : (caches.named cache).computations[id]? = some computation)
    (stale : computation.since + window.total < record.clock)
  /-- It has failed, and one who waits for it takes the entry away. -/
  | evicted {caller : Nat} {lookup : Lookup} {fault : ε}
    (happening : record.happening = .observed caller (.evicted cache key id))
    (awaited : before.awaited? caller = some lookup)
    (same : lookup.cache = cache ∧ lookup.key = key ∧ lookup.id = id)
    (failed : caches.Failed cache id fault)

namespace History

/-- An entry that is lost is lost by one record, up to which its computation has it. -/
theorem exists_loss {before last : History} {cache key : String} {id : Nat}
    (held : before.holder? cache key = some id)
    (lost : holder? (before ++ last) cache key ≠ some id) :
    ∃ since record rest entry, last = since ++ record :: rest ∧
      holder? (before ++ since) cache key = some id ∧
      record.becomes? cache key = some entry ∧ entry ≠ some id := by
  induction last generalizing before with
  | nil =>
    rw [List.append_nil] at lost
    exact absurd held lost
  | cons record rest ih =>
    by_cases hkept : holder? (before ++ [record]) cache key = some id
    · rw [← List.singleton_append, ← List.append_assoc] at lost
      obtain ⟨since, other, later, entry, rfl, hheld, hbecomes, hentry⟩ := ih hkept lost
      exact ⟨record :: since, other, later, entry, rfl, by simpa using hheld, hbecomes, hentry⟩
    · rw [holder?_append_singleton, held] at hkept
      cases hbecomes : record.becomes? cache key with
      | none => exact absurd (by rw [hbecomes]; rfl) hkept
      | some entry =>
        rw [hbecomes] at hkept
        exact ⟨[], record, rest, entry, rfl, by simpa using held, hbecomes, hkept⟩

/-- Without a start no computation gets the entry of a key. -/
theorem holder?_append_eq_none {before last : History} {cache key : String}
    (lost : before.holder? cache key = none)
    (quiet : ∀ record ∈ last, ∀ id, ¬ record.Starts cache key id) :
    holder? (before ++ last) cache key = none := by
  induction last generalizing before with
  | nil => rwa [List.append_nil]
  | cons record rest ih =>
    have hrecord : holder? (before ++ [record]) cache key = none := by
      rw [holder?_append_singleton, lost]
      match hentry : record.becomes? cache key with
      | none => rfl
      | some none => rfl
      | some (some id) =>
        exact absurd (Record.becomes?_eq_some_some hentry) (quiet record List.mem_cons_self id)
    have h := ih hrecord fun other hother => quiet other (List.mem_cons_of_mem _ hother)
    simpa using h

end History

namespace Chronicle

variable {chronicle : Chronicle ε α ρ}

/-- An entry is lost only by what is meant to take it away. -/
theorem Attended.ends (h : chronicle.Attended) (booked : chronicle.Booked)
    {before rest : History} {record : Record} {cache key : String} {id : Nat} {entry : Option Nat}
    (heq : chronicle.history = before ++ record :: rest)
    (held : before.holder? cache key = some id)
    (becomes : record.becomes? cache key = some entry) (other : entry ≠ some id) :
    record.Ends before chronicle.pipeline.caches cache key id := by
  have hmember : record ∈ chronicle.history := by
    rw [heq]
    exact List.mem_append_right _ List.mem_cons_self
  have hbefore : before.Every Record.Justified := .of_append (heq ▸ booked.justified)
  cases entry with
  | none =>
    have hjustified := booked.justified before record rest heq
    rcases Record.removes_of_becomes? becomes hjustified (Or.inr held) with
      hinvalidated | hcleared | ⟨caller, hevicted⟩
    · exact .invalidated hinvalidated
    · exact .cleared hcleared
    · obtain ⟨computation, fault, hfound, hfailed⟩ :=
        h.failed record hmember caller cache key id hevicted
      have hattributed := h.attributed before record rest heq
      simp only [Record.Attributed, hevicted] at hattributed
      obtain ⟨lookup, hawaited, hsame⟩ := hattributed
      exact .evicted hevicted hawaited hsame ⟨computation, hfound, hfailed⟩
  | some next =>
    obtain ⟨caller, window, hhappening⟩ := Record.becomes?_eq_some_some becomes
    obtain ⟨time, since, hlast, hkept⟩ := hbefore.holder?_iff.mp held
    have hnew := booked.justified.isNew_eq heq ⟨caller, hhappening⟩
    -- the entry has not been taken away, so the lookup cannot but have found it too old
    rcases hlast.fresh? hbefore record.clock window with ⟨hfresh, _⟩ | ⟨_, hlost⟩
    · rw [hfresh] at hnew
      cases hnew
    · have hstale : time + window.total < record.clock := by
        rcases hlost with ⟨removal, hremoval, hremoves⟩ | hstale
        · exact absurd hremoves (hkept removal hremoval)
        · exact hstale
      obtain ⟨earlier, start, hsplit, ⟨starter, length, hstart⟩, rfl, _⟩ := hlast
      obtain ⟨_, job, _, _, hfound, _⟩ := h.computation booked
        (by rw [heq, hsplit, List.append_assoc, List.cons_append]) hstart
      exact .replaced hhappening hfound hstale

/-- Who takes away the entry of a computation has waited for it, and no other computation has been
started for the key since. -/
theorem Attended.evicts (h : chronicle.Attended) (booked : chronicle.Booked)
    {before rest : History} {record : Record} {caller : Nat} {cache key : String} {id : Nat}
    (heq : chronicle.history = before ++ record :: rest)
    (happening : record.happening = .observed caller (.evicted cache key id)) :
    before.holder? cache key = some id ∧
      (∃ lookup, before.awaited? caller = some lookup ∧ lookup.cache = cache ∧ lookup.key = key ∧
        lookup.id = id) ∧
      (∃ fault, chronicle.pipeline.caches.Failed cache id fault) ∧
      ∀ start ∈ before, ∀ other, start.Starts cache key other → other ≤ id := by
  have hbefore : before.Every Record.Justified := .of_append (heq ▸ booked.justified)
  have hjustified := booked.justified before record rest heq
  simp only [Record.Justified, happening] at hjustified
  have hattributed := h.attributed before record rest heq
  simp only [Record.Attributed, happening] at hattributed
  have hmember : record ∈ chronicle.history := by
    rw [heq]
    exact List.mem_append_right _ List.mem_cons_self
  obtain ⟨computation, fault, hfound, hfailed⟩ :=
    h.failed record hmember caller cache key id happening
  obtain ⟨time, since, hlast, _⟩ := hbefore.holder?_iff.mp hjustified
  exact ⟨hjustified, hattributed, ⟨fault, computation, hfound, hfailed⟩,
    fun start hstart other hstarts => hlast.le hbefore hstart hstarts⟩

/-- When the last computation of a key has failed, the next lookup starts another. -/
theorem Booked.isNew_of_failed (booked : chronicle.Booked)
    (intact : chronicle.pipeline.caches.Intact) {cache key : String} {id time : Nat}
    {since : History} (last : chronicle.history.LastStart cache key id time since) {fault : ε}
    (failed : chronicle.pipeline.caches.Failed cache id fault) (now : Nat) (window : Duration)
    (job : Job (Except ε α)) :
    ((chronicle.pipeline.caches.named cache).lookup now key window job).isNew = true := by
  have hentry := (booked.recorded cache).entries key
  rcases last.holder? booked.justified with ⟨hheld, _⟩ | ⟨hlost, _⟩
  · exact absurd failed (intact cache key id (hentry.trans hheld) fault)
  · rw [AgedCache.isNew_lookup, (booked.recorded cache).fresh?_eq, History.fresh?, hlost]
    rfl

/-- The first lookup of a key after its entry has been taken away starts a computation. -/
theorem Booked.isNew_of_evicted (booked : chronicle.Booked) {before middle rest : History}
    {record last : Record} {caller : Nat} {cache key : String} {id : Nat} {lookup : Lookup}
    (heq : chronicle.history = before ++ record :: (middle ++ last :: rest))
    (happening : record.happening = .observed caller (.evicted cache key id))
    (next : ∀ other ∈ middle, ∀ found, other.LooksUp found → found.cache = cache →
      found.key ≠ key)
    (looksUp : last.LooksUp lookup) (hcache : lookup.cache = cache) (hkey : lookup.key = key) :
    lookup.isNew = true := by
  have hsplit : chronicle.history = (before ++ record :: middle) ++ last :: rest := by
    simpa using heq
  have hlost : History.holder? (before ++ [record]) cache key = none := by
    rw [History.holder?_append_singleton]
    simp [Record.becomes?, happening]
  have hquiet : ∀ other ∈ middle, ∀ id, ¬ other.Starts cache key id := by
    rintro other hother id ⟨starter, window, hstarts⟩
    exact next other hother _ ⟨starter, hstarts⟩ rfl rfl
  have hstill := History.holder?_append_eq_none hlost hquiet
  rw [List.append_assoc, List.singleton_append] at hstill
  rw [booked.justified.isNew_eq hsplit looksUp, hcache, hkey, History.fresh?, hstill]
  rfl

end Chronicle

/-- How entries come and go in a part of a run, told by the callers that were started, what happened
before that part and in it, and the states at its beginning and at its end. -/
structure History.Eviction (started : List (Caller ε α ρ)) (earlier later : History)
    (before after : Pipeline ε α ρ) : Prop where
  /-- There is at most one entry for a key. -/
  keys : ∀ cache, (Keyed.names (after.caches.named cache).entries).Nodup
  /-- No two entries belong to the same computation. -/
  ids : ∀ cache, ((after.caches.named cache).entries.map Prod.snd).Nodup
  /-- An entry belongs to a computation that was started for its key and has not failed. -/
  entry : ∀ cache key id, (key, id) ∈ (after.caches.named cache).entries →
    id < (after.caches.named cache).computations.length ∧
      after.caches.Belongs cache key id ∧ ∀ fault, ¬ after.caches.Failed cache id fault
  /-- An entry is lost only by what is meant to take it away. -/
  leaves : ∀ cache key id, (before.caches.named cache).entries.find? key = some id →
    (after.caches.named cache).entries.find? key ≠ some id →
    ∃ since record rest, later = since ++ record :: rest ∧
      History.holder? (earlier ++ since) cache key = some id ∧
      record.Ends (earlier ++ since) after.caches cache key id
  /-- Who takes away the entry of a computation has waited for that computation, which has failed;
  it has the entry yet, and no other has been started for the key since. -/
  evicts : ∀ (since rest : History) (record : Record) (caller : Nat) (cache key : String)
    (id : Nat),
    earlier ++ later = since ++ record :: rest →
    record.happening = .observed caller (.evicted cache key id) →
    since.holder? cache key = some id ∧
      (∃ lookup, since.awaited? caller = some lookup ∧
        lookup.cache = cache ∧ lookup.key = key ∧ lookup.id = id) ∧
      (∃ fault, after.caches.Failed cache id fault) ∧
      ∀ start ∈ since, ∀ other, start.Starts cache key other → other ≤ id
  /-- A computation that has succeeded has lost no entry to one who waited for it. -/
  succeeded : ∀ (cache : String) (id : Nat) (computation : Computation ε α) (value : α),
    (after.caches.named cache).computations[id]? = some computation →
    computation.job = .done (.ok value) → ∀ record ∈ earlier ++ later, ∀ caller key,
      record.happening ≠ .observed caller (.evicted cache key id)
  /-- A caller that is dropped leaves all caches as they are. -/
  dropped : ∀ caller, (after.step (.drop caller)).1.caches = after.caches
  /-- Who waits for a computation that has failed goes on with its error, and takes nothing away. -/
  waiting : ∀ (caller : Nat) (cache key : String) (id : Nat)
    (next : Nat → Except ε α → Caller ε α ρ) (fault : ε),
    after.callers[caller]? = some (.running (.awaiting cache key id next)) →
    after.caches.Failed cache id fault →
    ∀ now documents, (Caller.awaiting cache key id next).poll now documents after.caches =
      (next id (.error fault)).poll now documents after.caches
  /-- Whoever is done has got the error of each computation that it has found and that has
  failed. -/
  told : ∀ (caller : Nat) (result : ρ), after.callers[caller]? = some (.finished result) →
    ∃ program findings, started[caller]? = some program ∧
      program.Leads findings (.done result) ∧
      History.lookupsBy (earlier ++ later) caller = findings.map Prod.fst ∧
      ∀ lookup found fault, (lookup, found) ∈ findings →
        after.caches.Failed lookup.cache lookup.id fault → found = .error fault
  /-- When the last computation of a key has failed, the next lookup of the key starts another. -/
  retried : ∀ cache key id time since,
    History.LastStart (earlier ++ later) cache key id time since →
    ∀ fault, after.caches.Failed cache id fault → ∀ now window job,
      ((after.caches.named cache).lookup now key window job).isNew = true
  /-- The first lookup of a key after its entry has been taken away makes a computation out of the
  job that the caller gives. -/
  invoked : ∀ since record middle last rest remover caller cache key id window found isNew,
    earlier ++ later = since ++ record :: (middle ++ last :: rest) →
    record.happening = .observed remover (.evicted cache key id) →
    (∀ other ∈ middle, ∀ lookup, other.LooksUp lookup → lookup.cache = cache →
      lookup.key ≠ key) →
    last.happening = .observed caller (.lookedUp ⟨cache, key, window, found, isNew⟩) →
    isNew = true ∧ ∃ given job answers,
      Chronicle.Offers started caller cache key window given ∧
      (after.caches.named cache).computations[found]? = some ⟨key, last.clock, job⟩ ∧
      given.Leads answers job

/-- Whoever is done has got the error of each computation that it has found and that has failed. -/
theorem Chronicle.Accounted.told {chronicle : Chronicle ε α ρ} (h : chronicle.Accounted)
    {caller : Nat} {result : ρ}
    (ended : chronicle.pipeline.callers[caller]? = some (.finished result)) :
    ∃ program findings, chronicle.started[caller]? = some program ∧
      program.Leads findings (.done result) ∧
      chronicle.history.lookupsBy caller = findings.map Prod.fst ∧
      ∀ lookup found fault, (lookup, found) ∈ findings →
        chronicle.pipeline.caches.Failed lookup.cache lookup.id fault → found = .error fault := by
  obtain ⟨program, findings, hprogram, hleads, hlookups, hgave⟩ := h.finished ended
  refine ⟨program, findings, hprogram, hleads, hlookups, ?_⟩
  rintro lookup found fault hmember ⟨computation, hfound, hfailed⟩
  obtain ⟨same, hsame, hdone⟩ := hgave lookup found hmember
  obtain rfl := Option.some.inj (hsame.symm.trans hfound)
  exact Job.done.inj (hdone.symm.trans hfailed)

/-- Who waits for a computation that has failed goes on with its error. -/
theorem Caller.poll_of_failed {caches : Caches ε α} (intact : caches.Intact) {cache : String}
    {id : Nat} {fault : ε} (failed : caches.Failed cache id fault) (now : Nat)
    (documents : Documents) (key : String) (next : Nat → Except ε α → Caller ε α ρ) :
    (awaiting cache key id next).poll now documents caches =
      (next id (.error fault)).poll now documents caches := by
  have hlost : (caches.named cache).entries.find? key ≠ some id :=
    fun hheld => intact cache key id hheld fault failed
  obtain ⟨computation, hfound, hdone⟩ := failed
  have hawait := Caches.await_of_done hfound hdone (fun _ _ => hlost) now documents
  simp only [poll, hawait, Polled.after, List.nil_append]

/-- In every part of a run of orderly callers entries come and go as they are meant to. -/
theorem Chronicle.Attended.eviction_extend {chronicle : Chronicle ε α ρ} (before : chronicle.Booked)
    {events : List (Event ε α ρ)} (h : (chronicle.extend events).Attended)
    (booked : (chronicle.extend events).Booked)
    (sound : (chronicle.extend events).pipeline.caches.Sound)
    (intact : (chronicle.extend events).pipeline.caches.Intact) :
    History.Eviction (chronicle.extend events).started chronicle.history
      (chronicle.pipeline.history events) chronicle.pipeline
      (chronicle.extend events).pipeline where
  keys cache := (sound cache).keys
  ids cache := (sound cache).nodup_ids
  entry cache key id hmember := by
    have hheld := (Keyed.find?_eq_some_iff (sound cache).keys key id).mpr hmember
    obtain ⟨computation, hfound, hkey⟩ := (sound cache).owner key id hheld
    exact ⟨(List.getElem?_eq_some_iff.mp hfound).1, ⟨computation, hfound, hkey⟩,
      intact cache key id hheld⟩
  leaves cache key id hheld hlost := by
    rw [(before.recorded cache).entries] at hheld
    rw [(booked.recorded cache).entries] at hlost
    obtain ⟨since, record, rest, entry, heq, hsince, hbecomes, hentry⟩ :=
      History.exists_loss hheld hlost
    have hsplit : (chronicle.extend events).history =
        (chronicle.history ++ since) ++ record :: rest := by
      rw [List.append_assoc, ← heq]
      rfl
    exact ⟨since, record, rest, heq, hsince, h.ends booked hsplit hsince hbecomes hentry⟩
  evicts since rest record caller cache key id heq happening := h.evicts booked heq happening
  succeeded cache id computation value hfound hdone record hmember caller key hevicted := by
    obtain ⟨failed, fault, hfailed, hfault⟩ := h.failed record hmember caller cache key id hevicted
    obtain rfl := Option.some.inj (hfound.symm.trans hfailed)
    rw [hdone] at hfault
    cases hfault
  dropped caller := by
    obtain ⟨callers, hdrop⟩ := (chronicle.extend events).pipeline.dropCaller_eq caller
    rw [Pipeline.step, hdrop]
  waiting caller cache key id next fault _ hfailed now documents :=
    Caller.poll_of_failed intact hfailed now documents key next
  told caller result ended := h.told ended
  retried cache key id time since hlast fault hfailed now window job :=
    booked.isNew_of_failed intact hlast hfailed now window job
  invoked since record middle last rest remover caller cache key id window found isNew heq removed
      hnext hlooksUp := by
    obtain rfl : isNew = true :=
      booked.isNew_of_evicted heq removed hnext ⟨caller, hlooksUp⟩ rfl rfl
    have hsplit : (chronicle.extend events).history =
        (since ++ record :: middle) ++ last :: rest := by
      rw [List.append_assoc, List.cons_append, ← heq]
      rfl
    obtain ⟨given, job, answers, hoffers, hfound, hleads, _⟩ := h.computation booked hsplit hlooksUp
    exact ⟨rfl, given, job, answers, hoffers, hfound, hleads⟩

/-- In every run of orderly callers entries come and go as they are meant to. -/
theorem Pipeline.eviction (documents : Documents) {first last : List (Event ε α ρ)}
    (orderly : ∀ event ∈ first ++ last, event.Orderly) :
    let before := ((opened documents : Pipeline ε α ρ).run first).1
    History.Eviction (Event.started (first ++ last))
      ((opened documents : Pipeline ε α ρ).history first) (before.history last) before
      (before.run last).1 := by
  have hattended := Chronicle.attended_extend documents orderly
  have hbooked := Chronicle.booked_extend documents (first ++ last)
  have hsound := Chronicle.sound_extend documents (first ++ last)
  have hintact := Chronicle.intact_extend documents orderly
  rw [Chronicle.extend_append] at hattended hbooked hsound hintact
  have hbefore := Chronicle.booked_extend documents first
  have h := hattended.eviction_extend hbefore hbooked hsound hintact
  rw [Event.started_append]
  simpa only [Chronicle.extend, Chronicle.opened, List.nil_append] using h

/-- A caller sees a computation fail that has made way for another, which keeps its entry. -/
theorem Pipeline.eviction_replaced :
    let caller (result : Except String Nat) : Caller String Nat Bool :=
      .get "cache" "key" ⟨5, by decide⟩ (.delay 10 (.done result)) fun _ found => found.isOk
    let first : List (Event String Nat Bool) :=
      [.start (caller (.error "no")), .start (caller (.ok 7)), .poll 0]
    let last : List (Event String Nat Bool) := [.pass 6, .poll 1, .pass 4, .poll 0]
    let before := ((opened [] : Pipeline String Nat Bool).run first).1
    (before.caches.named "cache").entries.find? "key" = some 0 ∧
      (before.run last).1.callers[0]? = some (.finished false) ∧
      ((before.run last).1.caches.named "cache").entries.find? "key" = some 1 ∧
      History.Eviction (Event.started (first ++ last))
        ((opened [] : Pipeline String Nat Bool).history first) (before.history last) before
        (before.run last).1 := by
  intro caller first last before
  have orderly : ∀ event ∈ first ++ last, event.Orderly := by
    simp [first, last, caller, Event.Orderly, Caller.Orderly, Caller.Asks]
  have failed : (before.run last).1.callers[0]?.bind Slot.result? = some false := by
    decide +kernel
  exact ⟨by decide +kernel, Slot.eq_finished failed, by decide +kernel, eviction [] orderly⟩

end RelyingParty
