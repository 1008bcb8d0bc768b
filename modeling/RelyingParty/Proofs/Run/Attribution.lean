import RelyingParty.Proofs.Cache.Agreement

/-!
# Attribution

Who has done what in a run. A caller that waits for nothing but what it has looked up polls the
computation that its last lookup found. So the history tells for each request which computation made
it, and for each failure who saw it: what a computation has asked for is exactly what the history
attributes to it.
-/

namespace RelyingParty

variable {ε α ρ : Type}

namespace Caller

/-- All lookups of a caller, whatever they find, are admissible, and it waits for nothing else. -/
def Asks (admits : String → String → Duration → Job (Except ε α) → Prop) : Caller ε α ρ → Prop
  | .done _ => True
  | .record _ next => next.Asks admits
  | .lookup cache key window job next =>
    admits cache key window job ∧ ∀ id result, (next id result).Asks admits
  | .awaiting _ _ _ _ => False

/-- A caller waits for nothing but what it has looked up. -/
abbrev Orderly (caller : Caller ε α ρ) : Prop := caller.Asks fun _ _ _ _ => True

/-- What such a caller comes to after some findings is such a caller. -/
theorem Asks.leads {admits : String → String → Duration → Job (Except ε α) → Prop}
    {caller left : Caller ε α ρ} {findings : Findings ε α} (h : caller.Asks admits)
    (leads : caller.Leads findings left) : left.Asks admits := by
  induction leads with
  | refl => exact h
  | record _ ih => exact ih h
  | lookup _ ih => exact ih (h.2 _ _)
  | resume => exact h.elim

end Caller

/-- Whoever is started waits for nothing but what it has looked up. -/
def Event.Orderly (event : Event ε α ρ) : Prop :=
  ∀ caller, event = .start caller → caller.Orderly

namespace History

/-- The computation for which a caller waits, if it waits: the one that its last lookup found. -/
def awaited? (history : History) (caller : Nat) : Option Lookup :=
  (history.lookupsBy caller).getLast?

/-- The computation `id` of a cache is the one that a caller polls. -/
def Polls (history : History) (caller : Nat) (cache : String) (id : Nat) : Prop :=
  ∃ lookup, history.awaited? caller = some lookup ∧ lookup.cache = cache ∧ lookup.id = id

instance (history : History) (caller : Nat) (cache : String) (id : Nat) :
    Decidable (history.Polls caller cache id) :=
  decidable_of_iff
    ((history.awaited? caller).any fun lookup => lookup.cache = cache ∧ lookup.id = id)
    (by simp [Polls, Option.any_eq_true])

end History

/-- The answer on a record, if it is one to a request that a computation made. -/
def Record.answerTo? (before : History) (cache : String) (id : Nat) (record : Record) :
    Option (String × Except RetrievalError String) :=
  match record.happening with
  | .observed caller _ => if before.Polls caller cache id then record.asked? else none
  | _ => none

theorem Record.answerTo?_observed (before : History) (cache : String) (id now : Nat)
    (documents : Documents) (caller : Nat) (observation : Observation) :
    Record.answerTo? before cache id ⟨now, documents, .observed caller observation⟩ =
      if before.Polls caller cache id then
        Record.asked? ⟨now, documents, .observed caller observation⟩
      else none :=
  rfl

namespace History

/-- What a computation has asked for in a part of a history, after what happened `before`. -/
def askedSince (before : History) (cache : String) (id : Nat) : History → Answers
  | [] => []
  | record :: after =>
    (record.answerTo? before cache id).toList ++ askedSince (before ++ [record]) cache id after

/-- What a computation has asked for, with what came of it. -/
def askedBy (history : History) (cache : String) (id : Nat) : Answers :=
  askedSince [] cache id history

theorem askedSince_append (before first last : History) (cache : String) (id : Nat) :
    askedSince before cache id (first ++ last) =
      askedSince before cache id first ++ askedSince (before ++ first) cache id last := by
  induction first generalizing before with
  | nil => simp [askedSince]
  | cons record rest ih => simp [askedSince, ih]

theorem askedBy_append (history last : History) (cache : String) (id : Nat) :
    askedBy (history ++ last) cache id =
      history.askedBy cache id ++ askedSince history cache id last := by
  rw [askedBy, askedSince_append, List.nil_append, askedBy]

/-- Where nothing is asked for, no computation asks for anything. -/
theorem askedSince_of_unasked {added : History} (unasked : added.asked = []) (before : History)
    (cache : String) (id : Nat) : askedSince before cache id added = [] := by
  induction added generalizing before with
  | nil => rfl
  | cons record rest ih =>
    have hnone := List.filterMap_eq_nil_iff.mp unasked
    have hrest : asked rest = [] :=
      List.filterMap_eq_nil_iff.mpr fun other h => hnone other (List.mem_cons_of_mem _ h)
    have hrecord : record.answerTo? before cache id = none := by
      unfold Record.answerTo?
      split
      · rw [hnone record List.mem_cons_self, ite_self]
      · rfl
    rw [askedSince, hrecord, ih hrest]
    rfl

/-- The lookup for which a caller waits is one that it has made. -/
theorem mem_lookupsBy_of_awaited? {before rest : History} {caller : Nat} {lookup : Lookup}
    (awaited : before.awaited? caller = some lookup) :
    lookup ∈ lookupsBy (before ++ rest) caller := by
  rw [lookupsBy_append]
  exact List.mem_append_left _ (List.mem_of_getLast? awaited)

/-- A caller that looks nothing up keeps waiting for the same. -/
theorem awaited?_append {history added : History} {caller : Nat}
    (quiet : added.lookupsBy caller = []) :
    awaited? (history ++ added) caller = history.awaited? caller := by
  rw [awaited?, lookupsBy_append, quiet, List.append_nil, awaited?]

/-- All that is asked for while a caller is polled is asked for by the computation that it polls. -/
theorem askedSince_observed {now : Nat} {documents : Documents} {caller : Nat}
    {seen : List Observation}
    (quiet : lookupsBy (seen.map fun observation =>
      ⟨now, documents, .observed caller observation⟩) caller = [])
    (before : History) (cache : String) (id : Nat) :
    askedSince before cache id
        (seen.map fun observation => ⟨now, documents, .observed caller observation⟩) =
      if before.Polls caller cache id then
        asked (seen.map fun observation => ⟨now, documents, .observed caller observation⟩)
      else [] := by
  induction seen generalizing before with
  | nil => simp [askedSince, asked]
  | cons observation rest ih =>
    rw [List.map_cons, ← List.singleton_append, lookupsBy_append, List.append_eq_nil_iff] at quiet
    obtain ⟨hfirst, hrest⟩ := quiet
    have hpolls : Polls (before ++ [⟨now, documents, .observed caller observation⟩]) caller cache id
        ↔ before.Polls caller cache id := by
      rw [Polls, awaited?_append hfirst, Polls]
    rw [List.map_cons, askedSince, ih hrest, if_congr hpolls rfl rfl, Record.answerTo?_observed]
    by_cases h : before.Polls caller cache id
    · rw [if_pos h, if_pos h, if_pos h, asked, asked, List.filterMap_cons]
      split <;> simp_all
    · rw [if_neg h, if_neg h, if_neg h]
      rfl

/-- Records that stand in a relation to all that happened before them can be added. -/
theorem Every.append_of_split {relation : History → Record → Prop} {history last : History}
    (h : history.Every relation)
    (hlast : ∀ first record rest, last = first ++ record :: rest →
      relation (history ++ first) record) : Every relation (history ++ last) := by
  induction last generalizing history with
  | nil => simpa using h
  | cons record rest ih =>
    have hfirst := h.append_singleton (by simpa using hlast [] record rest rfl)
    have hrest := ih hfirst fun first other later heq => by
      simpa using hlast (record :: first) other later (by rw [heq, List.cons_append])
    simpa using hrest

/-- The first of the answers that a computation got in a part of a history was got by a record, and
the others after it. -/
theorem exists_answerTo?_of_askedSince {before history : History} {cache : String} {id : Nat}
    {answer : String × Except RetrievalError String} {rest : Answers}
    (h : askedSince before cache id history = answer :: rest) :
    ∃ middle record after, history = middle ++ record :: after ∧
      record.answerTo? (before ++ middle) cache id = some answer ∧
      askedSince (before ++ (middle ++ [record])) cache id after = rest := by
  induction history generalizing before with
  | nil => cases h
  | cons record later ih =>
    rw [askedSince] at h
    cases hanswer : record.answerTo? before cache id with
    | some found =>
      rw [hanswer] at h
      obtain ⟨rfl, hrest⟩ := List.cons.inj h
      refine ⟨[], record, later, rfl, ?_, hrest⟩
      rw [List.append_nil]
      exact hanswer
    | none =>
      rw [hanswer] at h
      obtain ⟨middle, first, after, rfl, hfirst, hrest⟩ := ih h
      rw [List.append_assoc, List.singleton_append] at hfirst hrest
      exact ⟨record :: middle, first, after, rfl, hfirst, hrest⟩

/-- Before a computation asks for something it has been started. -/
theorem Every.started_of_answerTo? {before : History} {record : Record} {cache : String} {id : Nat}
    {answer : String × Except RetrievalError String} (justified : before.Every Record.Justified)
    (answered : record.answerTo? before cache id = some answer) :
    ∃ start ∈ before, ∃ key, start.Starts cache key id := by
  unfold Record.answerTo? at answered
  split at answered
  · next caller _ _ =>
    obtain ⟨⟨lookup, hawaited, rfl, rfl⟩, _⟩ := Option.ite_none_right_eq_some.mp answered
    obtain ⟨used, hused, hhappening⟩ :=
      exists_of_mem_lookupsBy (List.mem_of_getLast? hawaited)
    obtain ⟨earlier, later, rfl⟩ := List.append_of_mem hused
    obtain ⟨start, hstart, hstarts, _⟩ := justified.found rfl ⟨caller, hhappening⟩
    refine ⟨start, ?_, lookup.key, hstarts⟩
    rw [← List.singleton_append, ← List.append_assoc]
    exact List.mem_append_left _ hstart
  · cases answered

/-- What a computation asks for it asks for behind its start. -/
theorem Every.split_of_answerTo? {history before after earlier later : History}
    {start record : Record} {cache key : String} {id : Nat}
    {answer : String × Except RetrievalError String} (justified : history.Every Record.Justified)
    (h : history = before ++ start :: after) (starts : start.Starts cache key id)
    (h' : history = earlier ++ record :: later)
    (answered : record.answerTo? earlier cache id = some answer) :
    ∃ middle, earlier = before ++ start :: middle := by
  have hearlier : earlier.Every Record.Justified := Every.of_append (h' ▸ justified)
  obtain ⟨origin, horigin, key', hstarts⟩ := hearlier.started_of_answerTo? answered
  obtain ⟨first, middle, rfl⟩ := List.append_of_mem horigin
  rw [List.append_assoc, List.cons_append] at h'
  obtain ⟨rfl, rfl, _⟩ := justified.start_unique h starts h' hstarts
  exact ⟨middle, rfl⟩

end History

/-- What a caller does while it waits concerns the computation that its last lookup found. -/
def Record.Attributed (before : History) (record : Record) : Prop :=
  match record.happening with
  | .observed caller (.requested _) => ∃ lookup, before.awaited? caller = some lookup
  | .observed caller (.evicted cache key id) =>
    ∃ lookup, before.awaited? caller = some lookup ∧ lookup.cache = cache ∧ lookup.key = key ∧
      lookup.id = id
  | _ => True

namespace Chronicle

variable {before after : Chronicle ε α ρ}

/-- A caller that waits, waits for what its last lookup found. -/
theorem Enrolled.awaited {chronicle : Chronicle ε α ρ} (h : chronicle.Enrolled)
    (orderly : ∀ caller ∈ chronicle.started, caller.Orderly) {caller : Nat} {cache key : String}
    {id : Nat} {next : Nat → Except ε α → Caller ε α ρ}
    (running : chronicle.pipeline.callers[caller]? =
      some (.running (.awaiting cache key id next))) :
    (∃ window isNew,
      chronicle.history.awaited? caller = some ⟨cache, key, window, id, isNew⟩) ∧
      ∀ id result, (next id result).Orderly := by
  obtain ⟨program, hprogram, hcame⟩ := h.came caller _ _ running rfl
  have horderly := orderly program (List.mem_of_getElem? hprogram)
  unfold History.awaited?
  generalize chronicle.history.lookupsBy caller = lookups at hcame
  cases hcame with
  | informed leads => exact (horderly.leads leads).elim
  | @waiting findings _ _ window _ isNew _ _ leads =>
    exact ⟨⟨window, isNew, by simp⟩, (horderly.leads leads).2⟩

/-- A caller that is about to look a key up gives the job that it was started with. -/
theorem Enrolled.offers {chronicle : Chronicle ε α ρ} (h : chronicle.Enrolled) {caller : Nat}
    {name key : String} {window : Duration} {job : Job (Except ε α)}
    {next : Nat → Except ε α → Caller ε α ρ}
    (running : chronicle.pipeline.callers[caller]? =
      some (.running (.lookup name key window job next))) :
    Offers chronicle.started caller name key window job := by
  obtain ⟨program, hprogram, hcame⟩ := h.came caller _ _ running rfl
  generalize chronicle.history.lookupsBy caller = lookups at hcame
  cases hcame with
  | @informed findings _ leads _ => exact ⟨program, findings, next, hprogram, leads⟩

/-- What each computation has asked for is what the history attributes to it. -/
structure Credited (chronicle : Chronicle ε α ρ) : Prop where
  /-- Each computation has come from the job that was given for it, with the answers to all that it
  has asked for. -/
  course : ∀ (cache : String) (id : Nat) (computation : Computation ε α),
    (chronicle.pipeline.caches.named cache).computations[id]? = some computation →
    ∃ caller window given, Offers chronicle.started caller cache computation.key window given ∧
      given.Leads (chronicle.history.askedBy cache id) computation.job
  /-- What has not been started has asked for nothing. -/
  silent : ∀ (cache : String) (id : Nat),
    (chronicle.pipeline.caches.named cache).computations[id]? = none →
    chronicle.history.askedBy cache id = []

/-- All callers wait for nothing but what they have looked up, and what each computation has asked
for is what the history attributes to it. -/
structure Attended (chronicle : Chronicle ε α ρ) : Prop extends chronicle.Accounted where
  /-- No caller waits for what it has not looked up. -/
  orderly : ∀ caller ∈ chronicle.started, caller.Orderly
  /-- What callers do while they wait concerns what their last lookups found. -/
  attributed : chronicle.history.Every Record.Attributed
  /-- Each computation has done what the history attributes to it. -/
  credited : chronicle.Credited

theorem attended_opened (documents : Documents) :
    (opened documents : Chronicle ε α ρ).Attended where
  toAccounted := accounted_opened documents
  orderly _ h := absurd h List.not_mem_nil
  attributed := History.every_nil _
  credited := by
    refine ⟨fun cache id computation hfound => ?_, fun _ _ _ => rfl⟩
    simp [opened, Pipeline.opened, Caches.named, Keyed.find?, AgedCache.empty] at hfound

/-- A computation that is not there after a move was not there before. -/
theorem Move.computation_eq_none {allowed : Event ε α ρ → Prop} (move : Move allowed before after)
    {cache : String} {id : Nat}
    (hnone : (after.pipeline.caches.named cache).computations[id]? = none) :
    (before.pipeline.caches.named cache).computations[id]? = none := by
  obtain ⟨_, _, hgoOn, _⟩ := move.progress
  by_contra hsome
  obtain ⟨computation, hfound⟩ := Option.ne_none_iff_exists'.mp hsome
  obtain ⟨last, _, hlast, _⟩ := hgoOn cache id computation hfound
  rw [hlast] at hnone
  cases hnone

/-- A move by which nothing is asked for leaves every computation with what it has asked for. -/
theorem Attended.unasked {allowed : Event ε α ρ → Prop} (h : before.Attended)
    (move : Move allowed before after) {added : History}
    (hhistory : after.history = before.history ++ added) (unasked : added.asked = []) :
    after.Credited := by
  have hasked (cache : String) (id : Nat) :
      after.history.askedBy cache id = before.history.askedBy cache id := by
    rw [hhistory, History.askedBy_append, History.askedSince_of_unasked unasked, List.append_nil]
  obtain ⟨more, hstarted⟩ := move.started
  obtain ⟨_, hprogress, hgoOn, hnew⟩ := move.progress
  obtain rfl := List.append_cancel_left (hhistory.symm.trans hprogress)
  refine ⟨fun cache id computation hfound => ?_, fun cache id hnone => ?_⟩
  · rw [hasked, hstarted]
    cases hbefore : (before.pipeline.caches.named cache).computations[id]? with
    | some earlier =>
      obtain ⟨last, answers, hlast, hgoesOn, hanswers⟩ := hgoOn cache id earlier hbefore
      obtain rfl := Option.some.inj (hlast.symm.trans hfound)
      rw [unasked, List.sublist_nil] at hanswers
      subst hanswers
      obtain ⟨caller, window, given, hoffers, hleads⟩ := h.credited.course cache id earlier hbefore
      have hleads := hleads.trans hgoesOn.leads
      rw [List.append_nil] at hleads
      rw [hgoesOn.key]
      exact ⟨caller, window, given, hoffers.append more, hleads⟩
    | none =>
      obtain ⟨caller, window, next, hrunning, _, _⟩ := hnew cache id computation hbefore hfound
      rw [h.credited.silent cache id hbefore]
      exact ⟨caller, window, computation.job, (h.offers hrunning).append more, .refl _⟩
  · rw [hasked, h.credited.silent cache id (move.computation_eq_none hnone)]

/-- What happens while a caller waits concerns the computation that its last lookup found. -/
theorem Attended.attributed_await (h : before.Attended) {caller waited : Nat} {name key : String}
    {next : Nat → Except ε α → Caller ε α ρ}
    (running : before.pipeline.callers[caller]? =
      some (.running (.awaiting name key waited next))) :
    History.Every Record.Attributed (before.history ++
      (before.pipeline.caches.await before.pipeline.clock before.pipeline.documents name key
        waited).seen.map fun observation =>
          before.pipeline.stamp (.observed caller observation)) := by
  obtain ⟨⟨window, isNew, hawaited⟩, _⟩ := h.toEnrolled.awaited h.orderly running
  obtain ⟨lost, hseen, hlost⟩ := before.pipeline.caches.seen_await before.pipeline.clock
    before.pipeline.documents name key waited
  have hquiet := History.lookupsBy_await before.pipeline.caches before.pipeline.clock
    before.pipeline.documents name key waited caller caller
  refine h.attributed.append_of_split fun first record rest heq => ?_
  obtain ⟨left, right, hsplit, rfl, hright⟩ := List.map_eq_append_iff.mp heq
  obtain ⟨observation, last, rfl, rfl, _⟩ := List.map_eq_cons_iff.mp hright
  -- whatever happened since the caller began to wait, it has looked nothing up
  have hstill : History.awaited? (before.history ++ left.map fun observation =>
      before.pipeline.stamp (.observed caller observation)) caller =
        some ⟨name, key, window, waited, isNew⟩ := by
    rw [hsplit, List.map_append, History.lookupsBy_append, List.append_eq_nil_iff] at hquiet
    exact (History.awaited?_append hquiet.1).trans hawaited
  have hmember : observation ∈ left ++ observation :: last :=
    List.mem_append_right _ List.mem_cons_self
  rw [← hsplit, hseen] at hmember
  rcases List.mem_append.mp hmember with heffect | hevicted
  · obtain ⟨effect, _, rfl⟩ := List.mem_map.mp heffect
    cases effect with
    | requested url => exact ⟨_, hstill⟩
    | recorded metric => trivial
  · obtain ⟨rfl, _⟩ := hlost observation hevicted
    exact ⟨_, hstill, rfl, rfl, rfl⟩

/-- While a caller waits, the computation that its last lookup found is credited with all that is
asked for. -/
theorem Attended.askedBy_await (h : before.Attended) {caller waited : Nat} {name key : String}
    {next : Nat → Except ε α → Caller ε α ρ}
    (running : before.pipeline.callers[caller]? =
      some (.running (.awaiting name key waited next))) (cache : String) (id : Nat) :
    History.askedBy (before.history ++ (before.pipeline.caches.await before.pipeline.clock
        before.pipeline.documents name key waited).seen.map fun observation =>
          before.pipeline.stamp (.observed caller observation)) cache id =
      before.history.askedBy cache id ++ if cache = name ∧ waited = id then
        Job.answers before.pipeline.documents ((before.pipeline.caches.named name).poll
          before.pipeline.clock before.pipeline.documents waited).seen
      else [] := by
  obtain ⟨⟨window, isNew, hawaited⟩, _⟩ := h.toEnrolled.awaited h.orderly running
  have hpolls : before.history.Polls caller cache id ↔ cache = name ∧ waited = id := by
    simp [History.Polls, hawaited, eq_comm]
  have hasked := before.pipeline.caches.asked_await before.pipeline.clock before.pipeline.documents
    name key waited caller
  have hobserved := History.askedSince_observed (History.lookupsBy_await before.pipeline.caches
    before.pipeline.clock before.pipeline.documents name key waited caller caller)
    before.history cache id
  rw [hasked, if_congr hpolls rfl rfl] at hobserved
  rw [History.askedBy_append, ← hobserved]
  rfl

/-- A step of a caller that waits leaves every computation credited with what it has asked for. -/
theorem Attended.credited_await (h : before.Attended) {caller waited : Nat} {name key : String}
    {next : Nat → Except ε α → Caller ε α ρ} {polled : Caller.Polled ε α ρ}
    (running : before.pipeline.callers[caller]? =
      some (.running (.awaiting name key waited next)))
    (hcaches : polled.caches = (before.pipeline.caches.await before.pipeline.clock
      before.pipeline.documents name key waited).caches)
    (hseen : polled.seen = (before.pipeline.caches.await before.pipeline.clock
      before.pipeline.documents name key waited).seen) :
    (before.advance caller polled).Credited := by
  have hasked (cache : String) (id : Nat) := h.askedBy_await running cache id
  rw [← hseen] at hasked
  refine ⟨fun cache id computation hfound => ?_, fun cache id hnone => ?_⟩
  · rw [advance, hcaches, Caches.computations_await] at hfound
    by_cases hcache : cache = name
    · subst hcache
      rw [if_pos rfl, AgedCache.getElem?_computations_poll, Option.map_eq_some_iff] at hfound
      obtain ⟨earlier, hearlier, rfl⟩ := hfound
      obtain ⟨starter, window, given, hoffers, hleads⟩ :=
        h.credited.course cache id earlier hearlier
      by_cases hid : waited = id
      · subst hid
        have hpoll := earlier.job.leads_poll before.pipeline.clock before.pipeline.documents
        refine ⟨starter, window, given, by split <;> exact hoffers, ?_⟩
        rw [advance, hasked, if_pos ⟨rfl, rfl⟩, AgedCache.seen_poll _ _ _ hearlier, if_pos rfl]
        exact hleads.trans hpoll
      · refine ⟨starter, window, given, by split <;> exact hoffers, ?_⟩
        rw [advance, hasked, if_neg fun h => hid h.2, List.append_nil, if_neg hid]
        exact hleads
    · rw [if_neg hcache] at hfound
      obtain ⟨starter, window, given, hoffers, hleads⟩ :=
        h.credited.course cache id computation hfound
      refine ⟨starter, window, given, hoffers, ?_⟩
      rw [advance, hasked, if_neg fun h => hcache h.1, List.append_nil]
      exact hleads
  · rw [advance, hcaches, Caches.computations_await] at hnone
    rw [advance, hasked]
    by_cases hcache : cache = name
    · subst hcache
      rw [if_pos rfl, AgedCache.getElem?_computations_poll, Option.map_eq_none_iff] at hnone
      rw [h.credited.silent cache id hnone, List.nil_append]
      split
      · next hsame =>
        obtain ⟨_, rfl⟩ := hsame
        simp [AgedCache.poll, hnone, Job.answers]
      · rfl
    · rw [if_neg hcache] at hnone
      rw [h.credited.silent cache id hnone, if_neg fun h => hcache h.1, List.append_nil]

/-- Every move keeps what callers do attributed to the computations that they have found. -/
theorem Attended.move (h : before.Attended) (move : Move Event.Orderly before after) :
    after.Attended := by
  have accounted := h.toAccounted.move move
  cases move with
  | event event permitted quiet =>
    have hunasked : History.asked (before.pipeline.history [event]) = [] := by
      cases event with
      | poll id => exact absurd rfl (quiet id)
      | _ => rfl
    have hattributed : ∀ record ∈ before.pipeline.history [event], ∀ earlier,
        Record.Attributed earlier record := by
      cases event with
      | poll id => exact absurd rfl (quiet id)
      | invalidate | clear =>
        intro record hrecord _
        obtain rfl := List.mem_singleton.mp hrecord
        trivial
      | _ => exact fun _ hrecord => absurd hrecord List.not_mem_nil
    refine ⟨accounted, fun caller hcaller => ?_, h.attributed.append hattributed,
      h.unasked (.event before event permitted quiet) rfl hunasked⟩
    rcases List.mem_append.mp hcaller with hold | hnew
    · exact h.orderly caller hold
    · cases event with
      | start other =>
        obtain rfl := List.mem_singleton.mp hnew
        exact permitted _ rfl
      | _ => exact absurd hnew List.not_mem_nil
  | finish running =>
    have move : Move Event.Orderly before _ := .finish before running
    exact ⟨accounted, h.orderly, h.attributed, h.unasked move (List.append_nil _).symm rfl⟩
  | step running step =>
    have move : Move Event.Orderly before _ := .step before running step
    cases step with
    | record metric next | lookup name key window job next =>
      exact ⟨accounted, h.orderly, h.attributed.append_singleton trivial, h.unasked move rfl rfl⟩
    | resume name key waited next ended | wait name key waited next waiting =>
      exact ⟨accounted, h.orderly, h.attributed_await running, h.credited_await running rfl rfl⟩

/-- After every run of orderly callers what they do is attributed to the computations that they have
found. -/
theorem attended_extend (documents : Documents) {events : List (Event ε α ρ)}
    (orderly : ∀ event ∈ events, event.Orderly) : ((opened documents).extend events).Attended :=
  invariant_run documents (attended_opened documents) Attended.move events orderly

end Chronicle

end RelyingParty
