import RelyingParty.Proofs.Run.Alone
import RelyingParty.Proofs.Validation.Inquiry

/-!
# Undisturbed validations

What a single validation comes to, and what it asks for, when nothing else happens until it is over.
Without a token, or with the client secret, it looks no keys up. Otherwise it looks up the keys of
the issuer, and once more only when the key for the token is not among them: keys that are young
enough even then are kept, and older ones are fetched again, once.
-/

namespace RelyingParty

open Text

namespace History

/-- The lookups that a caller made, with their moments. -/
def timed (history : History) (caller : Nat) : List (Nat × Lookup) :=
  history.filterMap fun record => (record.lookupBy? caller).map (record.clock, ·)

variable {records : History} {documents : Documents} {caller : Nat} {seen : List Observation}

/-- What is asked for, told by what is observed. -/
theorem Shows.asked (h : records.Shows documents caller seen) :
    records.asked = seen.filterMap fun
      | .requested url => some (url, documents.retrieve url)
      | _ => none := by
  induction records generalizing seen with
  | nil =>
    obtain rfl := List.map_eq_nil_iff.mp h.symm
    rfl
  | cons record rest ih =>
    obtain ⟨observation, others, rfl, hrecord, hrest⟩ := List.map_eq_cons_iff.mp h.symm
    obtain ⟨clock, _, _⟩ := record
    obtain ⟨rfl, rfl⟩ := Prod.mk.inj hrecord
    have hrest : asked rest = _ := ih hrest.symm
    cases observation <;>
      simp only [History.asked, List.filterMap_cons, Record.asked?] at hrest ⊢ <;> rw [hrest]

/-- What a computation does is asked for, and nothing else when its entry is taken away. -/
theorem Shows.asked_effects {effects : List Job.Effect} {lost : List Observation}
    {name key : String} {id : Nat}
    (h : records.Shows documents caller (effects.map Job.Effect.observation ++ lost))
    (evicted : ∀ observation ∈ lost, observation = .evicted name key id) :
    records.asked = Job.answers documents effects := by
  rw [h.asked, List.filterMap_append, List.filterMap_map]
  have hlost : lost.filterMap (fun
      | .requested url => some (url, documents.retrieve url)
      | _ => none) = [] := by
    refine List.filterMap_eq_nil_iff.mpr fun observation hobservation => ?_
    rw [evicted observation hobservation]
  rw [hlost, List.append_nil]
  refine List.filterMap_congr fun effect _ => ?_
  cases effect <;> rfl

theorem timed_append (first last : History) (caller : Nat) :
    timed (first ++ last) caller = first.timed caller ++ last.timed caller :=
  List.filterMap_append

theorem timed_lookedUp (moment : Nat) (documents : Documents) (caller : Nat) (lookup : Lookup)
    (rest : History) :
    timed (⟨moment, documents, .observed caller (.lookedUp lookup)⟩ :: rest) caller =
      (moment, lookup) :: rest.timed caller := by
  simp [timed, Record.lookupBy?]

theorem asked_append (first last : History) :
    asked (first ++ last) = first.asked ++ last.asked :=
  List.filterMap_append

/-- Where no lookup is observed, no lookup is made. -/
theorem Shows.timed (h : records.Shows documents caller seen)
    (quiet : ∀ lookup, .lookedUp lookup ∉ seen) : records.timed caller = [] := by
  refine List.filterMap_eq_nil_iff.mpr fun record hrecord => ?_
  have hmember := List.mem_map_of_mem (f := fun record : Record =>
    (record.documents, record.happening)) hrecord
  rw [Shows] at h
  rw [h] at hmember
  obtain ⟨observation, hseen, heq⟩ := List.mem_map.mp hmember
  obtain ⟨_, hhappening⟩ := Prod.mk.inj heq
  cases observation with
  | lookedUp lookup => exact absurd hseen (quiet lookup)
  | _ => simp [Record.lookupBy?, ← hhappening]

end History

namespace Caches

variable {ε α : Type} {caches last : Caches ε α} {documents : Documents} {now : Nat}
  {name key : String} {window : Duration} {job : Job (Except ε α)} {lookup : Lookup}
  {seen : List Observation} {found : Except ε α}

theorem quiet_lost (caches : Caches ε α) (name key : String) (id : Nat) (result : Except ε α) :
    ∀ observation ∈ caches.lost name key id result, observation = .evicted name key id := by
  intro observation hobservation
  unfold lost at hobservation
  split at hobservation
  · cases hobservation
  · split at hobservation
    · exact List.mem_singleton.mp hobservation
    · cases hobservation

/-- What is observed after a lookup is no lookup. -/
theorem Obtains.quiet (h : caches.Obtains documents now name key window job lookup seen last found)
    (other : Lookup) : .lookedUp other ∉ seen := by
  have heffect (effects : List Job.Effect) :
      .lookedUp other ∉ effects.map Job.Effect.observation := by
    intro hmember
    obtain ⟨effect, _, heq⟩ := List.mem_map.mp hmember
    cases effect <;> cases heq
  intro hmember
  cases h with
  | joins | starts =>
    rcases List.mem_append.mp hmember with hjob | hlost
    · exact heffect _ hjob
    · cases quiet_lost _ _ _ _ _ _ hlost

/-- A value that was obtained is there for the next. -/
theorem Obtains.held {value : α}
    (h : caches.Obtains documents now name key window job lookup seen last (.ok value)) :
    ∃ computation, (last.named name).entries.find? key = some lookup.id ∧
      (last.named name).computations[lookup.id]? = some computation ∧
      computation.job = .done (.ok value) := by
  generalize hfound : Except.ok value = found at h
  cases h with
  | @joins id computation held there young =>
    rw [← hfound, settle, named_put, if_pos rfl]
    refine ⟨{ computation with job := .done (.ok value) }, held, ?_, rfl⟩
    rw [AgedCache.settle, AgedCache.getElem?_update, if_pos rfl, there]
    rfl
  | @starts stale id hid installed hinstalled =>
    subst hid hinstalled
    rw [← hfound, settle, named_put, if_pos rfl, named_put, if_pos rfl]
    refine ⟨⟨key, now, .done (.ok value)⟩, ?_, ?_, rfl⟩
    · simp [AgedCache.settle, AgedCache.update, AgedCache.install, Keyed.find?_put]
    · simp [AgedCache.settle, AgedCache.update, AgedCache.install]

section Held

variable {id : Nat} {computation : Computation ε α} {value : α}

/-- A value that is there is obtained as it is, as long as it is young enough. -/
theorem Obtains.of_young
    (h : caches.Obtains documents now name key window job lookup seen last found)
    (held : (caches.named name).entries.find? key = some id)
    (there : (caches.named name).computations[id]? = some computation)
    (done : computation.job = .done (.ok value))
    (young : now ≤ computation.since + window.total) :
    lookup = ⟨name, key, window, id, false⟩ ∧ seen = [] ∧ last = caches ∧ found = .ok value := by
  cases h with
  | joins hheld hthere _ =>
    obtain rfl := Option.some.inj (held.symm.trans hheld)
    obtain rfl := Option.some.inj (there.symm.trans hthere)
    have hcomplete : computation.job.complete documents.retrieve = (.ok value, []) := by
      rw [done]
      rfl
    have hsettle : caches.settle name key id (.ok value) = caches := by
      rw [settle, AgedCache.settle, ← done, AgedCache.update_self there, caches.put_named there]
    rw [hcomplete, hsettle]
    exact ⟨rfl, rfl, rfl, rfl⟩
  | starts stale =>
    have hfresh := ((caches.named name).fresh?_eq_some_iff now key window id).mpr
      ⟨held, computation, there, young⟩
    rw [hfresh] at stale
    cases stale

/-- What is there and too old is not obtained: the job is done from its beginning. -/
theorem Obtains.of_old
    (h : caches.Obtains documents now name key window job lookup seen last found)
    (held : (caches.named name).entries.find? key = some id)
    (there : (caches.named name).computations[id]? = some computation)
    (old : computation.since + window.total < now) :
    lookup.isNew = true ∧ found = (job.complete documents.retrieve).1 ∧
      ∃ lost : List Observation, (∀ observation ∈ lost, observation = .evicted name key lookup.id) ∧
        seen = (job.complete documents.retrieve).2.map Job.Effect.observation ++ lost := by
  cases h with
  | joins hheld hthere young =>
    obtain rfl := Option.some.inj (held.symm.trans hheld)
    obtain rfl := Option.some.inj (there.symm.trans hthere)
    exact absurd young (Nat.not_le.mpr old)
  | starts => exact ⟨rfl, rfl, _, quiet_lost _ _ _ _ _, rfl⟩

end Held

end Caches

namespace Validator

/-- What is counted when a validation is over. -/
def counts (presentation : Presentation) (result : Validated) : List Observation :=
  [.recorded .duration, .recorded (.validation presentation.requirements.algorithm (status result))]

/-- How a validation goes that nobody disturbs, from a moment and caches on: what happens, the
caches in the end, and what it comes to. -/
inductive Undisturbed (validator : Validator) (presentation : Presentation)
    (documents : Documents) (caller now : Nat) (caches : Caches ValidationError KeySet) :
    History → Caches ValidationError KeySet → Validated → Prop where
  /-- There is no token. -/
  | missing (blank : isBlank presentation.token = true) {counted : History}
    (counts : counted.Shows documents caller (counts presentation (.error missingToken))) :
    Undisturbed validator presentation documents caller now caches counted caches
      (.error missingToken)
  /-- The client secret decides. -/
  | symmetric (given : isBlank presentation.token = false)
    (algorithm : presentation.requirements.algorithm = .hs256) {counted : History}
    (counts : counted.Shows documents caller (counts presentation (symmetric presentation))) :
    Undisturbed validator presentation documents caller now caches counted caches
      (symmetric presentation)
  /-- The keys are looked up, and what is found settles how the token is judged. -/
  | once (given : isBlank presentation.token = false)
    (algorithm : presentation.requirements.algorithm = .rs256) {first : Nat} {lookup : Lookup}
    {seen : List Observation} {last : Caches ValidationError KeySet} {found : Provider.Fetched}
    {waited counted : History} (later : now ≤ first)
    (obtains : caches.Obtains documents first validator.cache presentation.requirements.issuer
      validator.settings.keySetMaxAge (Provider.fetch presentation.requirements.issuer) lookup seen
      last found)
    (shows : waited.Shows documents caller seen) (settles : Settles presentation found)
    (counts : counted.Shows documents caller (counts presentation (verdict presentation found))) :
    Undisturbed validator presentation documents caller now caches
      (⟨first, documents, .observed caller (.lookedUp lookup)⟩ :: (waited ++ counted)) last
      (verdict presentation found)
  /-- The key for the token is not among the keys that are found, and these are young enough. -/
  | kept (given : isBlank presentation.token = false)
    (algorithm : presentation.requirements.algorithm = .rs256) {first second : Nat}
    {lookup : Lookup} {seen : List Observation} {last : Caches ValidationError KeySet}
    {keys : KeySet} {kid : Option String} {computation : Computation ValidationError KeySet}
    {waited counted : History} (later : now ≤ first) (again : first ≤ second)
    (obtains : caches.Obtains documents first validator.cache presentation.requirements.issuer
      validator.settings.keySetMaxAge (Provider.fetch presentation.requirements.issuer) lookup seen
      last (.ok keys))
    (shows : waited.Shows documents caller seen)
    (lacks : asymmetric presentation keys = .error (.keyNotFound kid))
    (found : (last.named validator.cache).computations[lookup.id]? = some computation)
    (young : second ≤ computation.since + validator.settings.keySetRefreshMaxAge.total)
    (counts : counted.Shows documents caller (counts presentation (.error (.keyNotFound kid)))) :
    Undisturbed validator presentation documents caller now caches
      (⟨first, documents, .observed caller (.lookedUp lookup)⟩ ::
        (waited ++ ⟨second, documents, .observed caller (.lookedUp ⟨validator.cache,
          presentation.requirements.issuer, validator.settings.keySetRefreshMaxAge, lookup.id,
          false⟩)⟩ :: counted))
      last (.error (.keyNotFound kid))
  /-- The key for the token is not among the keys that are found, and these are too old: they are
  fetched again. -/
  | refetched (given : isBlank presentation.token = false)
    (algorithm : presentation.requirements.algorithm = .rs256) {first second : Nat}
    {lookup other : Lookup} {seen fetching : List Observation}
    {middle last : Caches ValidationError KeySet} {keys : KeySet} {kid : Option String}
    {computation : Computation ValidationError KeySet} {fetched : Provider.Fetched}
    {waited refetched counted : History} (later : now ≤ first) (again : first ≤ second)
    (obtains : caches.Obtains documents first validator.cache presentation.requirements.issuer
      validator.settings.keySetMaxAge (Provider.fetch presentation.requirements.issuer) lookup seen
      middle (.ok keys))
    (shows : waited.Shows documents caller seen)
    (lacks : asymmetric presentation keys = .error (.keyNotFound kid))
    (found : (middle.named validator.cache).computations[lookup.id]? = some computation)
    (old : computation.since + validator.settings.keySetRefreshMaxAge.total < second)
    (starts : middle.Obtains documents second validator.cache presentation.requirements.issuer
      validator.settings.keySetRefreshMaxAge (Provider.fetch presentation.requirements.issuer) other
      fetching last fetched)
    (isNew : other.isNew = true)
    (whole : fetched =
      ((Provider.fetch presentation.requirements.issuer).complete documents.retrieve).1)
    (showsAgain : refetched.Shows documents caller fetching)
    (counts : counted.Shows documents caller (counts presentation (verdict presentation fetched))) :
    Undisturbed validator presentation documents caller now caches
      (⟨first, documents, .observed caller (.lookedUp lookup)⟩ ::
        (waited ++ ⟨second, documents, .observed caller (.lookedUp other)⟩ ::
          (refetched ++ counted)))
      last (verdict presentation fetched)

variable {ρ : Type} {validator : Validator} {presentation : Presentation} {documents : Documents}
  {caller now : Nat} {caches last : Caches ValidationError KeySet} {history : History}

/-- A validation that is over is counted, and that is all. -/
theorem counts_of_alone {next : Validated → ρ} {result : Validated} {reply : ρ}
    (h : (Caller.record .duration <|
      .record (.validation presentation.requirements.algorithm (status result)) <|
        (.done (next result) : KeyCaller ρ)).Alone documents caller now caches history last reply) :
    reply = next result ∧ last = caches ∧
      history.Shows documents caller (counts presentation result) := by
  cases h with
  | record _ h =>
    cases h with
    | record _ h =>
      cases h with
      | done => exact ⟨rfl, rfl, rfl⟩

/-- A lookup of keys by one who is alone is the last, unless the key for the token is not among them
and there may be another. -/
theorem alone_lookUp {cache : String} {next : Validated → KeyCaller ρ} {retry : Retry}
    {window : Duration} {reply : ρ}
    (h : (lookUp cache presentation next retry window).Alone documents caller now caches history
      last reply) :
    ∃ moment later lookup seen middle found, ∃ waited rest : History,
      now ≤ moment ∧ moment ≤ later ∧
      caches.Obtains documents moment cache presentation.requirements.issuer window
        (Provider.fetch presentation.requirements.issuer) lookup seen middle found ∧
      waited.Shows documents caller seen ∧
      history = ⟨moment, documents, .observed caller (.lookedUp lookup)⟩ :: (waited ++ rest) ∧
      ((∃ keys kid again, found = .ok keys ∧
          asymmetric presentation keys = .error (.keyNotFound kid) ∧
          retry.afterMiss? = some again ∧
          (lookUp cache presentation next again again.window).Alone documents caller later middle
            rest last reply) ∨
        ((retry.afterMiss? = none ∨ Settles presentation found) ∧
          (next (verdict presentation found)).Alone documents caller later middle rest last
            reply)) := by
  obtain ⟨after, heq, hafter⟩ := exists_lookUp_eq cache presentation next retry window
  rw [heq] at h
  obtain ⟨moment, later, lookup, seen, middle, found, waited, rest, hmoment, hlater, hobtains,
    hshows, hrest, hhistory⟩ := h.obtains
  refine ⟨moment, later, lookup, seen, middle, found, waited, rest, hmoment, hlater, hobtains,
    hshows, hhistory, ?_⟩
  rcases hafter found with ⟨keys, kid, again, hkeys, hlacks, hretry, hmore⟩ | ⟨hlast, hnext⟩
  · rw [hmore] at hrest
    exact Or.inl ⟨keys, kid, again, hkeys, hlacks, hretry, hrest⟩
  · rw [hnext] at hrest
    exact Or.inr ⟨hlast, hrest⟩

/-- A validation that nobody disturbs goes as it is meant to. -/
theorem undisturbed_of_alone {next : Validated → ρ} {reply : ρ}
    (h : (validator.assert presentation next).Alone documents caller now caches history last
      reply) :
    ∃ result, reply = next result ∧
      validator.Undisturbed presentation documents caller now caches history last result := by
  unfold assert verify at h
  split at h
  · next blank =>
    obtain ⟨hreply, rfl, hcounts⟩ := counts_of_alone h
    exact ⟨_, hreply, .missing blank hcounts⟩
  · next given =>
    have given : isBlank presentation.token = false := by simpa using given
    split at h
    · next algorithm =>
      obtain ⟨hreply, rfl, hcounts⟩ := counts_of_alone h
      exact ⟨_, hreply, .symmetric given algorithm hcounts⟩
    · next algorithm =>
      obtain ⟨first, later, lookup, seen, middle, found, waited, rest, hfirst, hlater, hobtains,
        hshows, rfl, hrest⟩ := alone_lookUp h
      rcases hrest with ⟨keys, kid, again, rfl, hlacks, hretry, hmore⟩ | ⟨hlast, hrest⟩
      · obtain rfl := Option.some.inj hretry
        obtain ⟨second, _, other, fetching, final, fetched, refetched, counted, hsecond, _, hagain,
          hfetching, rfl, hrest⟩ := alone_lookUp hmore
        obtain ⟨computation, hheld, hthere, hdone⟩ := hobtains.held
        rcases hrest with ⟨_, _, _, _, _, hretry, _⟩ | ⟨_, hrest⟩
        · cases hretry
        · obtain ⟨hreply, rfl, hcounts⟩ := counts_of_alone hrest
          have hordered : first ≤ second := Nat.le_trans hlater hsecond
          rcases Nat.lt_or_ge (computation.since + validator.settings.keySetRefreshMaxAge.total)
            second with hold | hyoung
          · obtain ⟨hnew, hwhole, _⟩ := hagain.of_old hheld hthere hold
            exact ⟨_, hreply, .refetched given algorithm hfirst hordered hobtains hshows hlacks
              hthere hold hagain hnew hwhole hfetching hcounts⟩
          · obtain ⟨rfl, rfl, rfl, rfl⟩ := hagain.of_young hheld hthere hdone hyoung
            obtain rfl := List.map_eq_nil_iff.mp hfetching
            have hverdict : verdict presentation (.ok keys) = .error (.keyNotFound kid) := hlacks
            rw [hverdict] at hreply hcounts
            exact ⟨_, hreply, .kept given algorithm hfirst hordered hobtains hshows hlacks hthere
              hyoung hcounts⟩
      · obtain ⟨hreply, rfl, hcounts⟩ := counts_of_alone hrest
        rcases hlast with hnone | hsettles
        · cases hnone
        · exact ⟨_, hreply, .once given algorithm hfirst hobtains hshows hsettles hcounts⟩

/-- What is counted is neither a lookup nor a request. -/
theorem quiet_counts {counted : History} {result : Validated}
    (h : counted.Shows documents caller (counts presentation result)) :
    counted.timed caller = [] ∧ counted.asked = [] :=
  ⟨h.timed (by simp [counts]), by rw [h.asked]; rfl⟩

/-- How a validation goes for which there are keys, fetched from some moment on, but not the one for
the token. If they are young enough for the first lookup there is a second one: if they are young
enough even for that, nothing is asked for and the key is missing, and otherwise they are fetched
once and judge the token. -/
def Renews (validator : Validator) (presentation : Presentation) (documents : Documents)
    (caller since : Nat) (kid : Option String) (caches last : Caches ValidationError KeySet)
    (history : History) (result : Validated) : Prop :=
  ∃ first lookup rest, history.timed caller = (first, lookup) :: rest ∧
    (first ≤ since + validator.settings.keySetMaxAge.total →
      ∃ second again, rest = [(second, again)] ∧ first ≤ second ∧ lookup.isNew = false ∧
        (second ≤ since + validator.settings.keySetRefreshMaxAge.total →
          again.isNew = false ∧ history.asked = [] ∧ last = caches ∧
            result = .error (.keyNotFound kid)) ∧
        (since + validator.settings.keySetRefreshMaxAge.total < second →
          again.isNew = true ∧
            history.asked = Job.answers documents
              ((Provider.fetch presentation.requirements.issuer).complete documents.retrieve).2 ∧
            result = verdict presentation
              ((Provider.fetch presentation.requirements.issuer).complete documents.retrieve).1))

/-- What comes of a validation that nobody disturbs, from a moment and caches on. -/
structure Outcome (validator : Validator) (presentation : Presentation) (documents : Documents)
    (caller now : Nat) (caches : Caches ValidationError KeySet) (history : History)
    (last : Caches ValidationError KeySet) (result : Validated) : Prop where
  /-- It goes as it is meant to. -/
  goes : validator.Undisturbed presentation documents caller now caches history last result
  /-- Without a token, or with the client secret, nothing is looked up or asked for, and all caches
  stay as they are. -/
  offline : isBlank presentation.token = true ∨ presentation.requirements.algorithm = .hs256 →
    history.timed caller = [] ∧ history.asked = [] ∧ last = caches
  /-- There are two lookups at most. -/
  twice : (history.timed caller).length ≤ 2
  /-- When there are keys, but not the one for the token, their age decides whether they are fetched
  again. -/
  cached : ∀ (id : Nat) (computation : Computation ValidationError KeySet) (keys : KeySet)
    (kid : Option String), isBlank presentation.token = false →
    presentation.requirements.algorithm = .rs256 →
    (caches.named validator.cache).entries.find? presentation.requirements.issuer = some id →
    (caches.named validator.cache).computations[id]? = some computation →
    computation.job = .done (.ok keys) →
    asymmetric presentation keys = .error (.keyNotFound kid) →
    validator.Renews presentation documents caller computation.since kid caches last history result

variable {result : Validated}

/-- Whoever needs no keys leaves them alone. -/
theorem Undisturbed.offline
    (h : validator.Undisturbed presentation documents caller now caches history last result)
    (offline : isBlank presentation.token = true ∨
      presentation.requirements.algorithm = .hs256) :
    history.timed caller = [] ∧ history.asked = [] ∧ last = caches := by
  have online (given : isBlank presentation.token = false)
      (algorithm : presentation.requirements.algorithm = .rs256) : False := by
    rw [given, algorithm] at offline
    rcases offline with h | h <;> cases h
  cases h with
  | missing _ hcounts | symmetric _ _ hcounts =>
    obtain ⟨htimed, hasked⟩ := quiet_counts hcounts
    exact ⟨htimed, hasked, rfl⟩
  | once given algorithm | kept given algorithm | refetched given algorithm =>
    exact (online given algorithm).elim

/-- There are two lookups at most. -/
theorem Undisturbed.timed_le
    (h : validator.Undisturbed presentation documents caller now caches history last result) :
    (history.timed caller).length ≤ 2 := by
  cases h with
  | missing _ hcounts | symmetric _ _ hcounts => simp [(quiet_counts hcounts).1]
  | once _ _ _ hobtains hshows _ hcounts =>
    simp [History.timed_lookedUp, History.timed_append, hshows.timed hobtains.quiet,
      (quiet_counts hcounts).1]
  | kept _ _ _ _ hobtains hshows _ _ _ hcounts =>
    simp [History.timed_lookedUp, History.timed_append, hshows.timed hobtains.quiet,
      (quiet_counts hcounts).1]
  | refetched _ _ _ _ hobtains hshows _ _ _ hstarts _ _ hagain hcounts =>
    simp [History.timed_lookedUp, History.timed_append, hshows.timed hobtains.quiet,
      hagain.timed hstarts.quiet, (quiet_counts hcounts).1]

/-- When the key for the token is not among the keys that are there, it depends on their age whether
they are fetched again. -/
theorem Undisturbed.cached
    (h : validator.Undisturbed presentation documents caller now caches history last result)
    {id : Nat} {computation : Computation ValidationError KeySet} {keys : KeySet}
    {kid : Option String} (given : isBlank presentation.token = false)
    (algorithm : presentation.requirements.algorithm = .rs256)
    (held : (caches.named validator.cache).entries.find? presentation.requirements.issuer = some id)
    (there : (caches.named validator.cache).computations[id]? = some computation)
    (done : computation.job = .done (.ok keys))
    (lacks : asymmetric presentation keys = .error (.keyNotFound kid)) :
    validator.Renews presentation documents caller computation.since kid caches last history
      result := by
  cases h with
  | missing blank =>
    rw [given] at blank
    cases blank
  | symmetric _ other =>
    rw [algorithm] at other
    cases other
  | @once _ _ first lookup seen last found waited counted _ hobtains hshows hsettles hcounts =>
    refine ⟨first, lookup, _, History.timed_lookedUp _ _ _ _ _, fun hyoung => ?_⟩
    obtain ⟨_, _, _, hfound⟩ := hobtains.of_young held there done hyoung
    exact absurd lacks (hsettles keys kid hfound)
  | @kept _ _ first second lookup seen last found missed polled waited counted _ hsecond hobtains
      hshows hlacks hfound hstill hcounts =>
    refine ⟨first, lookup, _, History.timed_lookedUp _ _ _ _ _, fun hyoung => ?_⟩
    obtain ⟨rfl, rfl, rfl, hkeys⟩ := hobtains.of_young held there done hyoung
    obtain rfl := Except.ok.inj hkeys
    obtain rfl := Option.some.inj (there.symm.trans hfound)
    obtain rfl := List.map_eq_nil_iff.mp hshows
    obtain ⟨hcounted, hasked⟩ := quiet_counts hcounts
    have hkid := hlacks.symm.trans lacks
    have hlast := (History.timed_lookedUp second documents caller ⟨validator.cache,
      presentation.requirements.issuer, validator.settings.keySetRefreshMaxAge, id, false⟩
      counted).trans (congrArg _ hcounted)
    exact ⟨second, _, hlast, hsecond, rfl, fun _ => ⟨rfl, hasked, rfl, hkid⟩,
      fun hold => by omega⟩
  | @refetched _ _ first second lookup other seen fetching middle last found missed polled fetched
      waited refetched counted _ hsecond hobtains hshows _ hfound hold hstarts hnew hwhole hagain
      hcounts =>
    refine ⟨first, lookup, _, History.timed_lookedUp _ _ _ _ _, fun hyoung => ?_⟩
    obtain ⟨rfl, rfl, rfl, _⟩ := hobtains.of_young held there done hyoung
    obtain rfl := Option.some.inj (there.symm.trans hfound)
    obtain rfl := List.map_eq_nil_iff.mp hshows
    obtain ⟨hcounted, hnone⟩ := quiet_counts hcounts
    obtain ⟨_, _, lost, hlost, rfl⟩ := hstarts.of_old held there hold
    have hasked : History.asked (refetched ++ counted) = Job.answers documents
        ((Provider.fetch presentation.requirements.issuer).complete documents.retrieve).2 := by
      rw [History.asked_append, hagain.asked_effects hlost, hnone, List.append_nil]
    refine ⟨second, other, ?_, hsecond, rfl, fun hstill => by omega,
      fun _ => ⟨hnew, hasked, by rw [hwhole]⟩⟩
    rw [List.nil_append, History.timed_lookedUp, History.timed_append,
      hagain.timed hstarts.quiet, hcounted]
    rfl

/-- What comes of a validation that is alone. -/
theorem outcome_of_alone {next : Validated → ρ} {reply : ρ}
    (h : (validator.assert presentation next).Alone documents caller now caches history last
      reply) :
    ∃ result, reply = next result ∧
      validator.Outcome presentation documents caller now caches history last result := by
  obtain ⟨result, hreply, hgoes⟩ := undisturbed_of_alone h
  exact ⟨result, hreply, hgoes, hgoes.offline, hgoes.timed_le,
    fun _ _ _ _ given algorithm held there done lacks =>
      hgoes.cached given algorithm held there done lacks⟩

end Validator

/-- Whatever the state in which a token comes to be validated and nothing else happens until that is
over: it can come to its end, and however it comes to its end the outcome is as it is meant to
be. -/
theorem Pipeline.undisturbed {ρ : Type} (pipeline : Pipeline ValidationError KeySet ρ)
    (validator : Validator) (presentation : Presentation) (next : Validated → ρ) :
    let started := (pipeline.step (.start (validator.assert presentation next))).1
    let caller := pipeline.callers.length
    started.Ends caller ∧
      ∀ events reply, (∀ event ∈ events, event.Alone caller) →
        (started.run events).1.callers[caller]? = some (.finished reply) →
        ∃ result, reply = next result ∧
          validator.Outcome presentation pipeline.documents caller pipeline.clock pipeline.caches
            (started.history events) (started.run events).1.caches result := by
  intro started caller
  have running : started.callers[caller]? =
      some (.running (validator.assert presentation next)) := by
    simp [started, caller, step]
  refine ⟨ends_started _ (validator.orderly_assert presentation next) pipeline, ?_⟩
  intro events reply alone ended
  exact Validator.outcome_of_alone (alone_of_finished running alone ended)

/-- A token that names a key which its issuer has not published, when the keys that are there are
too old to say so: they are fetched again, in vain. -/
theorem Pipeline.undisturbed_outdated :
    let issuer := "https://login.example"
    let presentation : Presentation :=
      { requirements := {
          algorithm := .rs256, issuer, audience := "c", nonce := none, maxAge := none
          leeway := .ofSeconds 60, organization := none
          issuer_nonBlank := by decide, audience_nonBlank := by decide
          nonce_nonBlank := by simp, organization_nonBlank := by simp }
        token := "eyJhbGciOiJSUzI1NiIsImtpZCI6ImEifQ.e30.AA", secret := none, now := 0 }
    let keys : KeySet := ⟨issuer, "https://login.example/keys", []⟩
    let pipeline : Pipeline ValidationError KeySet Reply :=
      { clock := 6000000000
        caches := [("keys", ⟨[⟨issuer, 0, .done (.ok keys)⟩], [(issuer, 0)]⟩)] }
    let inquiry : Inquiry := .assert ⟨.default, "keys"⟩ presentation
    let started := (pipeline.step (.start inquiry.caller)).1
    let url := Provider.discoveryUrl issuer
    (started.history [.poll 0]).asked = [(url, .error (.status url 404))] ∧
      (started.run [.poll 0]).1.callers[0]? = some (.finished (.validated (.error
        (.keyRetrieval (RetrievalError.status url 404).message)))) := by
  intro issuer presentation keys pipeline inquiry started url
  obtain ⟨reply, ended⟩ : ∃ reply, (started.run [.poll 0]).1.callers[0]? =
    some (.finished reply) := Slot.exists_finished (by decide +kernel)
  obtain ⟨result, rfl, outcome⟩ :=
    (undisturbed pipeline ⟨.default, "keys"⟩ presentation .validated).2 [.poll 0] reply
      (by simp [Event.Alone, pipeline]) ended
  have hfault : (Validator.asymmetric presentation keys).map (fun _ => ()) =
      .error (.keyNotFound (some "a")) := by
    decide +kernel
  have lacks := eq_error_of_map hfault
  have moments : ((started.history [.poll 0]).timed 0).map Prod.fst = [6000000000, 6000000000] := by
    decide +kernel
  obtain ⟨first, lookup, rest, htimed, hcached⟩ :=
    outcome.cached 0 _ keys _ (by decide +kernel) rfl (by decide) rfl rfl lacks
  have htimed : (started.history [.poll 0]).timed 0 = (first, lookup) :: rest := htimed
  rw [htimed, List.map_cons] at moments
  obtain ⟨rfl, hrest⟩ := List.cons.inj moments
  obtain ⟨second, again, rfl, _, _, _, hold⟩ := hcached (by decide)
  obtain ⟨rfl, _⟩ := List.cons.inj hrest
  obtain ⟨_, hasked, hresult⟩ := hold (by decide)
  rw [hresult] at ended
  exact ⟨hasked, ended⟩

end RelyingParty
