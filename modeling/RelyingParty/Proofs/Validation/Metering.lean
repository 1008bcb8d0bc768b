import Mathlib.Algebra.BigOperators.Group.List.Lemmas
import Mathlib.Algebra.GroupWithZero.Nat
import RelyingParty.Proofs.Run.Counting
import RelyingParty.Proofs.Validation.Inquiry

/-!
# Metering

What the counters show after a run of validations and lookups of keys. Every validation that is over
counts once, with the algorithm that was required and with its outcome, and has one duration; one
that was dropped or still waits counts nowhere. Every fetch that is over counts once by its outcome,
however many have waited for it and whatever has become of its entry, and nothing else does.
-/

namespace RelyingParty

namespace Metric

/-- What a counter shows: it starts from nothing. -/
def value (metrics : List Metric) (metric : Metric) : Nat :=
  ((tally metrics).lookup metric).getD 0

/-- What the counters with a name show together. -/
def total (metrics : List Metric) (name : String) : Nat :=
  (((tally metrics).filter fun entry => entry.1.name = name).map Prod.snd).sum

/-- A counter shows how often it was recorded. -/
theorem value_eq (metrics : List Metric) (metric : Metric) :
    value metrics metric = metrics.count metric := by
  have hlookup (shown : List Metric) :
      (shown.map fun other => (other, metrics.count other)).lookup metric =
        if metric ∈ shown then some (metrics.count metric) else none := by
    induction shown with
    | nil => rfl
    | cons other rest ih =>
      by_cases h : metric = other
      · subst h
        simp
      · simp [List.lookup_cons, beq_eq_false_iff_ne.mpr h, ih, h]
  unfold value tally
  rw [hlookup]
  by_cases h : metric ∈ metrics
  · rw [if_pos (List.mem_eraseDups.mpr h), Option.getD_some]
  · rw [if_neg (mt List.mem_eraseDups.mp h), List.count_eq_zero_of_not_mem h, Option.getD_none]

theorem nodup_eraseDups (metrics : List Metric) : metrics.eraseDups.Nodup := by
  match metrics with
  | [] => exact List.nodup_nil
  | first :: rest =>
    have hshorter := List.length_filter_le (fun other => !other == first) rest
    rw [List.eraseDups_cons, List.nodup_cons, List.mem_eraseDups]
    exact ⟨by simp, nodup_eraseDups _⟩
termination_by metrics.length
decreasing_by simp only [List.length_cons]; omega

/-- The counters with a name show together how often any of them was recorded. -/
theorem total_eq (metrics : List Metric) (name : String) :
    total metrics name = metrics.countP fun metric => metric.name = name := by
  have hperm : metrics.eraseDups.Perm metrics.dedup :=
    (List.perm_ext_iff_of_nodup (nodup_eraseDups metrics) metrics.nodup_dedup).mpr fun metric => by
      rw [List.mem_eraseDups, List.mem_dedup]
  have hshown := hperm.filter fun metric => metric.name = name
  rw [← List.sum_map_count_dedup_filter_eq_countP, ← (hshown.map metrics.count).sum_eq]
  simp only [total, tally, List.filter_map, List.map_map, Function.comp_def]

end Metric

/-- All computations that were started in caches, each once. -/
def Caches.computations {ε α : Type} (caches : Caches ε α) : List (Computation ε α) :=
  caches.flatMap fun entry => entry.2.computations

/-- Whether a computation is over, with success or without. -/
def Computation.hasEnded {ε α : Type} (isSuccess : Bool) (computation : Computation ε α) : Bool :=
  match computation.job.result? with
  | some result => result.isOk == isSuccess
  | none => false

namespace Inquiry

/-- What a validation tells that is over: its outcome under the algorithm that was required, and
that it had a duration. -/
def told : Inquiry → Reply → List Metric
  | assert _ presentation, .validated result =>
    [.duration, .validation presentation.requirements.algorithm (Validator.status result)]
  | _, _ => []

/-- Whether a validation has returned. -/
def hasReturned : Inquiry × Slot ValidationError KeySet Reply → Bool
  | (assert _ _, .finished (.validated _)) => true
  | _ => false

/-- Whether a validation under an algorithm has returned with an outcome. -/
def hasReturnedWith (algorithm : Algorithm) (status : String) :
    Inquiry × Slot ValidationError KeySet Reply → Bool
  | (assert _ presentation, .finished (.validated result)) =>
    presentation.requirements.algorithm = algorithm && Validator.status result = status
  | _ => false

end Inquiry

/-- Only a validation that has returned tells anything. -/
theorem Inquiry.returned_or_silent (entry : Inquiry × Slot ValidationError KeySet Reply) :
    (∃ validator presentation result,
      entry = (.assert validator presentation, .finished (.validated result))) ∨
    hasReturned entry = false ∧ tale entry.1.told entry.2.result? = [] := by
  obtain ⟨inquiry, slot⟩ := entry
  cases slot with
  | running | dropped => cases inquiry <;> exact Or.inr ⟨rfl, rfl⟩
  | finished reply =>
    cases inquiry with
    | keys => cases reply <;> exact Or.inr ⟨rfl, rfl⟩
    | assert validator presentation =>
      cases reply with
      | keys => exact Or.inr ⟨rfl, rfl⟩
      | validated result => exact Or.inl ⟨validator, presentation, result, rfl⟩

theorem Inquiry.hasReturned_of_with {algorithm : Algorithm} {status : String}
    (entry : Inquiry × Slot ValidationError KeySet Reply)
    (h : hasReturnedWith algorithm status entry = true) : hasReturned entry = true := by
  rcases returned_or_silent entry with ⟨_, _, _, rfl⟩ | _
  · rfl
  · unfold hasReturnedWith at h
    split at h
    · rfl
    · cases h

/-- What a fetch tells that is over. -/
def Provider.told (result : Fetched) : List Metric := [.fetch result.isOk]

/-- A fetch counts its outcome, and nothing before. -/
theorem Provider.tells_fetch (issuer : String) : (fetch issuer).Tells told [] := by
  have hconcluded (result : Except FetchError KeySet) : (concluded result).Tells told [] := by
    cases result <;> rfl
  refine ⟨rfl, fun answer => ?_⟩
  simp only
  split
  · exact hconcluded _
  · exact ⟨rfl, fun answer => hconcluded _⟩

/-- A validation counts nothing while it looks keys up. -/
theorem Validator.tells_lookUp {ρ : Type} {told : ρ → List Metric} (cache : String)
    (presentation : Presentation) {next : Validated → KeyCaller ρ} (retry : Retry)
    (window : Duration) (hnext : ∀ result, (next result).Tells Provider.told told []) :
    (lookUp cache presentation next retry window).Tells Provider.told told [] := by
  obtain ⟨after, heq, hafter⟩ := exists_lookUp_eq cache presentation next retry window
  rw [heq]
  refine ⟨rfl, Provider.tells_fetch _, fun id found => ?_⟩
  rcases hafter found with ⟨_, _, again, _, _, hretry, hmore⟩ | ⟨_, hlast⟩
  · simp only [hmore]
    exact tells_lookUp cache presentation again again.window hnext
  · simp only [hlast]
    exact hnext _
termination_by retry.left
decreasing_by exact Retry.left_lt_of_afterMiss? ‹_›

/-- Whoever asks counts what the answer tells, and nothing before. -/
theorem Inquiry.tells_caller (inquiry : Inquiry) :
    inquiry.caller.Tells Provider.told inquiry.told [] := by
  cases inquiry with
  | keys cache issuer window => exact ⟨rfl, Provider.tells_fetch issuer, fun _ _ => rfl⟩
  | assert validator presentation =>
    simp only [caller, Validator.assert, Validator.verify]
    split
    · rfl
    · split
      · rfl
      · exact Validator.tells_lookUp _ _ _ _ fun result => rfl

/-- When each of some values tells one metric of a kind or none, they tell as many of the kind as
there are values that tell one. -/
theorem countP_flatMap {β : Type} (kind : Metric → Bool) (tell : β → List Metric)
    (tells : β → Bool) (once : ∀ value, (tell value).countP kind = if tells value then 1 else 0)
    (values : List β) : (values.flatMap tell).countP kind = values.countP tells := by
  induction values with
  | nil => rfl
  | cons first rest ih =>
    rw [List.flatMap_cons, List.countP_append, once, ih, List.countP_cons, Nat.add_comm]

/-- Fetches that are over tell their outcome once each, and nothing else. -/
theorem countP_tales (caches : Caches ValidationError KeySet) (kind : Metric → Bool)
    (ended : Computation ValidationError KeySet → Bool)
    (once : ∀ computation, ended computation =
      (computation.job.result?.map fun result => kind (.fetch result.isOk)).getD false) :
    (caches.tales Provider.told).countP kind = caches.computations.countP ended := by
  have hflat : caches.tales Provider.told =
      caches.computations.flatMap (Computation.tale Provider.told) :=
    List.flatMap_assoc.symm
  rw [hflat]
  apply countP_flatMap
  intro computation
  rw [once]
  unfold Computation.tale tale
  cases computation.job.result? with
  | none => rfl
  | some result => exact List.countP_singleton

/-- What the counters show: exactly what is over, each once. -/
structure Metered (inquiries : List Inquiry) (history : History)
    (pipeline : Pipeline ValidationError KeySet Reply) (metrics : List Metric) : Prop where
  /-- Validations are counted by the algorithm that was required and by their outcome. -/
  validations : ∀ algorithm status, Metric.value metrics (.validation algorithm status) =
    (inquiries.zip pipeline.callers).countP (Inquiry.hasReturnedWith algorithm status)
  /-- Durations are recorded for all of them. -/
  durations : Metric.value metrics .duration =
    (inquiries.zip pipeline.callers).countP Inquiry.hasReturned
  /-- There are as many validations as durations. -/
  balanced : Metric.total metrics Metric.validationName = Metric.value metrics .duration
  /-- Fetches are counted by their outcome. -/
  fetches : ∀ isSuccess, Metric.value metrics (.fetch isSuccess) =
    pipeline.caches.computations.countP (Computation.hasEnded isSuccess)
  /-- The fetches are all that were ever started, whether or not they still have an entry. -/
  complete : ∀ cache, (pipeline.caches.named cache).stamps = history.starts cache
  /-- No cache is counted twice. -/
  distinct : pipeline.caches.names.Nodup

/-- Every cache has a name of its own. -/
def Chronicle.Distinct {ε α ρ : Type} (chronicle : Chronicle ε α ρ) : Prop :=
  chronicle.pipeline.caches.names.Nodup

theorem Chronicle.Distinct.move {ε α ρ : Type} {allowed : Event ε α ρ → Prop}
    {before after : Chronicle ε α ρ} (h : before.Distinct) (move : Move allowed before after) :
    after.Distinct := by
  obtain ⟨_, hchange, _⟩ := move.change
  unfold Distinct at h ⊢
  generalize after.pipeline.caches = caches at hchange ⊢
  cases hchange with
  | none | count => exact h
  | change => exact Keyed.nodup_names_put h _ _

/-- After every run every cache has a name of its own. -/
theorem Chronicle.distinct_extend {ε α ρ : Type} (documents : Documents)
    (events : List (Event ε α ρ)) : ((opened documents).extend events).Distinct :=
  invariant_run documents List.nodup_nil Distinct.move events fun _ _ => trivial

namespace Pipeline

variable {events : List (Event ValidationError KeySet Reply)} {inquiries : List Inquiry}

/-- What is counted after a run is told by the answers and by the fetches that are over. -/
theorem countP_metrics (documents : Documents)
    (asked : Event.started events = inquiries.map Inquiry.caller) (kind : Metric → Bool) :
    (Observation.metrics ((opened documents).run events).2).countP kind =
      ((inquiries.zip ((opened documents).run events).1.callers).flatMap
        fun entry => tale entry.1.told entry.2.result?).countP kind +
      (((opened documents).run events).1.caches.tales Provider.told).countP kind := by
  have hperm := perm_run Provider.told (inquiries.map Inquiry.told) documents events
    fun place caller hcaller => by
      rw [asked, List.getElem?_map] at hcaller
      obtain ⟨inquiry, hinquiry, rfl⟩ := Option.map_eq_some_iff.mp hcaller
      exact ⟨inquiry.told, by rw [List.getElem?_map, hinquiry]; rfl, inquiry.tells_caller⟩
  rw [hperm.countP_eq, tales, List.countP_append, List.zip_map_left, List.flatMap_map]
  rfl

/-- What no fetch counts is counted by the validations that have returned. -/
theorem countP_returned (documents : Documents)
    (asked : Event.started events = inquiries.map Inquiry.caller) (kind : Metric → Bool)
    (returned : Inquiry × Slot ValidationError KeySet Reply → Bool)
    (other : ∀ isSuccess, kind (.fetch isSuccess) = false)
    (only : ∀ entry, returned entry = true → Inquiry.hasReturned entry = true)
    (once : ∀ validator presentation result,
      ((Inquiry.assert validator presentation).told (.validated result)).countP kind =
        if returned (.assert validator presentation, .finished (.validated result)) then 1 else 0) :
    (Observation.metrics ((opened documents).run events).2).countP kind =
      (inquiries.zip ((opened documents).run events).1.callers).countP returned := by
  have hfetches := countP_tales ((opened documents).run events).1.caches kind (fun _ => false)
    fun computation => by cases computation.job.result? <;> simp [other]
  rw [countP_metrics documents asked, hfetches, List.countP_false, Function.const_apply,
    Nat.add_zero]
  apply countP_flatMap
  intro entry
  rcases Inquiry.returned_or_silent entry with ⟨validator, presentation, result, rfl⟩ |
    ⟨hnot, hsilent⟩
  · exact once validator presentation result
  · have hreturned : ¬ returned entry = true := fun h => by simp [only entry h] at hnot
    rw [hsilent, if_neg hreturned]
    rfl

/-- What is counted of fetches is counted by those that are over. -/
theorem countP_ended (documents : Documents)
    (asked : Event.started events = inquiries.map Inquiry.caller) (isSuccess : Bool) :
    (Observation.metrics ((opened documents).run events).2).count (.fetch isSuccess) =
      ((opened documents).run events).1.caches.computations.countP
        (Computation.hasEnded isSuccess) := by
  have hfetches := countP_tales ((opened documents).run events).1.caches (· == .fetch isSuccess)
    (Computation.hasEnded isSuccess) fun computation => by
      unfold Computation.hasEnded
      cases computation.job.result? with
      | none => rfl
      | some result => simp [beq_eq_decide]
  rw [List.count_eq_countP, countP_metrics documents asked, hfetches, Nat.add_eq_right]
  refine (countP_flatMap _ _ (fun _ => false) (fun entry => ?_) _).trans (by simp)
  rcases Inquiry.returned_or_silent entry with ⟨_, _, _, rfl⟩ | ⟨_, hsilent⟩
  · rfl
  · rw [hsilent]
    rfl

/-- After every run of those who ask the counters show exactly what is over. -/
theorem metered (documents : Documents)
    (asked : Event.started events = inquiries.map Inquiry.caller) :
    Metered inquiries ((opened documents).history events) ((opened documents).run events).1
      (Observation.metrics ((opened documents).run events).2) := by
  have hdurations := countP_returned documents asked (· == .duration) Inquiry.hasReturned
    (fun _ => rfl) (fun _ h => h) fun _ _ _ => rfl
  have htotal := countP_returned documents asked
    (fun metric => metric.name = Metric.validationName) Inquiry.hasReturned
    (fun isSuccess => by cases isSuccess <;> decide) (fun _ h => h) fun _ _ _ => by
      have hother : ¬ Metric.durationName = Metric.validationName := by decide
      simp [Inquiry.told, Metric.name, Inquiry.hasReturned, hother]
  refine ⟨fun algorithm status => ?_, ?_, ?_, fun isSuccess => ?_, stamps_run documents events,
    Chronicle.distinct_extend documents events⟩
  · rw [Metric.value_eq]
    refine countP_returned documents asked _ _ (fun _ => rfl) Inquiry.hasReturned_of_with ?_
    intro validator presentation result
    simp [Inquiry.told, Inquiry.hasReturnedWith]
  · rw [Metric.value_eq]
    exact hdurations
  · rw [Metric.value_eq, Metric.total_eq, htotal]
    exact hdurations.symm
  · rw [Metric.value_eq]
    exact countP_ended documents asked isSuccess

/-- Two validations and a lookup of keys while the issuer is slow to answer that it has none: one of
the validations is dropped, and the other two share a fetch that fails. -/
theorem metered_shared :
    let issuer := "https://login.example"
    let assert : Inquiry := .assert ⟨.default, "keys"⟩
      { requirements := {
          algorithm := .rs256, issuer, audience := "c", nonce := none, maxAge := none
          leeway := .ofSeconds 60, organization := none
          issuer_nonBlank := by decide, audience_nonBlank := by decide
          nonce_nonBlank := by simp, organization_nonBlank := by simp }
        token := "a.b.c", secret := none, now := 0 }
    let inquiries := [assert, .keys "keys" issuer (.ofSeconds 600), assert]
    let events : List (Event ValidationError KeySet Reply) :=
      .publish (Provider.discoveryUrl issuer) ⟨.status 404, 1000⟩ ::
        inquiries.map (.start ·.caller) ++
        [.poll 0, .poll 1, .poll 2, .drop 2, .pass 1000, .poll 0, .poll 1]
    let last := (opened []).run events
    let metrics := Observation.metrics last.2
    Metric.value metrics (.validation .rs256 "key_retrieval") = 1 ∧
      Metric.value metrics .duration = 1 ∧ Metric.value metrics (.fetch false) = 1 ∧
      Metered inquiries ((opened []).history events) last.1 metrics := by
  intro issuer assert inquiries events last metrics
  have hcounted : Metric.value metrics (.validation .rs256 "key_retrieval") = 1 ∧
      Metric.value metrics .duration = 1 ∧ Metric.value metrics (.fetch false) = 1 := by
    decide +kernel
  exact ⟨hcounted.1, hcounted.2.1, hcounted.2.2, metered [] rfl⟩

end Pipeline

end RelyingParty
