import RelyingParty.Proofs.Run.Ahead
import RelyingParty.Schedule

/-!
# Prompt runs

Runs in which nobody waits longer than necessary: time passes, and documents change, only when
everything that a caller waits for is over or waits for a later moment itself. That is so when all
callers have been polled, and every schedule is therefore such a run.
-/

namespace RelyingParty

variable {ε α ρ : Type}

/-- A job that has been polled is over, or waits for a later moment. -/
theorem Job.rests_poll (now : Nat) (documents : Documents) (job : Job α) :
    (job.poll now documents).1.Rests now := by
  induction job with
  | done result => exact Or.inl ⟨result, rfl⟩
  | delay length next ih =>
    simp only [poll]
    split
    · exact ih
    · exact Or.inr ⟨now + length, rfl, by omega⟩
  | sleeping wake next ih =>
    simp only [poll]
    split
    · exact ih
    · exact Or.inr ⟨wake, rfl, by omega⟩
  | request url next ih =>
    simp only [poll]
    split
    · exact ih _
    · exact Or.inr ⟨now + (documents.document url).delay, rfl, by omega⟩
  | record metric next ih => exact ih

/-- What a caller waits for is over, or waits for a later moment itself. -/
def Caller.Idle (now : Nat) (caches : Caches ε α) : Caller ε α ρ → Prop
  | .awaiting name _ id _ => ∀ computation : Computation ε α,
    (caches.named name).computations[id]? = some computation → computation.job.Rests now
  | _ => True

/-- Every computation of caches is as it was before, or can do nothing at the moment. -/
def Caches.Attends (now : Nat) (caches next : Caches ε α) : Prop :=
  ∀ (name : String) (id : Nat) (computation : Computation ε α),
    (next.named name).computations[id]? = some computation →
    (caches.named name).computations[id]? = some computation ∨ computation.job.Rests now

section

variable {now : Nat} {documents : Documents} {caches middle next : Caches ε α}

namespace Caches

theorem Attends.refl (now : Nat) (caches : Caches ε α) : caches.Attends now caches :=
  fun _ _ _ found => Or.inl found

theorem Attends.trans (first : caches.Attends now middle) (last : middle.Attends now next) :
    caches.Attends now next := by
  intro name id computation hfound
  rcases last name id computation hfound with hmiddle | hrests
  · exact first name id computation hmiddle
  · exact Or.inr hrests

/-- Who is idle stays idle. -/
theorem Attends.idle (h : caches.Attends now next) {caller : Caller ε α ρ}
    (idle : caller.Idle now caches) : caller.Idle now next := by
  cases caller with
  | awaiting name key id rest =>
    intro computation hfound
    exact (h name id computation hfound).elim (idle computation) fun rests => rests
  | done | record | lookup => trivial

/-- Waiting for a computation takes it as far as it comes, and leaves all others alone. -/
theorem computation_await {name key other : String} {id place : Nat}
    {computation : Computation ε α}
    (found : ((caches.await now documents name key id).caches.named other).computations[place]? =
      some computation) :
    computation.job.Rests now ∨
      ¬ (other = name ∧ place = id) ∧
        (caches.named other).computations[place]? = some computation := by
  rw [computations_await] at found
  split at found
  · next hname =>
    subst hname
    rw [AgedCache.getElem?_computations_poll] at found
    obtain ⟨earlier, hearlier, rfl⟩ := Option.map_eq_some_iff.mp found
    by_cases hplace : id = place
    · rw [if_pos hplace]
      exact Or.inl (earlier.job.rests_poll now documents)
    · rw [if_neg hplace]
      exact Or.inr ⟨fun h => hplace h.2.symm, hearlier⟩
  · next hname => exact Or.inr ⟨fun h => hname h.1, found⟩

theorem attends_await (name key : String) (id : Nat) :
    caches.Attends now (caches.await now documents name key id).caches :=
  fun _ _ _ found => (computation_await found).symm.imp_left And.right

/-- A lookup leaves all computations alone but the one that it finds. -/
theorem computation_lookup {name key other : String} {window : Duration} {job : Job (Except ε α)}
    {place : Nat} {computation : Computation ε α}
    (found : (named (Keyed.put name ((caches.named name).lookup now key window job).cache caches)
      other).computations[place]? = some computation) :
    (caches.named other).computations[place]? = some computation ∨
      other = name ∧ place = ((caches.named name).lookup now key window job).id := by
  cases hearlier : (caches.named other).computations[place]? with
  | none =>
    obtain ⟨hname, _, hid, _⟩ := computation_of_lookup hearlier found
    exact Or.inr ⟨hname, hid.symm⟩
  | some earlier =>
    rw [named_put] at found
    split at found
    · next hname =>
      subst hname
      rw [AgedCache.computations_lookup,
        List.getElem?_append_left (List.getElem?_eq_some_iff.mp hearlier).1, hearlier] at found
      exact Or.inl found
    · exact Or.inl (hearlier.symm.trans found)

end Caches

/-- A poll takes what the caller waits for as far as it comes, as it does with everything that it
changes. -/
theorem Caller.attends_poll (now : Nat) (documents : Documents) (caller : Caller ε α ρ)
    (caches : Caches ε α) :
    caches.Attends now (caller.poll now documents caches).caches ∧
      (caller.poll now documents caches).caller.Idle now
        (caller.poll now documents caches).caches := by
  -- a lookup is followed by the wait for what it has found, so waiting is settled apart
  have hawait (name key : String) (id : Nat) (next : Nat → Except ε α → Caller ε α ρ)
      (ih : ∀ id result (caches : Caches ε α),
        caches.Attends now ((next id result).poll now documents caches).caches ∧
          ((next id result).poll now documents caches).caller.Idle now
            ((next id result).poll now documents caches).caches)
      (caches : Caches ε α) :
      (caches.await now documents name key id).caches.Attends now
          ((awaiting name key id next).poll now documents caches).caches ∧
        ((awaiting name key id next).poll now documents caches).caller.Idle now
          ((awaiting name key id next).poll now documents caches).caches := by
    simp only [poll]
    split
    · next result _ => exact ih id result _
    · refine ⟨.refl now _, fun computation hfound => ?_⟩
      exact (Caches.computation_await hfound).resolve_right fun h => h.1 ⟨rfl, rfl⟩
  induction caller generalizing caches with
  | done result => exact ⟨.refl now caches, trivial⟩
  | record metric next ih => exact ih caches
  | lookup name key window job next ih =>
    rw [poll_lookup]
    obtain ⟨hattends, hidle⟩ := hawait name key
      ((caches.named name).lookup now key window job).id next ih
      (Keyed.put name ((caches.named name).lookup now key window job).cache caches)
    refine ⟨Caches.Attends.trans ?_ hattends, hidle⟩
    intro other place computation hfound
    -- what the lookup has started has gone on by now
    rcases Caches.computation_await hfound with hrests | ⟨hother, hlookup⟩
    · exact Or.inr hrests
    · exact Or.inl ((Caches.computation_lookup hlookup).resolve_right hother)
  | awaiting name key id next ih =>
    obtain ⟨hattends, hidle⟩ := hawait name key id next ih caches
    exact ⟨(Caches.attends_await name key id).trans hattends, hidle⟩

end

/-- Whether time passes in an event, or documents change. -/
def Event.isOuter : Event ε α ρ → Bool
  | pass _ => true
  | publish .. => true
  | withdraw _ => true
  | _ => false

namespace Pipeline

/-- A caller that is running is idle. -/
def IdleAt (pipeline : Pipeline ε α ρ) (place : Nat) : Prop :=
  ∀ caller : Caller ε α ρ, pipeline.callers[place]? = some (.running caller) →
    caller.Idle pipeline.clock pipeline.caches

/-- All callers that are running are idle. -/
def Settled (pipeline : Pipeline ε α ρ) : Prop :=
  ∀ place, pipeline.IdleAt place

/-- Time passes, and documents change, only when all callers are idle. -/
def Prompt : Pipeline ε α ρ → List (Event ε α ρ) → Prop
  | _, [] => True
  | pipeline, event :: events =>
    (event.isOuter = true → pipeline.Settled) ∧ (pipeline.step event).1.Prompt events

variable {pipeline : Pipeline ε α ρ}

theorem run_append (pipeline : Pipeline ε α ρ) (first last : List (Event ε α ρ)) :
    pipeline.run (first ++ last) =
      (((pipeline.run first).1.run last).1,
        (pipeline.run first).2 ++ ((pipeline.run first).1.run last).2) := by
  induction first generalizing pipeline with
  | nil => rfl
  | cons event rest ih => simp only [List.cons_append, run, ih, List.append_assoc]

theorem Prompt.append {first last : List (Event ε α ρ)} (h : pipeline.Prompt first)
    (later : (pipeline.run first).1.Prompt last) : pipeline.Prompt (first ++ last) := by
  induction first generalizing pipeline with
  | nil => exact later
  | cons event rest ih => exact ⟨h.1, ih h.2 later⟩

/-- A caller that is polled is idle then, and others stay idle. -/
theorem idleAt_pollCaller {place other : Nat} (h : place = other ∨ pipeline.IdleAt place) :
    (pipeline.pollCaller other).1.IdleAt place := by
  by_cases hrunning : ∃ running, pipeline.callers[other]? = some (.running running)
  · obtain ⟨running, hslot⟩ := hrunning
    obtain ⟨hattends, hidle⟩ :=
      running.attends_poll pipeline.clock pipeline.documents pipeline.caches
    rw [pollCaller_of_running hslot]
    intro caller hcaller
    by_cases hplace : place = other
    · subst hplace
      have hid := (List.getElem?_eq_some_iff.mp hslot).1
      simp only [arrived, List.getElem?_set_self hid, Option.some.injEq] at hcaller
      split at hcaller
      · cases hcaller
      · obtain rfl := Slot.running.inj hcaller
        exact hidle
    · simp only [arrived, List.getElem?_set_ne (Ne.symm hplace)] at hcaller
      exact hattends.idle (h.resolve_left hplace caller hcaller)
  · have hnothing : pipeline.pollCaller other = (pipeline, []) := by
      unfold pollCaller
      split
      · next running hslot => exact absurd ⟨running, hslot⟩ hrunning
      · rfl
    rw [hnothing]
    rcases h with rfl | hidle
    · exact fun caller hcaller => absurd ⟨caller, hcaller⟩ hrunning
    · exact hidle

/-- Callers that are polled one after the other are all idle then. -/
theorem idleAt_run_polls {place : Nat} {ids : List Nat}
    (h : place ∈ ids ∨ pipeline.IdleAt place) :
    (pipeline.run (ids.map .poll)).1.IdleAt place := by
  induction ids generalizing pipeline with
  | nil => exact h.resolve_left List.not_mem_nil
  | cons id rest ih =>
    refine ih ?_
    rcases h with hmember | hidle
    · rcases List.mem_cons.mp hmember with hid | hrest
      · exact Or.inr (idleAt_pollCaller (Or.inl hid))
      · exact Or.inl hrest
    · exact Or.inr (idleAt_pollCaller (Or.inr hidle))

theorem prompt_polls (pipeline : Pipeline ε α ρ) (ids : List Nat) :
    Prompt pipeline (ids.map .poll) := by
  induction ids generalizing pipeline with
  | nil => trivial
  | cons id rest ih =>
    refine ⟨fun outer => ?_, ih _⟩
    cases outer

theorem length_callers_polls (pipeline : Pipeline ε α ρ) (ids : List Nat) :
    (pipeline.run (ids.map .poll)).1.callers.length = pipeline.callers.length := by
  induction ids generalizing pipeline with
  | nil => rfl
  | cons id rest ih =>
    simp only [List.map_cons, run, step, ih]
    unfold pollCaller
    split
    · exact List.length_set
    · rfl

/-- When all callers have been polled, all of them are idle. -/
theorem settled_polls (first : List Nat) (pipeline : Pipeline ε α ρ) :
    (pipeline.run (pipeline.polls first)).1.Settled := by
  intro place caller running
  have hplace := (List.getElem?_eq_some_iff.mp running).1
  rw [polls, length_callers_polls] at hplace
  have hmember : place ∈ first ++ List.range pipeline.callers.length :=
    List.mem_append_right first (List.mem_range.mpr hplace)
  exact idleAt_run_polls (Or.inl hmember) caller running

/-- No caller waits for a moment before the first. -/
theorem exists_nextWake?_le {place wake : Nat} (h : pipeline.wake? place = some wake) :
    ∃ next, pipeline.nextWake? = some next ∧ next ≤ wake := by
  have hplace : place < pipeline.callers.length := by
    by_contra hlater
    simp [wake?, Nat.not_lt.mp hlater] at h
  have hmember : wake ∈ (List.range pipeline.callers.length).filterMap pipeline.wake? :=
    List.mem_filterMap.mpr ⟨place, List.mem_range.mpr hplace, h⟩
  cases hnext : pipeline.nextWake? with
  | none =>
    rw [List.min?_eq_none_iff.mp hnext] at hmember
    cases hmember
  | some next => exact ⟨next, rfl, (List.min?_eq_some_iff.mp hnext).2 wake hmember⟩

/-- If all callers are idle, nobody waits for a moment that has come. -/
theorem Settled.lt_nextWake? (h : pipeline.Settled) {next : Nat}
    (first : pipeline.nextWake? = some next) : pipeline.clock < next := by
  obtain ⟨place, _, hwake⟩ := List.mem_filterMap.mp (List.min?_mem first)
  unfold wake? at hwake
  split at hwake
  · next caller running =>
    cases caller with
    | awaiting name key id rest =>
      obtain ⟨computation, hfound, hwake⟩ := Option.bind_eq_some_iff.mp hwake
      rcases h place _ running computation hfound with ⟨result, hdone⟩ | ⟨wake, hsame, hlater⟩
      · rw [hdone] at hwake
        cases hwake
      · obtain rfl := Option.some.inj (hsame.symm.trans hwake)
        exact hlater
    | done | record | lookup => cases hwake
  · cases hwake

/-- Idle callers stay idle until the first moment for which one waits. -/
theorem Settled.pass (h : pipeline.Settled) {length : Nat}
    (early : ∀ next, pipeline.nextWake? = some next → pipeline.clock + length < next) :
    (pipeline.step (.pass length)).1.Settled := by
  intro place caller running
  have hidle := h place caller running
  cases caller with
  | awaiting name key id rest =>
    intro computation hfound
    rcases hidle computation hfound with hdone | ⟨wake, hwake, _⟩
    · exact Or.inl hdone
    · have running : pipeline.callers[place]? = some (.running (.awaiting name key id rest)) :=
        running
      have hfound : (pipeline.caches.named name).computations[id]? = some computation := hfound
      have hplace : pipeline.wake? place = some wake := by
        simp only [wake?, running, Caller.wake?, hfound, Option.bind_some, hwake]
      obtain ⟨next, hnext, hle⟩ := exists_nextWake?_le hplace
      exact Or.inr ⟨wake, hwake, Nat.lt_of_lt_of_le (early next hnext) hle⟩
  | done | record | lookup => trivial

/-- If all callers are idle they still are when one is dropped. -/
theorem Settled.drop (h : pipeline.Settled) (id : Nat) :
    (pipeline.step (.drop id)).1.Settled := by
  intro place caller running
  simp only [step] at running ⊢
  unfold dropCaller at running ⊢
  split at running
  · rw [List.getElem?_set] at running
    split at running
    · split at running <;> cases running
    · exact h place caller running
  · exact h place caller running

/-- A schedule is a prompt run, after which all callers are idle again. -/
theorem exists_prompt_advance (first : List Nat) (target : Nat) (settled : pipeline.Settled) :
    ∃ events, pipeline.advance first target = pipeline.run events ∧ pipeline.Prompt events ∧
      (pipeline.run events).1.Settled := by
  fun_induction advance first target pipeline with
  | case1 pipeline hnone =>
    refine ⟨[.pass (target - pipeline.clock)], rfl, ⟨fun _ => settled, trivial⟩, ?_⟩
    exact settled.pass fun next hnext => by simp [hnone] at hnext
  | case2 pipeline wake _ _ next last ih =>
    obtain ⟨later, hlast, hlater, hend⟩ := ih (settled_polls first _)
    let events := .pass (wake - pipeline.clock) :: pipeline.polls first
    have hprompt : pipeline.Prompt events := ⟨fun _ => settled, prompt_polls _ _⟩
    refine ⟨events ++ later, ?_, hprompt.append hlater, ?_⟩
    · rw [run_append]
      simp only [last, hlast]
      rfl
    · rw [run_append]
      exact hend
  | case3 pipeline wake hwake hlate =>
    refine ⟨[.pass (target - pipeline.clock)], rfl, ⟨fun _ => settled, trivial⟩, ?_⟩
    have hlater := settled.lt_nextWake? hwake
    refine settled.pass fun next hnext => ?_
    obtain rfl := Option.some.inj (hwake.symm.trans hnext)
    omega

/-- A schedule until a caller is done is a prompt run. -/
theorem exists_prompt_finish (first : List Nat) (id waits : Nat) (settled : pipeline.Settled) :
    ∃ events, pipeline.finish first id waits = pipeline.run events ∧ pipeline.Prompt events := by
  induction waits generalizing pipeline with
  | zero => exact ⟨[], rfl, trivial⟩
  | succ waits ih =>
    simp only [finish]
    split
    · exact ⟨[], rfl, trivial⟩
    · next wake _ =>
      obtain ⟨before, hbefore, hprompt, hsettled⟩ := exists_prompt_advance first wake settled
      rw [← hbefore] at hsettled
      obtain ⟨later, hlater, hlast⟩ := ih hsettled
      refine ⟨before ++ later, ?_, hprompt.append ?_⟩
      · rw [run_append, hlater, ← hbefore]
      · rw [← hbefore]
        exact hlast

end Pipeline

end RelyingParty
