import RelyingParty.Proofs.Run.Provenance

/-!
# What callers are bound to look up

What a caller looks up may not depend on what it finds: its lookups then follow a plan, which may
end early but is never left. After every run a caller has looked up the first parts of its plan in
their order, whatever has become of it: it may still be running, be over or have been dropped.
-/

namespace RelyingParty

variable {ε α ρ : Type}

/-- What a lookup asks for: a cache, a key, and how old the entry may be. -/
def Lookup.wanted (lookup : Lookup) : String × String × Duration :=
  (lookup.cache, lookup.key, lookup.window)

namespace Caller

/-- Whatever a caller finds, its lookups are the first of a plan. -/
def Follows : Caller ε α ρ → List (String × String × Duration) → Prop
  | .done _, _ => True
  | .record _ next, plan => next.Follows plan
  | .lookup cache key window _ next, plan =>
    ∃ later, plan = (cache, key, window) :: later ∧ ∀ id result, (next id result).Follows later
  | .awaiting _ _ _ next, plan => ∀ id result, (next id result).Follows plan

variable {program left : Caller ε α ρ} {plan : List (String × String × Duration)}

/-- What is left of a caller follows what is left of its plan. -/
theorem Follows.leads {findings : Findings ε α} (h : program.Follows plan)
    (leads : program.Leads findings left) :
    ∃ later, plan = findings.map (fun finding => finding.1.wanted) ++ later ∧
      left.Follows later := by
  induction leads generalizing plan with
  | refl caller => exact ⟨plan, rfl, h⟩
  | record _ ih => exact ih h
  | lookup _ ih =>
    obtain ⟨rest, rfl, hnext⟩ := h
    obtain ⟨later, rfl, hleft⟩ := ih (hnext _ _)
    exact ⟨later, rfl, hleft⟩
  | resume _ ih => exact ih (h _ _)

/-- The lookups that a caller has made are the first of its plan. -/
theorem Came.follows {caches : Caches ε α} {lookups : List Lookup} (h : program.Follows plan)
    (came : program.Came caches lookups left) : lookups.map Lookup.wanted <+: plan := by
  cases came with
  | informed leads gave =>
    obtain ⟨later, rfl, -⟩ := h.leads leads
    rw [List.map_map]
    exact List.prefix_append _ _
  | waiting leads gave =>
    obtain ⟨later, rfl, rest, rfl, -⟩ := h.leads leads
    rw [List.map_append, List.map_map]
    exact ⟨rest, List.append_assoc _ _ _⟩

end Caller

namespace Chronicle

variable {before after : Chronicle ε α ρ}

/-- Every caller that was started has gone its way, be it that it was dropped on it. -/
structure Remembered (chronicle : Chronicle ε α ρ) : Prop extends chronicle.Accounted where
  /-- The lookups of a caller are those on the way that was laid down for it. -/
  way : ∀ (id : Nat) (program : Caller ε α ρ), chronicle.started[id]? = some program →
    ∃ left, program.Came chronicle.pipeline.caches (chronicle.history.lookupsBy id) left

theorem remembered_opened (documents : Documents) :
    (opened documents : Chronicle ε α ρ).Remembered where
  toAccounted := accounted_opened documents
  way id program hstarted := by simp [opened] at hstarted

/-- A move that is not a step of the caller adds no lookup to those it has made. -/
theorem Move.lookupsBy {allowed : Event ε α ρ → Prop} (move : Move allowed before after) {id : Nat}
    (idle : ∀ caller, after.pipeline.callers[id]? ≠ some (.running caller)) :
    after.history.lookupsBy id = before.history.lookupsBy id := by
  cases move with
  | event event _ quiet => exact before.lookupsBy_extend_quiet event quiet id
  | finish => rfl
  | @step caller current polled running step =>
    have hid : caller ≠ id := by
      rintro rfl
      have hlength := (List.getElem?_eq_some_iff.mp running).1
      exact idle polled.caller (by simp only [advance, List.getElem?_set_self hlength])
    simp only [advance, Pipeline.stamp, History.lookupsBy_append, History.lookupsBy_of_ne _ hid,
      List.append_nil]

/-- A move leaves all callers on their ways. -/
theorem Remembered.move {allowed : Event ε α ρ → Prop} (h : before.Remembered)
    (move : Move allowed before after) : after.Remembered where
  toAccounted := h.toAccounted.move move
  way id program hstarted := by
    have hafter := (h.toAccounted.move move).toEnrolled
    have hid := (List.getElem?_eq_some_iff.mp hstarted).1
    rw [← hafter.numbered] at hid
    have hslot := List.getElem?_eq_getElem hid
    cases hleft : after.pipeline.callers[id].left? with
    | some left =>
      -- a caller that is running or over is where its slot says
      obtain ⟨other, hother, hcame⟩ := hafter.came id _ left hslot hleft
      obtain rfl := Option.some.inj (hstarted.symm.trans hother)
      exact ⟨left, hcame⟩
    | none =>
      have idle : ∀ caller, after.pipeline.callers[id]? ≠ some (.running caller) := by
        intro caller hrunning
        rw [hslot] at hrunning
        rw [Option.some.inj hrunning] at hleft
        cases hleft
      obtain ⟨_, _, hgoOn, _⟩ := move.progress
      obtain ⟨more, hmore⟩ := move.started
      rw [move.lookupsBy idle]
      rw [hmore] at hstarted
      by_cases hold : id < before.started.length
      · rw [List.getElem?_append_left hold] at hstarted
        obtain ⟨left, hcame⟩ := h.way id program hstarted
        exact ⟨left, hcame.goOn hgoOn⟩
      · rw [h.unstarted id (by omega)]
        exact ⟨program, .informed (.refl program) fun _ _ hmember => absurd hmember List.not_mem_nil⟩

/-- After every run all callers have gone their ways. -/
theorem remembered_extend (documents : Documents) (events : List (Event ε α ρ)) :
    ((opened documents).extend events).Remembered :=
  invariant_run documents (remembered_opened documents) Remembered.move events fun _ _ => trivial

end Chronicle

/-- In every run a caller that follows a plan looks up the first parts of it, and nothing else. -/
theorem Pipeline.follows {documents : Documents} {events : List (Event ε α ρ)} {caller : Nat}
    {program : Caller ε α ρ} (started : (Event.started events)[caller]? = some program)
    {plan : List (String × String × Duration)} (h : program.Follows plan) :
    (((opened documents).history events).lookupsBy caller).map Lookup.wanted <+: plan := by
  have hremembered := Chronicle.remembered_extend documents events
  simp only [Chronicle.extend, Chronicle.opened, List.nil_append] at hremembered
  obtain ⟨left, hcame⟩ := hremembered.way caller program started
  exact Caller.Came.follows h hcame

end RelyingParty
