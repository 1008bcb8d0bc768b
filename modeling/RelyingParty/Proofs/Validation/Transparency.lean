import RelyingParty.Proofs.Validation.Inquiry

/-!
# Transparency

As long as every document stays as it is, nobody can tell that keys are kept: a validation comes to
what it would come to if the keys were fetched for it alone, and so does an inquiry for keys,
whatever was looked up before, whoever else was waiting, and however long anything took.
-/

namespace RelyingParty

open Text

/-- At each URL there is a given answer. -/
def Documents.Give (documents : Documents) (answers : String → Answer) : Prop :=
  ∀ url, (documents.document url).answer = answers url

/-- What happens leaves the answer at each URL as it is. -/
def Event.Steady {ε α ρ : Type} (answers : String → Answer) : Event ε α ρ → Prop
  | .publish url document => document.answer = answers url
  | .withdraw url => Document.absent.answer = answers url
  | _ => True

/-- What a validation comes to when the keys are fetched for it alone. -/
def Validator.direct (retrieve : String → Except RetrievalError String)
    (presentation : Presentation) : Validated :=
  if isBlank presentation.token then .error missingToken
  else
    match presentation.requirements.algorithm with
    | .hs256 => symmetric presentation
    | .rs256 =>
      verdict presentation
        ((Provider.fetch presentation.requirements.issuer).complete retrieve).1

/-- A reply is what comes of an inquiry when the keys are fetched for it alone. -/
def Inquiry.Direct (retrieve : String → Except RetrievalError String) (inquiry : Inquiry)
    (reply : Reply) : Prop :=
  match inquiry with
  | assert _ presentation => reply = .validated (Validator.direct retrieve presentation)
  | keys cache issuer _ =>
    ∃ id, reply = .keys cache id ((Provider.fetch issuer).complete retrieve).1

namespace Chronicle

variable {ε α ρ : Type} {answers : String → Answer}

/-- The answers have been the same all the time. -/
structure Steady (answers : String → Answer) (chronicle : Chronicle ε α ρ) : Prop where
  /-- They are now. -/
  now : chronicle.pipeline.documents.Give answers
  /-- They were whenever something happened. -/
  past : ∀ record ∈ chronicle.history, record.documents.Give answers

/-- A move by which the answers stay the same leaves them as they are. -/
theorem Steady.move {before after : Chronicle ε α ρ} (h : before.Steady answers)
    (move : Move (Event.Steady answers) before after) : after.Steady answers := by
  obtain ⟨happenings, _, hhistory, _⟩ := move.change
  refine ⟨?_, ?_⟩
  · cases move with
    | step | finish => exact h.now
    | event event permitted quiet =>
      cases event with
      | poll id => exact absurd rfl (quiet id)
      | drop id =>
        obtain ⟨callers, hdrop⟩ := before.pipeline.dropCaller_eq id
        simp only [extend, Pipeline.run, Pipeline.step, hdrop]
        exact h.now
      | publish url document =>
        intro other
        simp only [extend, Pipeline.run, Pipeline.step, Documents.document, Keyed.find?_put]
        split
        · next heq =>
          rw [heq]
          exact permitted
        · exact h.now other
      | withdraw url =>
        intro other
        simp only [extend, Pipeline.run, Pipeline.step, Documents.document, Keyed.find?_erase]
        split
        · next heq =>
          rw [heq]
          exact permitted
        · exact h.now other
      | start | pass | invalidate | clear => exact h.now
  · intro record hrecord
    rw [hhistory, List.mem_append] at hrecord
    rcases hrecord with hold | hnew
    · exact h.past record hold
    · obtain ⟨happening, _, rfl⟩ := List.mem_map.mp hnew
      exact h.now

/-- The answers stay the same in a run of events that leave them so. -/
theorem steady_extend {documents : Documents} (given : documents.Give answers)
    {events : List (Event ε α ρ)} (permitted : ∀ event ∈ events, event.Steady answers) :
    ((opened documents).extend events).Steady answers :=
  invariant_run documents ⟨given, fun _ h => absurd h List.not_mem_nil⟩ Steady.move events permitted

/-- What came of a request is what always comes of it. -/
theorem Steady.asked {chronicle : Chronicle ε α ρ} (h : chronicle.Steady answers)
    {before after : History} (heq : chronicle.history = before ++ after) :
    ∀ asked ∈ after.asked, asked.2 = (answers asked.1).result asked.1 := by
  intro asked hasked
  obtain ⟨record, hmember, hrequest⟩ := List.mem_filterMap.mp hasked
  have hrecord : record ∈ chronicle.history := by
    rw [heq]
    exact List.mem_append_right _ hmember
  unfold Record.asked? at hrequest
  split at hrequest
  · next url _ =>
    obtain rfl := Option.some.inj hrequest
    simp only [Documents.retrieve, h.past record hrecord url]
  · cases hrequest

/-- While the answers stay the same, every lookup of an issuer that gives something gives what a
fetch from it comes to. -/
theorem Steady.found {chronicle : Chronicle ValidationError KeySet Reply}
    (h : chronicle.Steady answers) (accounted : chronicle.Accounted) (booked : chronicle.Booked)
    (asking : ∀ caller ∈ chronicle.started, ∃ inquiry : Inquiry, caller = inquiry.caller)
    {caller : Nat} {findings : Findings ValidationError KeySet}
    (made : chronicle.history.lookupsBy caller = findings.map Prod.fst)
    (gave : chronicle.pipeline.caches.Gave findings) {lookup : Lookup} {found : Provider.Fetched}
    (member : (lookup, found) ∈ findings) :
    found = ((Provider.fetch lookup.key).complete fun url => (answers url).result url).1 := by
  obtain ⟨_, _, _, before, start, after, asked, heq, _, _, _, hleads, hasked⟩ :=
    accounted.fetched booked asking made gave member
  -- every answer that the fetch got is the one that it always gets
  have hsplit : chronicle.history = (before ++ [start]) ++ after := by simpa using heq
  have hfixed := h.asked hsplit
  exact hleads.complete_eq fun answer hmember => hfixed answer (hasked.subset hmember)

end Chronicle

/-- When the first keys lack the one for the token, the same keys cannot have it. -/
theorem Validator.Judges.eq_direct {validator : Validator} {presentation : Presentation}
    {findings : Findings ValidationError KeySet} {result : Validated}
    (h : validator.Judges presentation findings result)
    {retrieve : String → Except RetrievalError String}
    (same : ∀ lookup found, (lookup, found) ∈ findings →
      found = ((Provider.fetch lookup.key).complete retrieve).1) :
    result = Validator.direct retrieve presentation := by
  unfold direct
  cases h with
  | missing blank => rw [if_pos blank]
  | symmetric given algorithm => simp only [given, algorithm, Bool.false_eq_true, if_false]
  | @once given algorithm lookup found seeks settles =>
    have hfound := same lookup found List.mem_cons_self
    rw [seeks.2.1] at hfound
    simp only [given, algorithm, Bool.false_eq_true, if_false, hfound]
  | @twice given algorithm first last keys found kid seeks lacks seeksAgain =>
    have hfound := same last found (List.mem_cons_of_mem _ List.mem_cons_self)
    rw [seeksAgain.2.1] at hfound
    simp only [given, algorithm, Bool.false_eq_true, if_false, hfound]

/-- While every document stays as it is, whatever is asked comes to what it would come to if the
keys were fetched for it alone. -/
theorem Pipeline.transparent {answers : String → Answer} {documents : Documents}
    (given : documents.Give answers) {events : List (Event ValidationError KeySet Reply)}
    (inquires : ∀ event ∈ events, event.Inquires) (steady : ∀ event ∈ events, event.Steady answers)
    {caller : Nat} {inquiry : Inquiry} {reply : Reply}
    (asked : (Event.started events)[caller]? = some inquiry.caller)
    (ended : ((opened documents).run events).1.callers[caller]? = some (.finished reply)) :
    inquiry.Direct (fun url => (answers url).result url) reply := by
  have hsteady := Chronicle.steady_extend given steady
  have haccounted := Chronicle.accounted_extend documents events
  have hbooked := Chronicle.booked_extend documents events
  have hasking := Event.asking_started inquires
  simp only [Chronicle.extend, Chronicle.opened, List.nil_append] at hsteady haccounted hbooked
  obtain ⟨program, findings, hprogram, hleads, hmade, hgave⟩ := haccounted.finished ended
  obtain rfl := Option.some.inj (hprogram.symm.trans asked)
  have hfound : ∀ lookup found, (lookup, found) ∈ findings → found =
      ((Provider.fetch lookup.key).complete fun url => (answers url).result url).1 :=
    fun _ _ => hsteady.found haccounted hbooked hasking hmade hgave
  cases inquiry with
  | assert validator presentation =>
    obtain ⟨result, rfl, hjudges⟩ := Validator.judges_of_leads hleads
    exact congrArg Reply.validated (hjudges.eq_direct hfound)
  | keys cache issuer window =>
    cases hleads with
    | @lookup _ _ _ _ id isNew found _ _ rest hrest =>
      obtain ⟨_, hreply⟩ := hrest.of_done
      obtain rfl := hfound _ found List.mem_cons_self
      exact ⟨id, Caller.done.inj hreply⟩

/-- A validation that waits for keys beside an inquiry for them, whose entry is taken away. -/
theorem Pipeline.transparent_unanswered :
    let issuer := "https://login.example"
    let inquiry : Inquiry := .assert ⟨.default, "keys"⟩
      { requirements := {
          algorithm := .rs256, issuer, audience := "c", nonce := none, maxAge := none
          leeway := .ofSeconds 60, organization := none
          issuer_nonBlank := by decide, audience_nonBlank := by decide
          nonce_nonBlank := by simp, organization_nonBlank := by simp }
        token := "a.b.c", secret := none, now := 0 }
    let events : List (Event ValidationError KeySet Reply) :=
      [.publish (Provider.discoveryUrl issuer) ⟨.status 404, 5⟩,
        .start (Inquiry.keys "keys" issuer (.ofSeconds 60)).caller, .start inquiry.caller,
        .poll 0, .invalidate "keys" issuer, .poll 1, .pass 5, .poll 1, .poll 0]
    ∃ reply, ((opened []).run events).1.callers[1]? = some (.finished reply) ∧
      inquiry.Direct (fun url => (Answer.status 404).result url) reply := by
  intro issuer inquiry events
  obtain ⟨reply, ended⟩ : ∃ reply, ((opened []).run events).1.callers[1]? =
    some (.finished reply) := Slot.exists_finished (by decide +kernel)
  have given : Documents.Give [] fun _ => .status 404 := fun _ => rfl
  have inquires : ∀ event ∈ events, event.Inquires := by
    simp [events, Event.Inquires]
  have steady : ∀ event ∈ events, event.Steady fun _ => .status 404 := by
    simp [events, Event.Steady]
  exact ⟨reply, ended, transparent given inquires steady rfl ended⟩

end RelyingParty
