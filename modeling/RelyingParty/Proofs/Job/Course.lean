import RelyingParty.Job

/-!
# Courses of jobs

How a job comes from its beginning to what is left of it: which documents it asks for on its way,
and what came of each. Polling a job, however often and whenever, only takes it further on such a
course. When each answer is as some retrieval gives it, the course ends where the job comes to with
that retrieval at once.
-/

namespace RelyingParty

/-- Documents that were asked for, with what came of it. -/
abbrev Answers := List (String × Except RetrievalError String)

namespace Job

variable {α : Type}

/-- A job comes, with some answers, to what is left of it. -/
inductive Leads : Job α → Answers → Job α → Prop where
  /-- Nothing has happened. -/
  | refl (job : Job α) : Leads job [] job
  /-- It comes to a wait, which ends at some moment. -/
  | delay {length wake : Nat} {next left : Job α} {answers : Answers}
    (rest : Leads (.sleeping wake next) answers left) : Leads (.delay length next) answers left
  /-- It has waited. -/
  | sleeping {wake : Nat} {next left : Job α} {answers : Answers}
    (rest : Leads next answers left) : Leads (.sleeping wake next) answers left
  /-- It asks for a document, which comes at some moment. -/
  | request {url : String} {answer : Except RetrievalError String} {wake : Nat}
    {next : Except RetrievalError String → Job α} {left : Job α} {answers : Answers}
    (rest : Leads (.sleeping wake (next answer)) answers left) :
    Leads (.request url next) ((url, answer) :: answers) left
  /-- It counts something. -/
  | record {metric : Metric} {next left : Job α} {answers : Answers}
    (rest : Leads next answers left) : Leads (.record metric next) answers left

theorem Leads.trans {job middle left : Job α} {first last : Answers}
    (hfirst : job.Leads first middle) (hlast : middle.Leads last left) :
    job.Leads (first ++ last) left := by
  induction hfirst with
  | refl => exact hlast
  | delay _ ih => exact .delay (ih hlast)
  | sleeping _ ih => exact .sleeping (ih hlast)
  | request _ ih => exact .request (ih hlast)
  | record _ ih => exact .record (ih hlast)

/-- A job that is over stays as it is. -/
theorem Leads.of_done {result : α} {answers : Answers} {left : Job α}
    (h : (Job.done result).Leads answers left) : answers = [] ∧ left = .done result := by
  cases h
  exact ⟨rfl, rfl⟩

/-- What is left of a job that has a result is the result. -/
theorem eq_done_of_result? {job : Job α} {result : α} (h : job.result? = some result) :
    job = .done result := by
  cases job with
  | done other => exact congrArg Job.done (Option.some.inj h)
  | _ => simp [result?] at h

/-- The answers to what a job did, from the documents of the moment. -/
def answers (documents : Documents) (effects : List Effect) : Answers :=
  effects.filterMap fun
    | .requested url => some (url, documents.retrieve url)
    | .recorded _ => none

/-- A poll takes a job further, with the answers of the moment. -/
theorem leads_poll (now : Nat) (documents : Documents) (job : Job α) :
    job.Leads (answers documents (job.poll now documents).2) (job.poll now documents).1 := by
  induction job with
  | done result => exact .refl _
  | delay length next ih =>
    simp only [poll]
    split
    · have hslept : (sleeping now next).Leads _ _ := .sleeping ih
      exact .delay hslept
    · exact .delay (.refl _)
  | sleeping wake next ih =>
    simp only [poll]
    split
    · exact .sleeping ih
    · exact .refl _
  | request url next ih =>
    simp only [poll]
    split
    · have hslept : (sleeping now (next (documents.retrieve url))).Leads _ _ := .sleeping (ih _)
      exact .request hslept
    · exact .request (.refl _)
  | record metric next ih => exact .record ih

/-- When the answers are as a retrieval gives them, a job comes to the same result as at once. -/
theorem Leads.complete_eq {retrieve : String → Except RetrievalError String}
    {job left : Job α} {answers : Answers} (h : job.Leads answers left)
    (fixed : ∀ asked ∈ answers, asked.2 = retrieve asked.1) :
    (left.complete retrieve).1 = (job.complete retrieve).1 := by
  induction h with
  | refl => rfl
  | delay _ ih => exact ih fixed
  | sleeping _ ih => exact ih fixed
  | @request url answer wake next left answers _ ih =>
    have hanswer : answer = retrieve url := fixed (url, answer) List.mem_cons_self
    have hrest := ih fun asked h => fixed asked (List.mem_cons_of_mem _ h)
    rw [hrest, hanswer]
    rfl
  | record _ ih => exact ih fixed

end Job

end RelyingParty
