import ResidualForm.Proofs.Exchange.Run

/-!
# ResidualForm.Proofs.Exchange.Journal

What an observer notes who knows nothing of revisions. He numbers the edits and the calls himself,
and notes the forms as they change and the answers as they are taken in.

* `History`       — the notes; which calls were issued, and what the latest form asks for, is read
  off them.
* `Journal`       — a history, and the calls whose answers wait to be taken in.
* `Journal.Sound` — no answer is noted twice, and none without its call; kept by every act.
-/

namespace ResidualForm

def Readiness.request? : Readiness → Option Request
  | .ready request => some request
  | _ => none

@[simp] theorem Readiness.request?_eq_some {r : Readiness} {request : Request} :
    r.request? = some request ↔ r = .ready request := by
  cases r <;> simp [request?]

/-- A call with its number and the number of the edit that issued it. Calls are numbered from 0,
edits from 1. -/
structure Ticket where
  number : Nat
  edit : Nat
  request : Request
  deriving DecidableEq, Repr

inductive Entry where
  | edited (form : Form)
  /-- The answer to this call was taken in. -/
  | received (ticket : Ticket)
  deriving DecidableEq, Repr

/-- What happened, the latest first. -/
abbrev History := List Entry

namespace History

def edits : History → Nat
  | [] => 0
  | .edited _ :: past => edits past + 1
  | .received _ :: past => edits past

/-- The calls issued, in their order: one for each edit that left the form ready. -/
def calls : History → List Ticket
  | [] => []
  | .edited form :: past =>
    calls past ++
      (form.readiness.request?.map fun request => ⟨(calls past).length, edits past + 1, request⟩).toList
  | .received _ :: past => calls past

/-- The calls whose answers were taken in. -/
def received : History → List Ticket
  | [] => []
  | .edited _ :: past => received past
  | .received t :: past => t :: received past

/-- The verdict on the latest form. Before the first edit the form is empty. -/
def latest : History → Readiness
  | [] => .incomplete
  | .edited form :: _ => form.readiness
  | .received _ :: past => latest past

/-- The call was issued by the latest edit. -/
def Current (h : History) (t : Ticket) : Prop :=
  t.edit = edits h

instance (h : History) (t : Ticket) : Decidable (Current h t) :=
  inferInstanceAs (Decidable (t.edit = edits h))

/-- The request whose answer is still wanted: that of the latest form, until its answer is in. -/
def wanted (h : History) : Option Request :=
  if ∃ t ∈ received h, Current h t then none else (latest h).request?

/-- Each answer belongs to a call issued before, and was not taken in before. -/
def Sound : History → Prop
  | [] => True
  | .edited _ :: past => Sound past
  | .received t :: past => Sound past ∧ t ∈ calls past ∧ t ∉ received past

theorem mem_calls_edited {form : Form} {past : History} {t : Ticket} :
    t ∈ calls (.edited form :: past) ↔
      t ∈ calls past ∨
        ∃ request, form.readiness = .ready request ∧
          t = ⟨(calls past).length, edits past + 1, request⟩ := by
  simp only [calls, List.mem_append, Option.mem_toList, Option.map_eq_some_iff,
    Readiness.request?_eq_some]
  constructor
  · rintro (ht | ⟨request, hr, rfl⟩)
    · exact .inl ht
    · exact .inr ⟨request, hr, rfl⟩
  · rintro (ht | ⟨request, hr, rfl⟩)
    · exact .inl ht
    · exact .inr ⟨request, hr, rfl⟩

theorem edit_le_edits {h : History} {t : Ticket} (ht : t ∈ calls h) : t.edit ≤ edits h := by
  induction h with
  | nil => simp [calls] at ht
  | cons entry past ih =>
    cases entry with
    | received => exact ih ht
    | edited form =>
      rcases mem_calls_edited.1 ht with ht | ⟨request, -, rfl⟩
      · exact Nat.le_succ_of_le (ih ht)
      · exact Nat.le_refl _

/-- A call issued before an edit is not current after it. -/
theorem not_current_edited {form : Form} {past : History} {t : Ticket} (ht : t ∈ calls past) :
    ¬ Current (.edited form :: past) t := by
  intro hc
  have := edit_le_edits ht
  simp only [Current, edits] at hc
  omega

theorem number_eq {h : History} {t : Ticket} {n : Nat} (ht : (calls h)[n]? = some t) :
    t.number = n := by
  induction h with
  | nil => simp [calls] at ht
  | cons entry past ih =>
    cases entry with
    | received => exact ih ht
    | edited form =>
      rw [calls, List.getElem?_append] at ht
      split at ht
      · exact ih ht
      · rename_i hn
        rw [List.getElem?_eq_some_iff] at ht
        obtain ⟨hlt, ht⟩ := ht
        cases hr : form.readiness.request? with
        | none => simp [hr] at hlt
        | some request =>
          simp only [hr, Option.map_some, Option.toList_some, List.length_singleton] at hlt
          simp only [hr, Option.map_some, Option.toList_some, List.getElem_singleton] at ht
          rw [← ht]
          show (calls past).length = n
          omega

theorem getElem?_number {h : History} {t : Ticket} (ht : t ∈ calls h) :
    (calls h)[t.number]? = some t := by
  obtain ⟨n, hn⟩ := List.mem_iff_getElem?.1 ht
  rw [number_eq hn, hn]

theorem calls_nodup (h : History) : (calls h).Nodup := by
  rw [List.nodup_iff_pairwise_ne, List.pairwise_iff_getElem]
  intro i j hi hj hij heq
  have h1 := number_eq (List.getElem?_eq_getElem hi)
  have h2 := number_eq (List.getElem?_eq_getElem hj)
  rw [heq] at h1
  omega

/-- An edit issues one call at most. -/
theorem eq_of_edit_eq {h : History} {t t' : Ticket} (ht : t ∈ calls h) (ht' : t' ∈ calls h)
    (he : t.edit = t'.edit) : t = t' := by
  induction h with
  | nil => simp [calls] at ht
  | cons entry past ih =>
    cases entry with
    | received => exact ih ht ht'
    | edited form =>
      rcases mem_calls_edited.1 ht with ht | ⟨request, hr, rfl⟩ <;>
        rcases mem_calls_edited.1 ht' with ht' | ⟨request', hr', rfl⟩
      · exact ih ht ht'
      · have := edit_le_edits ht
        simp only at he
        omega
      · have := edit_le_edits ht'
        simp only at he
        omega
      · rw [hr] at hr'
        cases hr'
        rfl

/-- The call of the latest edit asks for what the latest form holds. -/
theorem latest_of_current {h : History} {t : Ticket} (ht : t ∈ calls h) (hc : Current h t) :
    latest h = .ready t.request := by
  induction h with
  | nil => simp [calls] at ht
  | cons entry past ih =>
    cases entry with
    | received => exact ih ht hc
    | edited form =>
      rcases mem_calls_edited.1 ht with ht | ⟨request, hr, rfl⟩
      · exact absurd hc (not_current_edited ht)
      · exact hr

theorem exists_current {h : History} {request : Request} (hl : latest h = .ready request) :
    ∃ t ∈ calls h, Current h t ∧ t.request = request := by
  induction h with
  | nil => simp [latest] at hl
  | cons entry past ih =>
    cases entry with
    | received => exact ih hl
    | edited form =>
      exact ⟨_, mem_calls_edited.2 (.inr ⟨request, hl, rfl⟩), rfl, rfl⟩

theorem Sound.mem_calls {h : History} (hs : Sound h) {t : Ticket} (ht : t ∈ received h) :
    t ∈ calls h := by
  induction h with
  | nil => simp [received] at ht
  | cons entry past ih =>
    cases entry with
    | edited form => exact mem_calls_edited.2 (.inl (ih hs ht))
    | received t' =>
      rcases List.mem_cons.1 ht with rfl | ht
      · exact hs.2.1
      · exact ih hs.1 ht

theorem Sound.received_nodup {h : History} (hs : Sound h) : (received h).Nodup := by
  induction h with
  | nil => exact List.nodup_nil
  | cons entry past ih =>
    cases entry with
    | edited form => exact ih hs
    | received t => exact List.nodup_cons.2 ⟨hs.2.2, ih hs.1⟩

theorem Sound.length_received_le {h : History} (hs : Sound h) :
    (received h).length ≤ (calls h).length :=
  hs.received_nodup.length_le_of_subset fun _ => hs.mem_calls

end History

structure Journal where
  history : History := []
  /-- The calls whose answers are there but not taken in, oldest answer first. -/
  waiting : List Ticket := []
  deriving DecidableEq, Repr

namespace Journal

open History

/-- Notes that the oldest of the waiting answers is taken in. -/
def receive (j : Journal) : Journal :=
  match j.waiting with
  | [] => j
  | t :: rest => { history := .received t :: j.history, waiting := rest }

def step (j : Journal) : Exchange.Act → Journal
  | .submit form => { j with history := .edited form :: j.history }
  | .answer n =>
    match (calls j.history)[n]? with
    | none => j
    | some t =>
      if t ∈ j.waiting ∨ t ∈ received j.history then j else { j with waiting := j.waiting ++ [t] }
  | .poll =>
    { history := j.waiting.foldl (fun past t => .received t :: past) j.history, waiting := [] }
  | .next => j.receive

def run (j : Journal) (acts : List Exchange.Act) : Journal :=
  acts.foldl step j

@[simp] theorem run_nil (j : Journal) : j.run [] = j := rfl

@[simp] theorem run_cons (j : Journal) (act : Exchange.Act) (acts : List Exchange.Act) :
    j.run (act :: acts) = (j.step act).run acts := rfl

structure Sound (j : Journal) : Prop where
  history : History.Sound j.history
  waiting_nodup : j.waiting.Nodup
  issued : ∀ t ∈ j.waiting, t ∈ calls j.history
  fresh : ∀ t ∈ j.waiting, t ∉ received j.history

theorem sound_empty : Sound {} := by
  refine ⟨trivial, List.nodup_nil, ?_, ?_⟩ <;> simp

theorem Sound.receive {j : Journal} (hs : j.Sound) : j.receive.Sound := by
  obtain ⟨history, waiting⟩ := j
  cases waiting with
  | nil => exact hs
  | cons t rest =>
    obtain ⟨ht, hrest⟩ := List.nodup_cons.1 hs.waiting_nodup
    refine ⟨⟨hs.history, hs.issued t (by simp), hs.fresh t (by simp)⟩, hrest, ?_, ?_⟩
    · intro u hu
      exact hs.issued u (List.mem_cons_of_mem _ hu)
    · intro u hu
      refine List.not_mem_cons_of_ne_of_not_mem ?_ (hs.fresh u (List.mem_cons_of_mem _ hu))
      rintro rfl
      exact ht hu

/-- Taking all waiting answers in is taking the oldest one in, and then all others. -/
theorem step_poll_receive (j : Journal) : j.receive.step .poll = j.step .poll := by
  obtain ⟨history, waiting⟩ := j
  cases waiting <;> rfl

theorem Sound.step {j : Journal} (hs : j.Sound) (act : Exchange.Act) : (j.step act).Sound := by
  cases act with
  | submit form =>
    exact ⟨hs.history, hs.waiting_nodup,
      fun t ht => mem_calls_edited.2 (.inl (hs.issued t ht)), hs.fresh⟩
  | answer n =>
    rw [Journal.step]
    split
    · exact hs
    · rename_i t ht
      split
      · exact hs
      · rename_i hnew
        rw [not_or] at hnew
        refine ⟨hs.history, ?_, ?_, ?_⟩
        · rw [List.nodup_append]
          refine ⟨hs.waiting_nodup, by simp, ?_⟩
          rintro u hu v hv rfl
          rw [List.mem_singleton] at hv
          exact hnew.1 (hv ▸ hu)
        · intro u hu
          rcases List.mem_append.1 hu with hu | hu
          · exact hs.issued u hu
          · rw [List.mem_singleton.1 hu]
            exact List.mem_of_getElem? ht
        · intro u hu
          rcases List.mem_append.1 hu with hu | hu
          · exact hs.fresh u hu
          · rw [List.mem_singleton.1 hu]
            exact hnew.2
  | poll =>
    obtain ⟨history, waiting⟩ := j
    induction waiting generalizing history with
    | nil => exact hs
    | cons t rest ih => exact ih _ hs.receive
  | next => exact hs.receive

theorem Sound.run {j : Journal} (hs : j.Sound) (acts : List Exchange.Act) : (j.run acts).Sound := by
  induction acts generalizing j with
  | nil => exact hs
  | cons act acts ih => exact ih (hs.step act)

end Journal
end ResidualForm
