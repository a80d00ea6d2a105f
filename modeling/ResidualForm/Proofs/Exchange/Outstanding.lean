import Mathlib.Data.List.Nodup
import ResidualForm.Proofs.Exchange.Refinement

/-!
# ResidualForm.Proofs.Exchange.Outstanding

The calls that are still in flight: those without an answer, and those whose answer waits in the
mailbox.

* `Sound.received_append_outstanding_perm` — with those whose answer was taken in, they are all calls.
* `Sound.inFlight_exchange`   — the dispatcher counts them.
* `Sound.outstanding_current` — one of them at most is of the latest revision, and it is the only one
  that is waited for (`exists_wanted`).
-/

namespace ResidualForm

/-- The calls whose answers have not been taken in. -/
def Exchange.outstanding (x : Exchange) : List Call :=
  (x.calls.filter fun posted => !posted.answered).map Posted.call ++
    x.mailbox.map Completion.call

namespace History

/-- Calls are told apart by their revisions. -/
theorem eq_of_revision_eq {h : History} (hb : edits h ≤ Revision.greatest.number) {t u : Ticket}
    (ht : t ∈ calls h) (hu : u ∈ calls h) (he : t.call.revision = u.call.revision) : t = u := by
  have hte := edit_le_edits ht
  have hue := edit_le_edits hu
  exact eq_of_edit_eq ht hu ((Revision.ofNumber_inj (by omega) (by omega)).1 he)

/-- It is the call of the latest edit that is waited for. -/
theorem exists_wanted {h : History} {request : Request} (hw : wanted h = some request) :
    ∃ t ∈ calls h, t ∉ received h ∧ Current h t ∧ t.request = request := by
  rw [wanted] at hw
  split at hw
  · cases hw
  · rename_i hnone
    obtain ⟨t, ht, hc, hreq⟩ := exists_current (Readiness.request?_eq_some.1 hw)
    exact ⟨t, ht, fun hr => hnone ⟨t, hr, hc⟩, hc, hreq⟩

end History

namespace Journal

open History

/-- The calls whose answers have not been taken in: those without an answer first. -/
def outstanding (j : Journal) : List Ticket :=
  ((calls j.history).filter fun t => !decide (t ∈ j.waiting ∨ t ∈ received j.history)) ++ j.waiting

variable {j : Journal}

theorem outstanding_exchange (service : Service) (j : Journal) :
    (j.exchange service).outstanding = j.outstanding.map Ticket.call := by
  simp [Exchange.outstanding, outstanding, exchange, List.filter_map, Function.comp_def, posted,
    Ticket.completion]

theorem Sound.mem_outstanding (hs : j.Sound) {t : Ticket} :
    t ∈ j.outstanding ↔ t ∈ calls j.history ∧ t ∉ received j.history := by
  have hissued := hs.issued t
  have hfresh := hs.fresh t
  simp only [outstanding, List.mem_append, List.mem_filter, Bool.not_eq_true', decide_eq_false_iff_not]
  by_cases hw : t ∈ j.waiting
  · simp [hw, hissued hw, hfresh hw]
  · simp [hw]

theorem Sound.outstanding_nodup (hs : j.Sound) : j.outstanding.Nodup := by
  rw [outstanding, List.nodup_append]
  refine ⟨(calls_nodup _).filter _, hs.waiting_nodup, ?_⟩
  rintro t ht u hu rfl
  have := (List.mem_filter.1 ht).2
  simp [hu] at this

/-- Every call is outstanding until its answer has been taken in. -/
theorem Sound.received_append_outstanding_perm (hs : j.Sound) :
    (received j.history ++ j.outstanding).Perm (calls j.history) := by
  have hnodup : (received j.history ++ j.outstanding).Nodup := by
    rw [List.nodup_append]
    refine ⟨hs.history.received_nodup, hs.outstanding_nodup, ?_⟩
    rintro t ht u hu rfl
    exact (hs.mem_outstanding.1 hu).2 ht
  rw [List.perm_ext_iff_of_nodup hnodup (calls_nodup _)]
  intro t
  have hcalls := hs.history.mem_calls (t := t)
  rw [List.mem_append, hs.mem_outstanding]
  by_cases hr : t ∈ received j.history
  · simp [hr, hcalls hr]
  · simp [hr]

/-- The count of the calls in flight is right. -/
theorem Sound.inFlight_exchange (hs : j.Sound) (service : Service) :
    (j.exchange service).dispatcher.inFlight = (j.exchange service).outstanding.length := by
  have hlength := hs.received_append_outstanding_perm.length_eq
  rw [List.length_append] at hlength
  rw [outstanding_exchange, List.length_map]
  show (calls j.history).length - (received j.history).length = j.outstanding.length
  omega

/-- Of the calls outstanding, that of the latest edit alone has the latest revision. -/
theorem Sound.outstanding_current (hs : j.Sound)
    (hb : edits j.history ≤ Revision.greatest.number) {t : Ticket} (ht : t ∈ calls j.history)
    (hn : t ∉ received j.history) (hc : Current j.history t) :
    ((j.outstanding.map Ticket.call).filter fun call => call.revision = .ofNumber (edits j.history)) =
      [t.call] := by
  have hcur : j.outstanding.filter (fun u => u.call.revision = .ofNumber (edits j.history)) = [t] := by
    rw [← List.perm_singleton, List.perm_ext_iff_of_nodup (hs.outstanding_nodup.filter _) (by simp)]
    intro u
    rw [List.mem_filter, hs.mem_outstanding, List.mem_singleton, decide_eq_true_iff]
    have hlatest : t.call.revision = .ofNumber (edits j.history) := congrArg Revision.ofNumber hc
    constructor
    · rintro ⟨⟨hu, -⟩, hrev⟩
      exact eq_of_revision_eq hb hu ht (hrev.trans hlatest.symm)
    · rintro rfl
      exact ⟨⟨ht, hn⟩, hlatest⟩
  rw [List.filter_map, Function.comp_def, hcur, List.map_singleton]

end Journal
end ResidualForm
