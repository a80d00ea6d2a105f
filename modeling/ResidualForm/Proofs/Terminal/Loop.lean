import ResidualForm.Proofs.Terminal.Frames

/-!
# ResidualForm.Proofs.Terminal.Loop

The loop that fills the queue of a pump and runs a frame, again and again.

* `applyUntilExit_of_quitting`, `applyUntilExit_of_not_quitting` — what one frame leaves to be done.
* `runFrames_succ` — one round: the queue is filled, and a frame is run.
* `runFrames_eq`   — all rounds, by induction on how many there may be. Each handles one event at
  least, so one round more than there are events is enough.
-/

namespace ResidualForm
namespace Terminal

/-- Applies events one by one, up to one that makes the session quit. -/
def applyUntilExit (s : Session) : List Event → Session
  | [] => s
  | e :: rest => if (s.handle e).quitting then s.handle e else applyUntilExit (s.handle e) rest

theorem takenWithin_pos {budget : Nat} (hb : 0 < budget) (s : Session) {queue : List Event}
    (hq : queue ≠ []) : 0 < takenWithin budget s queue := by
  obtain ⟨budget, rfl⟩ : ∃ n, budget = n + 1 := ⟨budget - 1, by omega⟩
  obtain ⟨e, rest, rfl⟩ := List.exists_cons_of_ne_nil hq
  rw [takenWithin_cons]
  split
  · exact Nat.one_pos
  · exact Nat.succ_pos _

theorem takenWithin_le_length (budget : Nat) (s : Session) (queue : List Event) :
    takenWithin budget s queue ≤ queue.length :=
  Nat.le_trans (Nat.min_le_right _ _) (Nat.min_le_left _ _)

/-- After a frame that does not make the session quit, the events it has left are to be applied. -/
theorem applyUntilExit_of_not_quitting {budget : Nat} {s : Session} {queue : List Event}
    (h : (s.handleAll (queue.take (takenWithin budget s queue))).quitting = false)
    (rest : List Event) :
    applyUntilExit s (queue ++ rest) =
      applyUntilExit (s.handleAll (queue.take (takenWithin budget s queue)))
        (queue.drop (takenWithin budget s queue) ++ rest) := by
  induction budget generalizing s queue with
  | zero => simp [takenWithin, Session.handleAll]
  | succ budget ih =>
    cases queue with
    | nil => simp [takenWithin, Session.handleAll]
    | cons e queue =>
      rw [takenWithin_cons] at h ⊢
      by_cases hq : (s.handle e).quitting
      · rw [if_pos hq] at h
        exact absurd (hq.symm.trans h) (by decide)
      · rw [if_neg hq] at h ⊢
        rw [List.cons_append, applyUntilExit, if_neg hq]
        exact ih h

/-- A frame that makes the session quit leaves nothing to be applied. -/
theorem applyUntilExit_of_quitting {budget : Nat} {s : Session} {queue : List Event}
    (hn : 0 < takenWithin budget s queue)
    (h : (s.handleAll (queue.take (takenWithin budget s queue))).quitting = true)
    (rest : List Event) :
    applyUntilExit s (queue ++ rest) =
      s.handleAll (queue.take (takenWithin budget s queue)) := by
  induction budget generalizing s queue with
  | zero => simp [takenWithin] at hn
  | succ budget ih =>
    cases queue with
    | nil => simp [takenWithin] at hn
    | cons e queue =>
      rw [takenWithin_cons] at h ⊢
      rw [List.cons_append, applyUntilExit]
      by_cases hq : (s.handle e).quitting
      · rw [if_pos hq, if_pos hq]
        rfl
      · rw [if_neg hq] at h ⊢
        rw [if_neg hq]
        refine ih (Nat.pos_of_ne_zero fun hzero => hq ?_) h
        rw [hzero] at h
        exact h

theorem applyUntilExit_eq (s : Session) (events : List Event) :
    applyUntilExit s events =
      s.handleAll (events.take ((s.exitPosition? events).getD events.length)) := by
  induction events generalizing s with
  | nil => simp [applyUntilExit, Session.handleAll]
  | cons e rest ih =>
    rw [applyUntilExit, Session.exitPosition?_cons]
    cases hq : (s.handle e).quitting with
    | true => simp [Session.handleAll]
    | false =>
      simp only [Bool.false_eq_true, if_false, ih]
      cases (s.handle e).exitPosition? rest with
      | none => simp [Session.handleAll]
      | some n => simp [Session.handleAll, Nat.add_comm 1 n]

/-- Filling the queue moves the first of the waiting events to its end, until it is full. -/
theorem refill_open {p : Pump} (hp : p.closed = false) (waiting : List Event) :
    (p.refill waiting).1.closed = false ∧
      (p.refill waiting).1.queue ++ (p.refill waiting).2 = p.queue ++ waiting ∧
      ((p.refill waiting).1.queue = [] → (p.refill waiting).2 = []) := by
  induction waiting generalizing p with
  | nil => exact ⟨hp, rfl, fun _ => rfl⟩
  | cons e rest ih =>
    by_cases hroom : p.queue.length < queueCapacity
    · have hoffer : p.offer e = some { p with queue := p.queue ++ [e] } := by
        rw [Pump.offer, hp, if_neg (by simpa using hroom)]
      rw [Pump.refill, hoffer]
      obtain ⟨hclosed, hqueue, hempty⟩ := @ih { p with queue := p.queue ++ [e] } hp
      exact ⟨hclosed, by simpa using hqueue, hempty⟩
    · have hoffer : p.offer e = none := by
        rw [Pump.offer, if_pos (by simpa using Or.inr (Nat.le_of_not_lt hroom))]
      rw [Pump.refill, hoffer]
      refine ⟨hp, rfl, fun hqueue => ?_⟩
      rw [hqueue] at hroom
      exact absurd (by decide) hroom

theorem runFrames_succ (fuel : Nat) (s : Session) {p : Pump} (hp : p.closed = false)
    (waiting : List Event) :
    runFrames (fuel + 1) s p waiting =
      let p' := (p.refill waiting).1
      let n := takenWithin eventsPerFrame s p'.queue
      let s' := s.handleAll (p'.queue.take n)
      let left : Pump := { p' with queue := p'.queue.drop n }
      if s'.quitting || left.queue.isEmpty && (p.refill waiting).2.isEmpty then (s', left)
      else runFrames fuel s' left (p.refill waiting).2 := by
  have hclosed := (refill_open hp waiting).1
  cases hfilled : p.refill waiting with
  | mk p' waiting' =>
    rw [hfilled] at hclosed
    simp only [runFrames, hfilled, handleFrame, handleQueued_eq eventsPerFrame s hclosed]
    cases (s.handleAll _).quitting with
    | true => rfl
    | false => rfl

theorem runFrames_eq {fuel : Nat} {s : Session} {p : Pump} (hp : p.closed = false)
    {waiting : List Event} (hfuel : p.queue.length + waiting.length < fuel) :
    (runFrames fuel s p waiting).1 = applyUntilExit s (p.queue ++ waiting) := by
  induction fuel generalizing s p waiting with
  | zero => exact absurd hfuel (Nat.not_lt_zero _)
  | succ fuel ih =>
    obtain ⟨hclosed, hqueue, hempty⟩ := refill_open hp waiting
    rw [runFrames_succ fuel s hp, ← hqueue]
    generalize p.refill waiting = filled at hclosed hqueue hempty ⊢
    obtain ⟨p', waiting'⟩ := filled
    dsimp only at hclosed hqueue hempty ⊢
    by_cases hnil : p'.queue = []
    · rw [hempty hnil, hnil]
      simp [takenWithin, Session.handleAll, applyUntilExit]
    · have hpos := takenWithin_pos (by decide : 0 < eventsPerFrame) s hnil
      cases hquit :
        (s.handleAll (p'.queue.take (takenWithin eventsPerFrame s p'.queue))).quitting with
      | true => rw [Bool.true_or, if_pos rfl, applyUntilExit_of_quitting hpos hquit]
      | false =>
        rw [Bool.false_or, applyUntilExit_of_not_quitting hquit]
        split
        · rename_i hdone
          obtain ⟨hleft, hwaiting⟩ := Bool.and_eq_true_iff.1 hdone
          rw [List.isEmpty_iff.1 hleft, List.isEmpty_iff.1 hwaiting]
          rfl
        · -- at least one event less is left for the next round
          have hlength := congrArg List.length hqueue
          have hle := takenWithin_le_length eventsPerFrame s p'.queue
          refine ih ?_ ?_
          · exact hclosed
          · simp only [List.length_append, List.length_drop] at hlength ⊢
            omega

/-- Run to its end, the loop has applied the events one by one: those that were waiting in the pump
and those that came after, all of them or up to one that makes the session quit. -/
theorem runEvents_eq (s : Session) {p : Pump} (hp : p.closed = false) (events : List Event) :
    (runEvents s p events).1 =
      let all := p.queue ++ events
      s.handleAll (all.take ((s.exitPosition? all).getD all.length)) := by
  rw [runEvents, runFrames_eq hp (Nat.lt_succ_self _), applyUntilExit_eq]

end Terminal
end ResidualForm
