import V2vBft.App.HaltInvariant

namespace V2vBft.App

open Wire Library.GuardedRun

variable {cfg : AppConfig} {t : Traced} {ev : AppEvent} {k : ℤ}

-- the reset that the no-slot branch of processOrders lacks
def entitledOk (cfg : AppConfig) (t : Traced) (ev : AppEvent) : Bool :=
  match appliedNext t.app ev with
  | none => true
  | some order => (ownBatch cfg order).isSome || t.app.staysCancelled order || !t.app.waiting

def SlotInForce (cfg : AppConfig) (t : Traced) : Prop :=
  ∃ order since, t.currentOrder = some (order, since) ∧ ownBatch cfg order = some t.app.myBatchIndex ∧
    t.app.precedingBatchCars = order.batch (t.app.myBatchIndex - 1) ∧ t.app.clearanceStarted = since

structure SlotInv (cfg : AppConfig) (t : Traced) : Prop where
  resume : t.app.resumeScheduled = false
  inForce : t.app.waiting = true → t.app.cancelActive = true ∨ SlotInForce cfg t

def AppEvent.cleared : AppEvent → List ℤ
  | .clearancePoll _ cleared _ => cleared
  | _ => []

structure Entitled (cfg : AppConfig) (t : Traced) (ev : AppEvent) (k : ℤ) (order : OrderDecision) (since : ℤ) : Prop where
  inForce : t.currentOrder = some (order, since)
  slot : ownBatch cfg order = some k
  behind : 0 < k → (∀ v ∈ order.batch (k - 1), v ∈ ev.cleared) ∨ cfg.clearanceTimeout ≤ ev.now - since

lemma slotInv_initial : SlotInv cfg .initial := ⟨rfl, fun h => absurd h (by decide)⟩

lemma SlotInv.quiet (h : SlotInv cfg t) (hq : Quiet t.app (appStep cfg t.app ev).1 (appStep cfg t.app ev).2) :
    SlotInv cfg (tracedStep cfg t ev) := by
  have happlied : (tracedStep cfg t ev).history.applied = t.history.applied := by
    simp only [tracedStep, History.observe, hq.applied]
  refine ⟨?_, fun hw => ?_⟩
  · exact eq_false_of_ne_true fun hr => absurd (hq.resume hr) (by simp [h.resume])
  · rcases h.inForce (hq.waiting ▸ hw) with ha | ⟨order, since, hcur, hown, hcars, hstart⟩
    · exact Or.inl (hq.active ha)
    · rcases hq.tombstones with ha | htomb
      · exact Or.inl ha
      · refine Or.inr ⟨order, since, ?_, ?_, ?_, hq.clearanceStarted.trans hstart⟩
        · rw [Traced.currentOrder, happlied]
          simpa only [Traced.currentOrder, tracedStep, htomb] using hcur
        · rw [hown]
          exact congrArg some hq.myBatchIndex.symm
        · exact (hq.precedingBatchCars.trans hcars).trans (congrArg (fun b => order.batch (b - 1)) hq.myBatchIndex.symm)

lemma currentOrder_applied {order : OrderDecision} (htomb : t.app.isEpochTombstoned order.epoch = false)
    (ha : Applied cfg t.app (appStep cfg t.app ev).1 (appStep cfg t.app ev).2 order ev.now) :
    (tracedStep cfg t ev).currentOrder = some (order, ev.now) := by
  have happlied : (tracedStep cfg t ev).history.applied = (order, ev.now) :: t.history.applied := by
    simp only [tracedStep, History.observe, ha.applied]
  rw [Traced.currentOrder, happlied]
  exact List.find?_cons_of_pos (by simp [tracedStep, ha.tombstones, htomb])

lemma SlotInv.applied {order : OrderDecision} (h : SlotInv cfg t) (hnext : appliedNext t.app ev = some order)
    (htomb : t.app.isEpochTombstoned order.epoch = false)
    (ha : Applied cfg t.app (appStep cfg t.app ev).1 (appStep cfg t.app ev).2 order ev.now)
    (hok : entitledOk cfg t ev = true) : SlotInv cfg (tracedStep cfg t ev) := by
  refine ⟨ha.resume.trans h.resume, fun hw => ?_⟩
  cases hown : ownBatch cfg order with
  | none =>
    obtain ⟨-, hb, hc, -⟩ := ha.noSlot hown
    have hwait : t.app.waiting = true := by rw [AppState.waiting, ← hb, ← hc]; exact hw
    simp only [entitledOk, hnext, hown, Option.isSome_none, Bool.false_or, hwait, Bool.not_true, Bool.or_false] at hok
    exact Or.inl (ha.active.trans hok)
  | some b =>
    obtain ⟨-, hb, hc, hs⟩ := ha.slot b hown
    obtain ⟨hpos, -⟩ := waiting_of_slot hb hc hw
    rw [if_pos hpos] at hc
    have hb' : (tracedStep cfg t ev).app.myBatchIndex = b := hb
    refine Or.inr ⟨order, ev.now, currentOrder_applied htomb ha, ?_, ?_, hs hpos.ne'⟩
    · rw [hb', hown]
    · rw [hb']
      exact hc

lemma SlotInv.step (henable : cfg.enableRollback = true) (t : Traced) (ev : AppEvent) (h : SlotInv cfg t)
    (hok : entitledOk cfg t ev = true) : SlotInv cfg (tracedStep cfg t ev) := by
  rcases appStep_cases henable h.resume ev with ⟨hq, -⟩ | ⟨order, hnext, htomb, ha⟩ | ⟨_, _, _, -, hq, -⟩
  · exact h.quiet hq
  · exact h.applied hnext htomb ha hok
  · exact h.quiet hq

theorem release_entitled (cfg : AppConfig) (henable : cfg.enableRollback = true) (events : List AppEvent)
    (ev : AppEvent) (hok : Guarded (tracedStep cfg) (fun t ev => entitledOk cfg t ev = true) .initial (events ++ [ev]))
    (k : ℤ) (hrelease : (appStep cfg (run (tracedStep cfg) .initial events).app ev).2.released = some k) :
    ∃ order since, Entitled cfg (run (tracedStep cfg) .initial (events ++ [ev])) ev k order since := by
  obtain ⟨hpre, hlast⟩ := guarded_snoc hok
  have hinv := hpre.invariant (SlotInv.step henable) slotInv_initial
  rw [run_append]
  set t := run (tracedStep cfg) .initial events
  have hnext := SlotInv.step henable t ev hinv hlast
  simp only [run_cons, run_nil]
  rcases appStep_cases henable hinv.resume ev with ⟨-, hnone⟩ | ⟨order, -, htomb, ha⟩ | ⟨formed, cleared, now, hev, -, hp⟩
  · exact absurd (hnone.symm.trans hrelease) (by simp)
  · cases hown : ownBatch cfg order with
    | none => exact absurd ((ha.noSlot hown).1.symm.trans hrelease) (by simp)
    | some b =>
      have hrel := (ha.slot b hown).1.symm.trans hrelease
      split at hrel
      next hb =>
        obtain rfl := Option.some.inj hrel
        exact ⟨order, ev.now, currentOrder_applied htomb ha, hown.trans (congrArg some hb), fun h => absurd h (lt_irrefl _)⟩
      next => exact absurd hrel (by simp)
  · obtain rfl : (tracedStep cfg t ev).app.myBatchIndex = k := Option.some.inj (hp.released.symm.trans hrelease)
    rcases hnext.inForce hp.waiting with hactive | ⟨order, since, hcur, hown, hcars, hstart⟩
    · exact absurd hactive (by simp [tracedStep, hp.active])
    · refine ⟨order, since, hcur, hown, fun _ => ?_⟩
      subst hev
      rw [← hcars, ← hstart]
      refine hp.entitled.imp id fun htimeout => ?_
      simp only [clearanceTimedOut, Bool.and_eq_true, decide_eq_true_eq] at htimeout
      exact htimeout.2

theorem release_entitled_recovery :
    ∃ order since, Entitled fourCars (run (tracedStep fourCars) .initial
      ((cancelledWait ++ recoveryOrder [(2, 0), (0, 1)]) ++ [.processOrder false true 8])) (.processOrder false true 8) 0
      order since :=
  release_entitled fourCars rfl (cancelledWait ++ recoveryOrder [(2, 0), (0, 1)]) (.processOrder false true 8)
    (by decide +kernel) 0 (by decide +kernel)

-- ORDER 1 leaves car 2 out, yet the poll still runs on the slot of the cancelled ORDER 0
theorem leftOut_released :
    (appStep fourCars (run (tracedStep fourCars) .initial
        (cancelledWait ++ recoveryOrder [(0, 0), (3, 1)] ++ [.processOrder false true 8])).app
      (.clearancePoll [] [0, 1] 9)).2.released = some 1 ∧
    (run (tracedStep fourCars) .initial
        (cancelledWait ++ recoveryOrder [(0, 0), (3, 1)] ++ [.processOrder false true 8])).currentOrder.map
      (fun a => (a.1.epoch, ownBatch fourCars a.1)) = some (1, none) := by
  decide +kernel

end V2vBft.App
