import V2vBft.App.History

/-! No release on the strength of an ORDER whose CANCEL stands. -/

namespace V2vBft.App

open Wire Library.GuardedRun

variable {cfg : AppConfig} {t : Traced} {ev : AppEvent} {k : ℤ}

def History.slotStands (h : History) (fromEpoch : ℕ) : Bool :=
  match h.slot with
  | none => false
  | some order => decide (order.epoch ∈ h.standing) && decide (fromEpoch ≤ order.epoch)

-- the check of cancel_consensus_pending_ that processOrders lacks: an ORDER under a standing CANCEL does not give
-- batch 0, and no ORDER takes away the last cancel flag while the slot waited on is one under a standing CANCEL
def haltOk (cfg : AppConfig) (t : Traced) (ev : AppEvent) : Bool :=
  match appliedNext t.app ev with
  | none => true
  | some order =>
    match ownBatch cfg order with
    | some b =>
      decide (order.epoch ∉ t.history.standing) ||
        (decide (b ≠ 0) && ((order.batch (b - 1)).isEmpty || t.app.staysCancelled order))
    | none => t.app.staysCancelled order || !t.app.waiting || !t.history.slotStands order.epoch

structure HaltInv (t : Traced) : Prop where
  resume : t.app.resumeScheduled = false
  slot : t.app.waiting = true → ∃ order, t.history.slot = some order
  held : ∀ order, t.history.slot = some order → order.epoch ∈ t.history.standing → t.app.waiting = true →
    t.app.cancelActive = true

lemma haltInv_initial : HaltInv .initial :=
  ⟨rfl, fun h => absurd h (by decide), fun _ h => absurd h (by simp [Traced.initial, History.initial])⟩

lemma HaltInv.quiet (h : HaltInv t) (hq : Quiet t.app (appStep cfg t.app ev).1 (appStep cfg t.app ev).2) :
    HaltInv (tracedStep cfg t ev) := by
  have hslot : (tracedStep cfg t ev).history.slot = t.history.slot := by
    simp only [tracedStep, History.observe, hq.applied]
  have hstanding : (tracedStep cfg t ev).history.standing =
      (appStep cfg t.app ev).2.halted ++ t.history.standing := by
    simp only [tracedStep, History.observe, hq.applied]
  refine ⟨?_, ?_, ?_⟩
  · exact eq_false_of_ne_true fun hr => absurd (hq.resume hr) (by simp [h.resume])
  · intro hw
    rw [hslot]
    exact h.slot (hq.waiting ▸ hw)
  · intro order horder hmem hw
    rw [hslot] at horder
    rw [hstanding] at hmem
    rcases List.mem_append.mp hmem with hnew | hold
    · exact hq.halts (List.ne_nil_of_mem hnew)
    · exact hq.active (h.held order horder hold (hq.waiting ▸ hw))

lemma waiting_of_slot {b : ℤ} {cars : List ℤ} {s : AppState} (hb : s.myBatchIndex = b)
    (hcars : s.precedingBatchCars = if 0 < b then cars else []) (hw : s.waiting = true) : 0 < b ∧ cars ≠ [] := by
  simp only [AppState.waiting, hb, hcars, Bool.and_eq_true, decide_eq_true_eq, Bool.not_eq_true',
    List.isEmpty_eq_false_iff] at hw
  obtain ⟨hpos, hne⟩ := hw
  rw [if_pos hpos] at hne
  exact ⟨hpos, hne⟩

lemma HaltInv.applied {order : OrderDecision} (h : HaltInv t) (hnext : appliedNext t.app ev = some order)
    (ha : Applied cfg t.app (appStep cfg t.app ev).1 (appStep cfg t.app ev).2 order ev.now)
    (hok : haltOk cfg t ev = true) : HaltInv (tracedStep cfg t ev) := by
  have hslot : (tracedStep cfg t ev).history.slot =
      if (ownBatch cfg order).isSome then some order else t.history.slot := by
    simp only [tracedStep, History.observe, ha.applied]
  have hstanding : ∀ e ∈ (tracedStep cfg t ev).history.standing, e ∈ t.history.standing ∧ order.epoch ≤ e := by
    intro e he
    simpa only [tracedStep, History.observe, ha.applied, ha.halted, List.nil_append, List.mem_filter,
      decide_eq_true_eq] using he
  have hactive : (tracedStep cfg t ev).app.cancelActive = t.app.staysCancelled order := ha.active
  unfold haltOk at hok
  rw [hnext] at hok
  refine ⟨ha.resume.trans h.resume, ?_, ?_⟩
  · intro hw
    rw [hslot]
    cases hown : ownBatch cfg order with
    | none =>
      obtain ⟨-, hb, hc, -⟩ := ha.noSlot hown
      exact h.slot (by rw [AppState.waiting, ← hb, ← hc]; exact hw)
    | some b => exact ⟨order, rfl⟩
  · intro w hw hmem hwait
    rw [hslot] at hw
    rw [hactive]
    obtain ⟨hold, hle⟩ := hstanding _ hmem
    cases hown : ownBatch cfg order with
    | none =>
      obtain ⟨-, hb, hc, -⟩ := ha.noSlot hown
      have hwait' : t.app.waiting = true := by rw [AppState.waiting, ← hb, ← hc]; exact hwait
      simp only [hown, Option.isSome_none, Bool.false_eq_true, if_false] at hw
      simpa [hown, hwait', History.slotStands, hw, hold, hle] using hok
    | some b =>
      obtain ⟨-, hb, hc, -⟩ := ha.slot b hown
      obtain ⟨hpos, hne⟩ := waiting_of_slot hb hc hwait
      simp only [hown, Option.isSome_some, if_true] at hw
      obtain rfl := Option.some.inj hw
      simp only [hown, hold, not_true_eq_false, decide_false, Bool.false_or, Bool.and_eq_true,
        eq_false_of_ne_true (List.isEmpty_iff.not.mpr hne)] at hok
      exact hok.2

lemma HaltInv.step (henable : cfg.enableRollback = true) (t : Traced) (ev : AppEvent) (h : HaltInv t)
    (hok : haltOk cfg t ev = true) : HaltInv (tracedStep cfg t ev) := by
  rcases appStep_cases henable h.resume ev with ⟨hq, -⟩ | ⟨order, hnext, -, ha⟩ | ⟨_, _, _, -, hq, -⟩
  · exact h.quiet hq
  · exact h.applied hnext ha hok
  · exact h.quiet hq

theorem release_not_halted (cfg : AppConfig) (henable : cfg.enableRollback = true) (events : List AppEvent)
    (ev : AppEvent) (hok : Guarded (tracedStep cfg) (fun t ev => haltOk cfg t ev = true) .initial (events ++ [ev]))
    (k : ℤ) (hrelease : (appStep cfg (run (tracedStep cfg) .initial events).app ev).2.released = some k) :
    ∃ order, (run (tracedStep cfg) .initial (events ++ [ev])).history.slot = some order ∧
      order.epoch ∉ (run (tracedStep cfg) .initial (events ++ [ev])).history.standing := by
  obtain ⟨hpre, hlast⟩ := guarded_snoc hok
  have hinv := hpre.invariant (HaltInv.step henable) haltInv_initial
  rw [run_append]
  set t := run (tracedStep cfg) .initial events
  have hnext := HaltInv.step henable t ev hinv hlast
  simp only [run_cons, run_nil]
  rcases appStep_cases henable hinv.resume ev with ⟨-, hnone⟩ | ⟨order, happlied, -, ha⟩ | ⟨_, _, _, -, -, hp⟩
  · exact absurd (hnone.symm.trans hrelease) (by simp)
  · cases hown : ownBatch cfg order with
    | none => exact absurd ((ha.noSlot hown).1.symm.trans hrelease) (by simp)
    | some b =>
      have hb : b = 0 := by
        by_contra hne
        have hrel := (ha.slot b hown).1
        rw [if_neg hne] at hrel
        exact absurd (hrel.symm.trans hrelease) (by simp)
      refine ⟨order, by simp [tracedStep, History.observe, ha.applied, hown], fun hmem => ?_⟩
      have hold : order.epoch ∈ t.history.standing := by
        simp only [tracedStep, History.observe, ha.applied, ha.halted, List.nil_append, List.mem_filter] at hmem
        exact hmem.1
      simp [haltOk, happlied, hown, hold, hb] at hlast
  · obtain ⟨order, horder⟩ := hnext.slot hp.waiting
    refine ⟨order, horder, fun hmem => ?_⟩
    exact absurd (hnext.held order horder hmem hp.waiting) (by simp [tracedStep, hp.active])

def fourCars : AppConfig where
  replicaId := 2
  toleratedFaults := 1
  totalVehicles := 4
  enableRollback := true
  clearanceTimeout := 100
  registeredKeys := [(0, zeros 33), (1, zeros 33), (3, zeros 33)]
  verifyBytes := fun _ _ sig => decide (sig = [7])

def orderDecisionBytes (epoch : ℕ) (slots : List (ℤ × ℕ)) : Bytes :=
  (OrderHdr.mk epoch slots.length 2).bytes ++ slots.flatMap fun slot => (VehicleDecision.mk slot.1 slot.2).bytes

def crashCancelBytes (epoch : ℕ) : Bytes := CancelDecisionHdr.bytes ⟨cancelDecisionMagic, epoch, 0, 9, zeros 32⟩

def crashCertBytes (epoch : String) : Bytes :=
  ascii ("CANCEL_CERT|" ++ epoch ++ "|0|blocked_batch|0:") ++ toHex (zeros 33) ++ ascii ",07|1:" ++ toHex (zeros 33) ++
    ascii ",07"

def cancelledWait : List AppEvent :=
  [.orderDecided (orderDecisionBytes 0 [(0, 0), (1, 0), (2, 1), (3, 1)]), .processOrder false true 5,
    .orderDecided (crashCancelBytes 0), .processOrder false true 6]

def recoveryOrder (slots : List (ℤ × ℕ)) : List AppEvent := [.orderDecided (orderDecisionBytes 1 slots)]

theorem release_not_halted_recovery :
    ∃ order, (run (tracedStep fourCars) .initial
        ((cancelledWait ++ recoveryOrder [(2, 0), (0, 1)]) ++ [.processOrder false true 8])).history.slot = some order ∧
      order.epoch ∉ (run (tracedStep fourCars) .initial
        ((cancelledWait ++ recoveryOrder [(2, 0), (0, 1)]) ++ [.processOrder false true 8])).history.standing :=
  release_not_halted fourCars rfl (cancelledWait ++ recoveryOrder [(2, 0), (0, 1)]) (.processOrder false true 8)
    (by decide +kernel) 0 (by decide +kernel)

-- the certificate for epoch 1 arrives before ORDER 1, which is applied and releases batch 0
theorem halted_order_released :
    (appStep fourCars (run (tracedStep fourCars) .initial
        (cancelledWait ++ .cancelCert (crashCertBytes "1") true :: recoveryOrder [(2, 0), (0, 1)])).app
      (.processOrder false true 8)).2.released = some 0 ∧
    (run (tracedStep fourCars) .initial
        ((cancelledWait ++ .cancelCert (crashCertBytes "1") true :: recoveryOrder [(2, 0), (0, 1)]) ++
          [.processOrder false true 8])).history.slot.map OrderDecision.epoch = some 1 ∧
    1 ∈ (run (tracedStep fourCars) .initial
        ((cancelledWait ++ .cancelCert (crashCertBytes "1") true :: recoveryOrder [(2, 0), (0, 1)]) ++
          [.processOrder false true 8])).history.standing := by
  decide +kernel

end V2vBft.App
