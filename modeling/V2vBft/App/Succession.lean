import V2vBft.App.ClearGate
import V2vBft.App.EpochFrame

/-! The order of epochs: a new one begins with the CANCEL of the one before, and takes one ORDER. -/

namespace V2vBft.App

open Wire Pbft Bridge Library.GuardedRun

variable {cfg : AppConfig} {exec : ExecutorEnv} {s : AppState}

structure Succession where
  replica : Replica
  applied : List ℕ

def Succession.initial : Succession := ⟨.initial, []⟩

def appliedBy (cfg : AppConfig) (r : Replica) : ReplicaEvent → Option OrderDecision
  | .app ev => (appStep cfg r.app ev).2.applied
  | _ => none

def successionStep (cfg : AppConfig) (exec : ExecutorEnv) (t : Succession) (ev : ReplicaEvent) : Succession :=
  ⟨replicaStep cfg exec t.replica ev, ((appliedBy cfg t.replica ev).map OrderDecision.epoch).toList ++ t.applied⟩

-- no ORDER is ahead of the replica's epoch, and a CANCEL is for that epoch or repeats the one pending
def AppState.inStep (s : AppState) : AppEvent → Bool
  | .processOrder _ _ _ =>
    match s.pendingOrders with
    | [] => true
    | dec :: _ =>
      if isCancelDecision dec then
        decide ((CancelDecisionHdr.read dec).cancelledEpoch = s.currentEpoch) ||
          s.repeatsCancel (CancelDecisionHdr.read dec).cancelledEpoch
      else decide ((OrderHdr.read dec).epoch ≤ s.currentEpoch)
  | .decisionGossip _ inner _ =>
    (gossipParse inner).all fun gossip =>
      decide (gossip.1 ≤ s.currentEpoch) && decide ((OrderHdr.read gossip.2).epoch ≤ s.currentEpoch)
  | .cancelCommitGossip _ inner _ => (gossipParse inner).all fun gossip => decide (gossip.1 ≤ s.currentEpoch)
  | _ => true

def Succession.inStep (t : Succession) : ReplicaEvent → Bool
  | .execute _ => true
  | .app ev => t.replica.app.inStep ev
  | .verify _ request =>
    request.data.checkedPayload.all fun payload =>
      (unwrapRollbackIfPresent payload).all fun view =>
        view.isCancel || decide ((orderHdr view).epoch ≤ t.replica.app.currentEpoch)

structure Succeeds (cfg : AppConfig) (t : Succession) (ev : ReplicaEvent) : Prop where
  verified : ∀ inp request view c' k, ev = .verify inp request →
    AcceptsOrder (t.replica.bridgeEnv cfg inp) inp.consensus request view c' → (orderHdr view).epoch = k + 1 →
      t.replica.app.hasCommittedCancel k = true
  applied : ∀ order k, appliedBy cfg t.replica ev = some order → order.epoch = k + 1 →
    t.replica.app.hasCommittedCancel k = true
  adopted : ∀ senderId inner completed epoch orderBytes k, ev = .app (.decisionGossip senderId inner completed) →
    adoptedOrder cfg t.replica.app senderId inner completed = some (epoch, orderBytes) →
      (epoch = k + 1 ∨ (OrderHdr.read orderBytes).epoch = k + 1) → t.replica.app.hasCommittedCancel k = true
  once : ∀ order, appliedBy cfg t.replica ev = some order → order.epoch ∉ t.applied

structure SuccessionInv (t : Succession) : Prop where
  below : ∀ k, k < t.replica.app.currentEpoch → t.replica.app.hasCommittedCancel k = true
  used : ∀ k ∈ t.applied, t.replica.app.isEpochTombstoned k = true ∨
    (k = t.replica.app.currentEpoch ∧ t.replica.app.orderApplied = true)

lemma successionInv_initial : SuccessionInv .initial :=
  ⟨fun _ h => absurd h (Nat.not_lt_zero _), fun _ h => absurd h List.not_mem_nil⟩

lemma isEpochTombstoned_of_cancel {k : ℕ} (h : s.hasCommittedCancel k = true) : s.isEpochTombstoned k = true := by
  rw [AppState.isEpochTombstoned, Bool.or_eq_true]
  exact Or.inr h

lemma SuccessionInv.same {t : Succession} {r : Replica} (h : SuccessionInv t) (hsame : SameEpochs t.replica.app r.app) :
    SuccessionInv ⟨r, t.applied⟩ where
  below := by
    intro k hk
    rw [hsame.hasCommittedCancel]
    exact h.below k (hsame.current ▸ hk)
  used := by
    intro k hk
    rw [hsame.isEpochTombstoned, hsame.current]
    exact (h.used k hk).imp_right fun ⟨hcur, happ⟩ => ⟨hcur, hsame.applied happ⟩

lemma SuccessionInv.cancelled {t : Succession} {r : Replica} {c : ℕ} (h : SuccessionInv t)
    (hc : Cancelled t.replica.app r.app c)
    (hown : c = t.replica.app.currentEpoch ∨ t.replica.app.repeatsCancel c = true) : SuccessionInv ⟨r, t.applied⟩ := by
  have hkeep : ∀ k, t.replica.app.hasCommittedCancel k = true → r.app.hasCommittedCancel k = true := by
    intro k hk
    rw [hc.cancels, hk, Bool.or_true]
  have htomb : ∀ k, t.replica.app.isEpochTombstoned k = true → r.app.isEpochTombstoned k = true := by
    intro k hk
    rw [hc.tombstoned, hk, Bool.or_true]
  cases hrep : t.replica.app.repeatsCancel c with
  | true =>
    obtain ⟨hcur, happ⟩ := hc.repeated hrep
    refine ⟨fun k hk => hkeep k (h.below k (hcur ▸ hk)), fun k hk => ?_⟩
    rw [hcur, happ]
    exact (h.used k hk).imp_left (htomb k)
  | false =>
    obtain ⟨hcur, -⟩ := hc.begun hrep
    have hc' : c = t.replica.app.currentEpoch := hown.resolve_right (by simp [hrep])
    refine ⟨fun k hk => ?_, fun k hk => Or.inl ?_⟩
    · rw [hcur] at hk
      have hle : k ≤ c := Nat.lt_succ_iff.mp (hk.trans_le (Nat.mod_le _ _))
      rcases Nat.lt_or_eq_of_le hle with hlt | heq
      · exact hkeep k (h.below k (hc' ▸ hlt))
      · rw [hc.cancels, heq, decide_eq_true rfl, Bool.true_or]
    · rcases h.used k hk with hold | ⟨heq, -⟩
      · exact htomb k hold
      · rw [hc.tombstoned, heq, hc', decide_eq_true rfl, Bool.true_or]

lemma SuccessionInv.takesOrder {t : Succession} {ev : AppEvent} {order : OrderDecision} (h : SuccessionInv t)
    (hsrc : TakesOrder t.replica.app ev order) (hok : t.replica.app.inStep ev = true) :
    order.epoch = t.replica.app.currentEpoch ∧ order.epoch ∉ t.applied := by
  obtain ⟨completed, recallable, now, dec, rest, rfl, hqueue, hdec, horder⟩ := hsrc
  obtain ⟨rfl, -, htomb, hused⟩ := admittedOrder_some horder
  have hle : (OrderHdr.read dec).epoch ≤ t.replica.app.currentEpoch := by
    simpa only [AppState.inStep, hqueue, hdec, Bool.false_eq_true, if_false, decide_eq_true_eq] using hok
  have heq : (OrderDecision.read dec).epoch = t.replica.app.currentEpoch := by
    rcases Nat.lt_or_eq_of_le hle with hlt | heq
    · exact absurd ((isEpochTombstoned_of_cancel (h.below _ hlt)).symm.trans htomb) (by simp)
    · exact heq
  refine ⟨heq, fun hmem => ?_⟩
  rcases h.used _ hmem with hold | ⟨-, happ⟩
  · exact absurd hold (by simp [htomb])
  · exact absurd (hused happ) (by rw [heq]; exact lt_irrefl _)

lemma SuccessionInv.takesCancel {t : Succession} {ev : AppEvent} {dec : Bytes} (h : SuccessionInv t)
    (hsrc : TakesCancel cfg t.replica.app ev dec) (hok : t.replica.app.inStep ev = true) :
    (CancelDecisionHdr.read dec).cancelledEpoch = t.replica.app.currentEpoch ∨
      t.replica.app.repeatsCancel (CancelDecisionHdr.read dec).cancelledEpoch = true := by
  rcases hsrc with ⟨completed, recallable, now, rest, rfl, hqueue, hdec⟩ | ⟨senderId, inner, recallable, rfl, hadopt⟩
  · simpa only [AppState.inStep, hqueue, hdec, if_true, Bool.or_eq_true, decide_eq_true_eq] using hok
  · obtain ⟨epoch, hparse, hhdr, htomb, -⟩ := adoptedAttestation_some hadopt
    have hle : epoch ≤ t.replica.app.currentEpoch := by
      simpa only [AppState.inStep, hparse, Option.all_some, decide_eq_true_eq] using hok
    rw [hhdr]
    rcases Nat.lt_or_eq_of_le hle with hlt | heq
    · exact absurd (isEpochTombstoned_of_cancel (h.below _ hlt)) (by simp [htomb])
    · exact Or.inl heq

lemma SuccessionInv.step (t : Succession) (ev : ReplicaEvent) (h : SuccessionInv t) (hok : t.inStep ev = true) :
    SuccessionInv (successionStep cfg exec t ev) := by
  cases ev with
  | verify inp request => exact h
  | execute data =>
    apply h.same
    simp only [replicaStep]
    split <;> exact ⟨rfl, rfl, rfl, id⟩
  | app ev =>
    cases appStep_epochs cfg t.replica.app ev with
    | kept hsame hnone =>
      simp only [successionStep, appliedBy, hnone]
      exact h.same hsame
    | cancelled dec hsrc hcancel hnone =>
      simp only [successionStep, appliedBy, hnone]
      exact h.cancelled hcancel (h.takesCancel hsrc hok)
    | applied order hsrc hsame happlied huses =>
      obtain ⟨heq, -⟩ := h.takesOrder hsrc hok
      have hkept := h.same (r := replicaStep cfg exec t.replica (.app ev)) hsame
      simp only [successionStep, appliedBy, happlied]
      refine ⟨hkept.below, fun k hk => ?_⟩
      rcases List.mem_cons.mp hk with rfl | hold
      · exact Or.inr ⟨heq.trans hsame.current.symm, huses heq⟩
      · exact hkept.used k hold

lemma SuccessionInv.succeeds {t : Succession} {ev : ReplicaEvent} (h : SuccessionInv t) (hok : t.inStep ev = true) :
    Succeeds cfg t ev := by
  have htakes : ∀ order, appliedBy cfg t.replica ev = some order →
      order.epoch = t.replica.app.currentEpoch ∧ order.epoch ∉ t.applied := by
    intro order happ
    cases ev with
    | execute data => exact absurd happ (by simp [appliedBy])
    | verify inp request => exact absurd happ (by simp [appliedBy])
    | app ev =>
      cases appStep_epochs cfg t.replica.app ev with
      | kept hsame hnone => exact absurd (hnone.symm.trans happ) (by simp)
      | cancelled dec hsrc hcancel hnone => exact absurd (hnone.symm.trans happ) (by simp)
      | applied o hsrc hsame happlied huses =>
        obtain rfl := Option.some.inj (happlied.symm.trans happ)
        exact h.takesOrder hsrc hok
  refine ⟨?_, fun order k happ hk => ?_, ?_, fun order happ => (htakes order happ).2⟩
  · rintro inp request view c' k rfl haccepts hk
    obtain ⟨payload, rest, hdata, hunwrap⟩ := haccepts.payload
    have hle : (orderHdr view).epoch ≤ t.replica.app.currentEpoch := by
      simpa [Succession.inStep, hdata, BatchData.checkedPayload, hunwrap, haccepts.order] using hok
    exact h.below k (by omega)
  · have heq := (htakes order happ).1
    exact h.below k (by omega)
  · rintro senderId inner completed epoch orderBytes k rfl hadopt hk
    obtain ⟨hparse, -⟩ := adoptedOrder_some hadopt
    have hle : epoch ≤ t.replica.app.currentEpoch ∧ (OrderHdr.read orderBytes).epoch ≤ t.replica.app.currentEpoch := by
      simpa [Succession.inStep, AppState.inStep, hparse] using hok
    exact h.below k (by omega)

theorem epochs_succeed (cfg : AppConfig) (exec : ExecutorEnv) (events : List ReplicaEvent) (ev : ReplicaEvent)
    (hok : Guarded (successionStep cfg exec) (fun t ev => t.inStep ev = true) .initial (events ++ [ev])) :
    Succeeds cfg (run (successionStep cfg exec) .initial events) ev := by
  obtain ⟨hpre, hlast⟩ := guarded_snoc hok
  exact (hpre.invariant SuccessionInv.step successionInv_initial).succeeds hlast

theorem epochs_succeed_recovery :
    Succeeds fourCars (run (successionStep fourCars plainExecutor) .initial
      ((cancelledWait ++ recoveryOrder [(2, 0), (0, 1)]).map .app)) (.app (.processOrder false true 8)) :=
  epochs_succeed fourCars plainExecutor ((cancelledWait ++ recoveryOrder [(2, 0), (0, 1)]).map .app)
    (.app (.processOrder false true 8)) (by decide +kernel)

def orderAhead : List AppEvent :=
  [.orderDecided (orderDecisionBytes 5 [(2, 0), (0, 1)]), .processOrder false true 5,
    .orderDecided (orderDecisionBytes 5 [(2, 1), (0, 0)])]

def gossipAhead (senderId : ℤ) : AppEvent :=
  .decisionGossip senderId (gossipSerialize 5 (orderDecisionBytes 5 [(2, 0), (0, 1)])) false

-- with no CANCEL at all an ORDER of epoch 1 is accepted, two of epoch 5 are applied, and one is adopted
theorem epoch_ahead :
    (AcceptsOrder (Replica.initial.bridgeEnv eightCars eightCarInput) (primaryIs 1) (listingRequest 0 [0, 1, 2, 3])
        (listingView 0 [0, 1, 2, 3]) (orderAccepted .initial (listingPayload 0 [0, 1, 2, 3])) ∧
      (orderHdr (listingView 0 [0, 1, 2, 3])).epoch = 1 ∧ AppState.initial.hasCommittedCancel 0 = false) ∧
    ((run (successionStep fourCars plainExecutor) .initial
        (orderAhead.map .app ++ [.app (.processOrder false true 6)])).applied = [5, 5] ∧
      (run (successionStep fourCars plainExecutor) .initial
        (orderAhead.map .app ++ [.app (.processOrder false true 6)])).replica.app.committedCancels = []) ∧
    (adoptedOrder fourCars (run (successionStep fourCars plainExecutor) .initial [.app (gossipAhead 0)]).replica.app 1
        (gossipSerialize 5 (orderDecisionBytes 5 [(2, 0), (0, 1)])) false =
          some (5, orderDecisionBytes 5 [(2, 0), (0, 1)]) ∧
      (run (successionStep fourCars plainExecutor) .initial [.app (gossipAhead 0)]).replica.app.committedCancels = []) :=
  ⟨⟨⟨Or.inl rfl, ⟨_, [], rfl, by decide +kernel⟩, rfl, by decide +kernel⟩, by decide +kernel, rfl⟩,
    by decide +kernel, by decide +kernel⟩

end V2vBft.App
