import V2vBft.App.DecisionCodec
import V2vBft.App.EpochFrame
import V2vBft.Crossing.World

/-! The vehicles of one ORDER keep apart in the conflict box, as the schedule behind that ORDER promises. -/

namespace V2vBft.Crossing

open Wire App Pbft Bridge Scheduler Library.GuardedRun Library.BatchGate

variable {cfg : AppConfig} {s s' : AppState} {fx : Effects} {fleet : Fleet} {dec : Bytes} {w : World} {ev : AppEvent}
  {traci : Traci}

structure CarInv (cfg : AppConfig) (dec : Bytes) (s : AppState) : Prop where
  pending : ∀ d ∈ s.pendingOrders, isCancelDecision d = true ∨ d = dec
  resume : s.resumeScheduled = false
  slot : 0 < s.myBatchIndex → ownBatch cfg (OrderDecision.read dec) = some s.myBatchIndex ∧
    s.precedingBatchCars = (OrderDecision.read dec).batch (s.myBatchIndex - 1)

structure Due (cfg : AppConfig) (dec : Bytes) (traci : Traci) (k : ℤ) : Prop where
  slot : ownBatch cfg (OrderDecision.read dec) = some k
  behind : 0 < k → ∀ rid ∈ (OrderDecision.read dec).batch (k - 1), hasCleared traci rid = true

lemma carInv_initial : CarInv cfg dec .initial :=
  ⟨fun _ hd => absurd hd List.not_mem_nil, rfl, fun hpos => absurd hpos (by decide)⟩

lemma CarInv.quiet (h : CarInv cfg dec s) (hq : Quiet s s' fx)
    (hpending : ∀ d ∈ s'.pendingOrders, isCancelDecision d = true ∨ d = dec) : CarInv cfg dec s' := by
  refine ⟨hpending, eq_false_of_ne_true fun hr => absurd (hq.resume hr) (by simp [h.resume]), fun hpos => ?_⟩
  rw [hq.myBatchIndex, hq.precedingBatchCars]
  exact h.slot (hq.myBatchIndex ▸ hpos)

lemma CarInv.applied {now : ℤ} (h : CarInv cfg dec s) (ha : Applied cfg s s' fx (OrderDecision.read dec) now)
    (hpending : ∀ d ∈ s'.pendingOrders, isCancelDecision d = true ∨ d = dec) : CarInv cfg dec s' := by
  refine ⟨hpending, ha.resume.trans h.resume, fun hpos => ?_⟩
  cases hown : ownBatch cfg (OrderDecision.read dec) with
  | none =>
    obtain ⟨-, hb, -⟩ := ha.noSlot hown
    exact absurd (hown.symm.trans (h.slot (hb ▸ hpos)).1) (by simp)
  | some b =>
    obtain ⟨-, hb, hc, -⟩ := ha.slot b hown
    rw [hb] at hpos
    rw [hb, hc, if_pos hpos]
    exact ⟨rfl, rfl⟩

lemma appliedNext_read {order : OrderDecision} (hpending : ∀ d ∈ s.pendingOrders, isCancelDecision d = true ∨ d = dec)
    (h : appliedNext s ev = some order) : order = OrderDecision.read dec := by
  cases ev with
  | processOrder completed recallable now =>
    cases hqueue : s.pendingOrders with
    | nil => simp [appliedNext, hqueue] at h
    | cons d rest =>
      simp only [appliedNext, hqueue] at h
      split at h
      next => simp at h
      next hcancel =>
        obtain ⟨hadmitted, -⟩ := Option.filter_eq_some_iff.mp h
        obtain rfl := (hpending d (hqueue ▸ List.mem_cons_self)).resolve_left hcancel
        exact (admittedOrder_some hadmitted).1
  | _ => simp [appliedNext] at h

lemma CarInv.step (henable : cfg.enableRollback = true) (h : CarInv cfg dec s)
    (hdelivered : ∀ d ∈ delivered cfg s ev, isCancelDecision d = true ∨ d = dec)
    (hcleared : ∀ rid ∈ ev.cleared, hasCleared traci rid = true) (htime : inTime cfg s ev = true) :
    CarInv cfg dec (appStep cfg s ev).1 ∧ ∀ k, (appStep cfg s ev).2.released = some k → Due cfg dec traci k := by
  have hpending : ∀ d ∈ (appStep cfg s ev).1.pendingOrders, isCancelDecision d = true ∨ d = dec :=
    fun d hd => (appStep_pending ev hd).elim (h.pending d) (hdelivered d)
  rcases appStep_cases henable h.resume ev with ⟨hq, hnone⟩ | ⟨order, hnext, -, ha⟩ | ⟨formed, cleared, now, rfl, hq, hp⟩
  · exact ⟨h.quiet hq hpending, fun k hk => absurd (hnone.symm.trans hk) (by simp)⟩
  · obtain rfl := appliedNext_read h.pending hnext
    refine ⟨h.applied ha hpending, fun k hk => ?_⟩
    cases hown : ownBatch cfg (OrderDecision.read dec) with
    | none => exact absurd ((ha.noSlot hown).1.symm.trans hk) (by simp)
    | some b =>
      have hrel := (ha.slot b hown).1.symm.trans hk
      split at hrel
      next hb =>
        obtain rfl := Option.some.inj hrel
        exact ⟨hown.trans (congrArg some hb), fun hpos => absurd hpos (lt_irrefl _)⟩
      next => exact absurd hrel (by simp)
  · have hkeep := h.quiet hq hpending
    refine ⟨hkeep, fun k hk => ?_⟩
    obtain rfl := Option.some.inj (hp.released.symm.trans hk)
    have hpos := hp.waiting
    rw [AppState.waiting, Bool.and_eq_true, decide_eq_true_eq] at hpos
    obtain ⟨hown, hcars⟩ := hkeep.slot hpos.1
    refine ⟨hown, fun _ rid hrid => hcleared rid ?_⟩
    have hlate : clearanceTimedOut cfg s now = false := by simpa only [inTime, Bool.not_eq_true'] using htime
    have hlate' : clearanceTimedOut cfg (appStep cfg s (.clearancePoll formed cleared now)).1 now = false := by
      rw [← hlate, clearanceTimedOut, clearanceTimedOut, hq.clearanceStarted]
    rw [← hcars] at hrid
    exact hp.entitled.resolve_right (by simp [hlate']) rid hrid

structure World.Inv (fleet : Fleet) (dec : Bytes) (w : World) : Prop where
  car : ∀ i, CarInv (fleet.cfg i) dec (w.app i)
  gate : Reaches (slotOf fleet dec) .closed (gateOf dec w)

lemma worldInv_initial (hstart : ∀ rid ∈ carsOf dec, hasEntered traci rid = false) :
    (World.initial traci).Inv fleet dec := by
  refine ⟨fun _ => carInv_initial, ?_⟩
  have hentered : ∀ rid ∈ carsOf dec, ¬hasEntered traci rid = true := fun rid hrid => by simp [hstart rid hrid]
  have hclosed : gateOf dec (World.initial traci) = .closed := by
    rw [gateOf, Gate.closed, Gate.mk.injEq]
    refine ⟨Set.eq_empty_of_forall_notMem fun _ h => absurd h List.not_mem_nil, ?_, ?_⟩
    · exact Set.eq_empty_of_forall_notMem fun rid h => hentered rid h.1 h.2
    · exact Set.eq_empty_of_forall_notMem fun rid h => hentered rid h.1 (hasEntered_of_hasCleared h.2)
  rw [hclosed]
  exact Relation.ReflTransGen.refl

lemma gate_release {i k : ℤ} (hdue : Due (fleet.cfg i) dec w.traci k) (app : ℤ → AppState) :
    Step (slotOf fleet dec) (gateOf dec w) (gateOf dec ⟨app, i :: w.released, w.traci⟩) := by
  have hinsert : gateOf dec ⟨app, i :: w.released, w.traci⟩ =
      { gateOf dec w with released := insert i (gateOf dec w).released } := by
    simp only [gateOf, Gate.mk.injEq, and_self, and_true]
    ext j
    simp
  obtain ⟨n, rfl⟩ := Int.eq_ofNat_of_zero_le (ownBatch_nonneg hdue.slot)
  rw [hinsert]
  refine Step.release i n (slotOf_eq_some.mpr hdue.slot) fun j hj u hu => ?_
  have hbatch := slotOf_eq_some.mp hu
  refine ⟨mem_carsOf_of_ownBatch hbatch, hdue.behind (by omega) u ?_⟩
  rw [show (n : ℤ) - 1 = j by omega]
  exact mem_batch_of_ownBatch (fleet.replicaId u) hbatch

lemma gate_move (hok : w.ok fleet dec (.traci traci)) :
    Step (slotOf fleet dec) (gateOf dec w) (gateOf dec { w with traci := traci }) := by
  refine Step.move (gateOf dec { w with traci := traci }).entered (gateOf dec { w with traci := traci }).cleared ?_ ?_ ?_ ?_
  · exact fun rid h => ⟨h.1, (hok rid h.1).2.1 h.2⟩
  · exact fun rid h => ((hok rid h.1).1 h.2).imp (fun hold => ⟨h.1, hold⟩) id
  · exact fun rid h => ⟨h.1, (hok rid h.1).2.2 h.2⟩
  · exact fun rid h => ⟨h.1, hasEntered_of_hasCleared h.2⟩

lemma World.Inv.step (w : World) (ev : WorldEvent) (h : w.Inv fleet dec) (hok : w.ok fleet dec ev) :
    (worldStep fleet w ev).Inv fleet dec := by
  cases ev with
  | traci traci => exact ⟨h.car, h.gate.tail (gate_move hok)⟩
  | app i ev =>
    obtain ⟨hdelivered, hcleared, htime⟩ := hok
    obtain ⟨hcar, hdue⟩ := (h.car i).step (fleet.enableRollback i) hdelivered hcleared htime
    refine ⟨fun j => ?_, ?_⟩
    · by_cases hj : j = i
      · subst hj
        simpa only [worldStep, Function.update_self] using hcar
      · simpa only [worldStep, Function.update_of_ne hj] using h.car j
    · simp only [worldStep]
      cases hrel : (appStep (fleet.cfg i) (w.app i) ev).2.released with
      | none =>
        simp only [Option.isSome_none, Bool.false_eq_true, if_false]
        exact h.gate
      | some k =>
        simp only [Option.isSome_some, if_true]
        exact h.gate.tail (gate_release (hdue k hrel) _)

structure Scheduled (entries : List VehicleEntry) (dec : Bytes) : Prop where
  distinct : Distinct entries
  small : entries.length < 4294967296
  nBatches : (OrderDecision.read dec).nBatches ≤ entries.length
  order : CrossingOrder entries (OrderDecision.read dec).nBatches (OrderDecision.read dec).decisions

section

variable {entries : List VehicleEntry}

lemma signed32_eq {v : ℕ} {k : ℤ} (hv : v < 4294967296) (hk : 0 ≤ k) (h : signed32 v = k) : (v : ℤ) = k := by
  unfold signed32 at h
  split at h <;> omega

lemma Scheduled.carsOf (h : Scheduled entries dec) : carsOf dec = entries.map VehicleEntry.replicaId := h.order.complete

lemma Scheduled.batchIndex_lt (h : Scheduled entries dec) {d : VehicleDecision}
    (hd : d ∈ (OrderDecision.read dec).decisions) : d.batchIndex < 4294967296 :=
  (h.order.bounded d hd).trans_le (h.nBatches.trans h.small.le)

lemma Scheduled.decision_of_slot (h : Scheduled entries dec) {i : ℤ} {k : ℕ} (hslot : slotOf fleet dec i = some k) :
    ⟨i, k⟩ ∈ (OrderDecision.read dec).decisions := by
  obtain ⟨d, hd, hrid, hb⟩ := ownBatch_decision (fleet.replicaId i) (slotOf_eq_some.mp hslot)
  have hk := signed32_eq (h.batchIndex_lt hd) (Int.natCast_nonneg k) hb
  obtain rfl : d.batchIndex = k := by exact_mod_cast hk
  rwa [← hrid]

lemma Scheduled.slot_of_decision (h : Scheduled entries dec) {i : ℤ} {k : ℕ} (hk : k < 2147483648)
    (hd : ⟨i, k⟩ ∈ (OrderDecision.read dec).decisions) : slotOf fleet dec i = some k := by
  have hnodup : ((OrderDecision.read dec).decisions.map VehicleDecision.replicaId).Nodup :=
    h.order.complete ▸ h.distinct
  rw [slotOf_eq_some, ownBatch]
  have hfind : (OrderDecision.read dec).decisions.find? (fun d => decide (d.replicaId = (fleet.cfg i).replicaId)) =
      some ⟨i, k⟩ := by
    cases hf : (OrderDecision.read dec).decisions.find? (fun d => decide (d.replicaId = (fleet.cfg i).replicaId)) with
    | none => exact absurd (List.find?_eq_none.mp hf _ hd) (by simp [fleet.replicaId])
    | some d =>
      have hid := List.find?_some hf
      simp only [decide_eq_true_eq, fleet.replicaId] at hid
      exact congrArg some (List.inj_on_of_nodup_map hnodup (List.mem_of_find?_eq_some hf) hd hid)
  have hsigned : signed32 k = k := if_pos hk
  rw [hfind]
  simp only [hsigned]
  rw [if_neg (by omega)]

lemma Scheduled.slot_lt (h : Scheduled entries dec) {i : ℤ} {k : ℕ} (hslot : slotOf fleet dec i = some k) :
    k < 2147483648 := by
  obtain ⟨d, hd, -, hb⟩ := ownBatch_decision (fleet.replicaId i) (slotOf_eq_some.mp hslot)
  have hrange := (signed32_range (h.batchIndex_lt hd)).2
  rw [hb] at hrange
  exact_mod_cast hrange

lemma Scheduled.gapless (h : Scheduled entries dec) : Gapless (slotOf fleet dec) := by
  intro v k hslot
  have hbound := h.order.bounded _ (h.decision_of_slot hslot)
  obtain ⟨⟨u, _⟩, hd, rfl⟩ := h.order.inhabited k (Nat.lt_of_succ_lt hbound)
  exact ⟨u, h.slot_of_decision (Nat.lt_of_succ_lt (h.slot_lt hslot)) hd⟩

lemma accepted_scheduled {env : BridgeEnv} {s : ConsensusState} {request : Request} {payload : Bytes}
    {view : ProposalView} {exec : ExecutorEnv} (h : AcceptsProposal env s request payload view)
    (horder : view.isCancel = false) (hdec : (executeData exec payload).decision = some dec) :
    Scheduled (orderEntries view) dec := by
  obtain ⟨hd, -⟩ := h.wellFormed horder
  obtain ⟨hsome, -, hback⟩ := h.orderDecision horder exec
  obtain rfl := Option.some.inj (hsome.symm.trans hdec)
  have hlen : (orderEntries view).length = (orderHdr view).nVehicles := entriesOf_length _ _
  refine ⟨hd, hlen ▸ readU32_lt _ _, ?_, ?_⟩
  · rw [hback.nBatches]
    exact nBatches_le exec.singletonEnv (orderHdr view) hd
  · rw [hback.nBatches, hback.decisions]
    exact scheduleDecisions_spec exec.singletonEnv (orderHdr view) hd

lemma worldInv_start (hs : Scheduled entries dec) (hstart : ∀ e ∈ entries, hasEntered traci e.replicaId = false) :
    (World.initial traci).Inv fleet dec := worldInv_initial fun rid hrid => by
  rw [hs.carsOf] at hrid
  obtain ⟨e, he, rfl⟩ := List.mem_map.mp hrid
  exact hstart e he

structure CrossesSafely (entries : List VehicleEntry) (traci : Traci) : Prop where
  apart : ∀ a ∈ entries, ∀ b ∈ entries, a ≠ b → inBox traci a.replicaId = true → inBox traci b.replicaId = true →
    isSafeToBatch a.lane a.direction b.lane b.direction = true ∧ isQuietEntry a = false ∧ isQuietEntry b = false
  queue : ∀ a ∈ entries, ∀ b ∈ entries, Ahead a b → hasEntered traci b.replicaId = true →
    hasCleared traci a.replicaId = true

lemma World.Inv.orderly (h : w.Inv fleet dec) : Orderly (slotOf fleet dec) (gateOf dec w) :=
  orderly_closed.reaches h.gate

lemma World.Inv.crossesSafely (h : w.Inv fleet dec) (hs : Scheduled entries dec) : CrossesSafely entries w.traci := by
  have horderly := h.orderly
  have hcar : ∀ e ∈ entries, e.replicaId ∈ Crossing.carsOf dec := fun e he => by
    rw [hs.carsOf]
    exact List.mem_map_of_mem he
  refine ⟨fun a ha b hb hne hina hinb => ?_, fun a ha b hb hahead hin => ?_⟩
  · have hinside : ∀ e ∈ entries, inBox w.traci e.replicaId = true →
        e.replicaId ∈ (gateOf dec w).entered \ (gateOf dec w).cleared := fun e he hin =>
      ⟨⟨hcar e he, hasEntered_of_inBox hin⟩, fun hc => absurd hc.2 (by simp [not_hasCleared_of_inBox hin])⟩
    have hsame := horderly.inside_same_slot hs.gapless (hinside a ha hina) (hinside b hb hinb)
    obtain ⟨k, hk, -⟩ := horderly.behind a.replicaId (horderly.entered (hinside a ha hina).1)
    exact hs.order.safe a ha b hb hne k (hs.decision_of_slot hk) (hs.decision_of_slot (hsame ▸ hk))
  · have hreleased := horderly.entered (show b.replicaId ∈ (gateOf dec w).entered from ⟨hcar b hb, hin⟩)
    obtain ⟨k, hk, -⟩ := horderly.behind b.replicaId hreleased
    have hlisted : a.replicaId ∈ (OrderDecision.read dec).decisions.map VehicleDecision.replicaId :=
      hcar a ha
    obtain ⟨⟨i, j⟩, hd, rfl⟩ := List.mem_map.mp hlisted
    have hlt := hs.order.laneOrder a ha b hb hahead.1 ((queueKey_lt a b).mp hahead.2) j k hd (hs.decision_of_slot hk)
    exact (horderly.earlier_cleared hs.gapless hreleased hk
      (hs.slot_of_decision (hlt.trans (hs.slot_lt hk)) hd) hlt).2

end

theorem box_shared_safely (fleet : Fleet) (env : BridgeEnv) (s : ConsensusState) (request : Request) (payload : Bytes)
    (view : ProposalView) (exec : ExecutorEnv) (haccepts : AcceptsProposal env s request payload view)
    (horder : view.isCancel = false) (dec : Bytes) (hdec : (executeData exec payload).decision = some dec)
    (traci : Traci) (hstart : ∀ e ∈ orderEntries view, hasEntered traci e.replicaId = false)
    (events : List WorldEvent) (hok : Guarded (worldStep fleet) (World.ok fleet dec) (.initial traci) events) :
    CrossesSafely (orderEntries view) (run (worldStep fleet) (.initial traci) events).traci := by
  have hs := accepted_scheduled haccepts horder hdec
  exact (hok.invariant World.Inv.step (worldInv_start hs hstart)).crossesSafely hs

def sameCars : Fleet where
  cfg i := { fourCars with replicaId := i }
  replicaId _ := rfl
  enableRollback _ := rfl

-- where each of the cars 0, 1, ... is: "N" approaching, ":" in the box, "C" on a departure leg
def carsAt (places : List String) : Traci :=
  places.zipIdx.map fun p =>
    (Arrival.myCarId p.2, ⟨ascii (p.1 ++ "2_0"), ascii (p.1 ++ "2C"), if p.1 = "C" then 5 else 90⟩)

def twoBatches (dec : Bytes) : List WorldEvent :=
  [.app 0 (.orderDecided dec), .app 1 (.orderDecided dec), .app 2 (.orderDecided dec),
    .app 0 (.processOrder false true 5), .app 1 (.processOrder false true 5), .app 2 (.processOrder false true 5),
    .traci (carsAt [":", ":", "N", "N"]), .traci (carsAt ["C", "C", "N", "N"]), .app 2 (.clearancePoll [] [0, 1] 9),
    .traci (carsAt ["C", "C", ":", "N"])]

def fourCarOrder : Bytes := orderDecisionOf plainExecutor (listingView 0 [0, 1, 2, 3])

theorem box_shared_safely_twoBatches :
    CrossesSafely (orderEntries (listingView 0 [0, 1, 2, 3]))
      (run (worldStep sameCars) (.initial (carsAt ["N", "N", "N", "N"])) (twoBatches fourCarOrder)).traci := by
  have haccepts : AcceptsProposal eightCarEnv (primaryIs 1) (listingRequest 0 [0, 1, 2, 3])
      (listingPayload 0 [0, 1, 2, 3]) (listingView 0 [0, 1, 2, 3]) :=
    ⟨Or.inl rfl, rfl, by decide +kernel, by decide +kernel⟩
  exact box_shared_safely sameCars eightCarEnv (primaryIs 1) (listingRequest 0 [0, 1, 2, 3])
    (listingPayload 0 [0, 1, 2, 3]) (listingView 0 [0, 1, 2, 3]) plainExecutor haccepts rfl fourCarOrder
    (haccepts.orderDecision rfl plainExecutor).1 (carsAt ["N", "N", "N", "N"]) (by decide +kernel)
    (twoBatches fourCarOrder) (by decide +kernel)

end V2vBft.Crossing
