import V2vBft.App.ReleaseEntitlement
import V2vBft.Crossing.Traci
import V2vBft.Library.BatchGate

/-! All vehicles of one ORDER at the junction: their applications take steps while SUMO moves the cars. -/

namespace V2vBft.Crossing

open Wire App Library.GuardedRun Library.BatchGate

structure Fleet where
  cfg : ℤ → AppConfig
  replicaId : ∀ i, (cfg i).replicaId = i
  enableRollback : ∀ i, (cfg i).enableRollback = true

-- released: the vehicles that resumeVehicle has been called for
structure World where
  app : ℤ → AppState
  released : List ℤ
  traci : Traci

def World.initial (traci : Traci) : World := ⟨fun _ => .initial, [], traci⟩

inductive WorldEvent
  | app (replica : ℤ) (ev : AppEvent)
  | traci (traci : Traci)

def worldStep (fleet : Fleet) (w : World) : WorldEvent → World
  | .app i ev =>
    let r := appStep (fleet.cfg i) (w.app i) ev
    { w with
      app := Function.update w.app i r.1
      released := if r.2.released.isSome then i :: w.released else w.released }
  | .traci traci => { w with traci := traci }

def delivered (cfg : AppConfig) (s : AppState) : AppEvent → List Bytes
  | .orderDecided dec => [dec]
  | .decisionGossip senderId inner completed => ((adoptedOrder cfg s senderId inner completed).map Prod.snd).toList
  | _ => []

def inTime (cfg : AppConfig) (s : AppState) : AppEvent → Bool
  | .clearancePoll _ _ now => !clearanceTimedOut cfg s now
  | _ => true

def carsOf (dec : Bytes) : List ℤ := (OrderDecision.read dec).decisions.map VehicleDecision.replicaId

-- consensus hands out `dec` and CANCELs only, polls see what TraCI shows, and no car moves off unreleased or backs up
def World.ok (fleet : Fleet) (dec : Bytes) (w : World) : WorldEvent → Prop
  | .app i ev =>
    (∀ d ∈ delivered (fleet.cfg i) (w.app i) ev, isCancelDecision d = true ∨ d = dec) ∧
      (∀ rid ∈ ev.cleared, hasCleared w.traci rid = true) ∧ inTime (fleet.cfg i) (w.app i) ev = true
  | .traci traci => ∀ rid ∈ carsOf dec,
    (hasEntered traci rid = true → hasEntered w.traci rid = true ∨ rid ∈ w.released) ∧
      (hasEntered w.traci rid = true → hasEntered traci rid = true) ∧
      (hasCleared w.traci rid = true → hasCleared traci rid = true)

instance instDecidableWorldOk (fleet : Fleet) (dec : Bytes) (w : World) : ∀ ev, Decidable (w.ok fleet dec ev)
  | .app i ev => inferInstanceAs (Decidable ((∀ d ∈ delivered (fleet.cfg i) (w.app i) ev,
      isCancelDecision d = true ∨ d = dec) ∧ (∀ rid ∈ ev.cleared, hasCleared w.traci rid = true) ∧
      inTime (fleet.cfg i) (w.app i) ev = true))
  | .traci traci => inferInstanceAs (Decidable (∀ rid ∈ carsOf dec,
      (hasEntered traci rid = true → hasEntered w.traci rid = true ∨ rid ∈ w.released) ∧
      (hasEntered w.traci rid = true → hasEntered traci rid = true) ∧
      (hasCleared w.traci rid = true → hasCleared traci rid = true)))

def slotOf (fleet : Fleet) (dec : Bytes) (i : ℤ) : Option ℕ :=
  (ownBatch (fleet.cfg i) (OrderDecision.read dec)).map Int.toNat

def gateOf (dec : Bytes) (w : World) : Gate ℤ where
  released := {i | i ∈ w.released}
  entered := {i | i ∈ carsOf dec ∧ hasEntered w.traci i = true}
  cleared := {i | i ∈ carsOf dec ∧ hasCleared w.traci i = true}

variable {cfg : AppConfig} {s s' : AppState} {fx : Effects} {fleet : Fleet} {dec : Bytes} {w : World} {ev : AppEvent}
  {order : OrderDecision}

lemma ownBatch_nonneg {b : ℤ} (h : ownBatch cfg order = some b) : 0 ≤ b := by
  unfold ownBatch at h
  split at h
  next => simp at h
  next d _ =>
    split at h
    next => simp at h
    next hneg => exact Option.some.inj h ▸ not_lt.mp hneg

lemma slotOf_eq_some {i : ℤ} {k : ℕ} :
    slotOf fleet dec i = some k ↔ ownBatch (fleet.cfg i) (OrderDecision.read dec) = some (k : ℤ) := by
  unfold slotOf
  constructor
  · intro h
    obtain ⟨b, hb, hk⟩ := Option.map_eq_some_iff.mp h
    rw [hb, ← hk, Int.toNat_of_nonneg (ownBatch_nonneg hb)]
  · intro h
    rw [h]
    rfl

lemma ownBatch_decision {i b : ℤ} (hid : cfg.replicaId = i) (h : ownBatch cfg order = some b) :
    ∃ d ∈ order.decisions, d.replicaId = i ∧ signed32 d.batchIndex = b := by
  unfold ownBatch at h
  split at h
  next => simp at h
  next d hd =>
    split at h
    next => simp at h
    next =>
      have hrid := List.find?_some hd
      simp only [decide_eq_true_eq] at hrid
      exact ⟨d, List.mem_of_find?_eq_some hd, hrid.trans hid, Option.some.inj h⟩

lemma mem_batch_of_ownBatch {i b : ℤ} (hid : cfg.replicaId = i) (h : ownBatch cfg order = some b) :
    i ∈ order.batch b := by
  obtain ⟨d, hd, hrid, hb⟩ := ownBatch_decision hid h
  exact List.mem_map.mpr ⟨d, List.mem_filter.mpr ⟨hd, by simp [hb]⟩, hrid⟩

lemma mem_carsOf_of_ownBatch {i b : ℤ} (h : ownBatch (fleet.cfg i) (OrderDecision.read dec) = some b) :
    i ∈ carsOf dec := by
  obtain ⟨d, hd, hrid, -⟩ := ownBatch_decision (fleet.replicaId i) h
  exact List.mem_map.mpr ⟨d, hd, hrid⟩

lemma handleValidCancelJustification_pending (epoch : ℕ) (recallable : Bool) :
    (handleValidCancelJustification cfg s epoch recallable).1.pendingOrders = s.pendingOrders := by
  unfold handleValidCancelJustification
  repeat' split
  all_goals rfl

lemma broadcastCancelCert_pending (cert : CancelCert) (recallable : Bool) :
    (broadcastCancelCert cfg s cert recallable).1.pendingOrders = s.pendingOrders := by
  unfold broadcastCancelCert
  split
  next => exact handleValidCancelJustification_pending ..
  next => rfl

lemma perceiveCrashes_pending (formed : List (CancelCert × Bool)) :
    (perceiveCrashes cfg s formed).1.pendingOrders = s.pendingOrders := by
  induction formed generalizing s with
  | nil => rfl
  | cons first formed ih => exact ih.trans (broadcastCancelCert_pending first.1 first.2)

lemma commitCancel_pending (d : Bytes) (adopted recallable : Bool) :
    (commitCancel cfg s d adopted recallable).1.pendingOrders = s.pendingOrders := by
  unfold commitCancel beginPostCancelDiscovery
  dsimp only
  split <;> rfl

lemma applyOrder_pending (now : ℤ) : (applyOrder cfg s order now).1.pendingOrders = s.pendingOrders := by
  unfold applyOrder takeSlot
  dsimp only
  repeat' split
  all_goals rfl

lemma releaseWaiting_pending (cleared : List ℤ) (now : ℤ) :
    (releaseWaiting cfg s cleared now).1.pendingOrders = s.pendingOrders := by
  unfold releaseWaiting
  repeat' split
  all_goals rfl

lemma recordOrderVote_pending (senderId : ℤ) (inner : Bytes) (completed : Bool) :
    (recordOrderVote s senderId inner completed).pendingOrders = s.pendingOrders := by
  unfold recordOrderVote
  repeat' split
  all_goals rfl

lemma recordCancelVote_pending (senderId : ℤ) (inner : Bytes) :
    (recordCancelVote s senderId inner).pendingOrders = s.pendingOrders := by
  unfold recordCancelVote
  repeat' split
  all_goals rfl

lemma appStep_pending (ev : AppEvent) {d : Bytes} (hd : d ∈ (appStep cfg s ev).1.pendingOrders) :
    d ∈ s.pendingOrders ∨ d ∈ delivered cfg s ev := by
  cases ev with
  | orderDecided dec => exact List.mem_append.mp hd
  | decisionGossip senderId inner completed =>
    simp only [appStep, handleDecisionGossip] at hd
    cases hadopt : adoptedOrder cfg s senderId inner completed with
    | none =>
      simp only [hadopt, recordOrderVote_pending] at hd
      exact Or.inl hd
    | some adopted =>
      simp only [hadopt] at hd
      simpa only [delivered, hadopt, Option.map_some, Option.toList_some] using List.mem_append.mp hd
  | processOrder completed recallable now =>
    refine Or.inl ?_
    simp only [appStep, processOrder] at hd
    cases hqueue : s.pendingOrders with
    | nil => rwa [hqueue, hqueue] at hd
    | cons first rest =>
      simp only [hqueue, processDecision] at hd
      refine List.mem_cons_of_mem first ?_
      split at hd
      next => rwa [commitCancel_pending] at hd
      next =>
        cases hadmitted : admittedOrder { s with pendingOrders := rest } first completed with
        | none => simpa only [hadmitted] using hd
        | some order => simpa only [hadmitted, applyOrder_pending] using hd
  | cancelCert payload recallable =>
    refine Or.inl ?_
    simp only [appStep, handleCancelCert] at hd
    repeat' split at hd
    all_goals first | exact hd | rwa [handleValidCancelJustification_pending] at hd
  | cancelCertFormed cert recallable => exact Or.inl (broadcastCancelCert_pending cert recallable ▸ hd)
  | cancelCommitGossip senderId inner recallable =>
    refine Or.inl ?_
    simp only [appStep, handleCancelCommitGossip] at hd
    split at hd
    next => rwa [recordCancelVote_pending] at hd
    next => rwa [commitCancel_pending, recordCancelVote_pending] at hd
  | clearancePoll formed cleared now =>
    refine Or.inl ?_
    simp only [appStep, clearancePoll] at hd
    split at hd
    next =>
      rw [releaseWaiting_pending] at hd
      split at hd
      next => rwa [perceiveCrashes_pending] at hd
      next => exact hd
    next => exact hd
  | resumeTimer =>
    refine Or.inl ?_
    simp only [appStep, resumeTimer] at hd
    repeat' split at hd
    all_goals exact hd
  | orderTimeout =>
    refine Or.inl ?_
    simp only [appStep, orderTimeout] at hd
    split at hd
    all_goals exact hd
  | disableCrashComms => exact Or.inl hd

end V2vBft.Crossing
