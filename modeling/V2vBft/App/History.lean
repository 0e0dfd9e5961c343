import V2vBft.App.Intersection
import V2vBft.Library.GuardedRun

namespace V2vBft.App

open Wire

variable {cfg : AppConfig} {s s' : AppState} {fx : Effects} {order : OrderDecision}

-- CANCELs not superseded by a later ORDER, applied ORDERs from the last on, and the ORDER behind my_batch_index_
structure History where
  standing : List ℕ
  applied : List (OrderDecision × ℤ)
  slot : Option OrderDecision
  deriving DecidableEq, Repr

def History.initial : History := ⟨[], [], none⟩

def History.observe (cfg : AppConfig) (h : History) (fx : Effects) (now : ℤ) : History :=
  match fx.applied with
  | none => { h with standing := fx.halted ++ h.standing }
  | some order =>
    { standing := fx.halted ++ h.standing.filter fun e => decide (order.epoch ≤ e)
      applied := (order, now) :: h.applied
      slot := if (ownBatch cfg order).isSome then some order else h.slot }

structure Traced where
  app : AppState
  history : History
  deriving DecidableEq, Repr

def Traced.initial : Traced := ⟨.initial, .initial⟩

def AppEvent.now : AppEvent → ℤ
  | .processOrder _ _ now => now
  | .clearancePoll _ _ now => now
  | _ => 0

def tracedStep (cfg : AppConfig) (t : Traced) (ev : AppEvent) : Traced :=
  ⟨(appStep cfg t.app ev).1, t.history.observe cfg (appStep cfg t.app ev).2 ev.now⟩

def Traced.currentOrder (t : Traced) : Option (OrderDecision × ℤ) :=
  t.history.applied.find? fun a => !t.app.isEpochTombstoned a.1.epoch

def AppState.skips (s : AppState) (order : OrderDecision) : Bool :=
  s.cancelPending && !decide (order.epoch = s.rollbackNewEpoch) && decide (order.epoch = s.cancelledEpoch)

def AppState.staysCancelled (s : AppState) (order : OrderDecision) : Bool :=
  s.cancelConsensusPending || (s.cancelPending && !decide (order.epoch = s.rollbackNewEpoch))

def appliedNext (s : AppState) : AppEvent → Option OrderDecision
  | .processOrder completed _ _ =>
    match s.pendingOrders with
    | [] => none
    | dec :: _ =>
      if isCancelDecision dec then none
      else (admittedOrder s dec completed).filter fun order => !s.skips order
  | _ => none

structure Quiet (s s' : AppState) (fx : Effects) : Prop where
  applied : fx.applied = none
  myBatchIndex : s'.myBatchIndex = s.myBatchIndex
  precedingBatchCars : s'.precedingBatchCars = s.precedingBatchCars
  clearanceStarted : s'.clearanceStarted = s.clearanceStarted
  active : s.cancelActive = true → s'.cancelActive = true
  halts : fx.halted ≠ [] → s'.cancelActive = true
  tombstones : s'.cancelActive = true ∨ ∀ e, s'.isEpochTombstoned e = s.isEpochTombstoned e
  resume : s'.resumeScheduled = true → s.resumeScheduled = true

lemma Quiet.refl (s : AppState) : Quiet s s .none :=
  ⟨rfl, rfl, rfl, rfl, id, fun h => absurd rfl h, Or.inr fun _ => rfl, id⟩

lemma Quiet.waiting (h : Quiet s s' fx) : s'.waiting = s.waiting := by
  rw [AppState.waiting, AppState.waiting, h.myBatchIndex, h.precedingBatchCars]

lemma Quiet.trans {s'' : AppState} {fx' : Effects} (h : Quiet s s' fx) (h' : Quiet s' s'' fx') :
    Quiet s s'' ⟨fx.halted ++ fx'.halted, none, fx'.released⟩ where
  applied := rfl
  myBatchIndex := h'.myBatchIndex.trans h.myBatchIndex
  precedingBatchCars := h'.precedingBatchCars.trans h.precedingBatchCars
  clearanceStarted := h'.clearanceStarted.trans h.clearanceStarted
  active := fun ha => h'.active (h.active ha)
  halts := by
    intro hne
    by_cases hfirst : fx.halted = []
    · exact h'.halts fun hlater => hne (by simp [hfirst, hlater])
    · exact h'.active (h.halts hfirst)
  tombstones := by
    rcases h'.tombstones with ha | ht'
    · exact Or.inl ha
    · rcases h.tombstones with ha | ht
      · exact Or.inl (h'.active ha)
      · exact Or.inr fun e => (ht' e).trans (ht e)
  resume := fun hr => h.resume (h'.resume hr)

lemma handleValidCancelJustification_quiet (cfg : AppConfig) (s : AppState) (epoch : ℕ) (recallable : Bool) :
    Quiet s (handleValidCancelJustification cfg s epoch recallable).1
      (handleValidCancelJustification cfg s epoch recallable).2 := by
  unfold handleValidCancelJustification
  split
  next => exact Quiet.refl s
  next =>
    split
    next hpending =>
      have hactive : s.cancelActive = true := (Bool.and_eq_true_iff.mp hpending).1
      exact ⟨rfl, rfl, rfl, rfl, id, fun _ => hactive, Or.inr fun _ => rfl, id⟩
    next =>
      split
      next => exact Quiet.refl s
      next =>
        have hflag : ∀ b : Bool, (b || true) = true := Bool.or_true
        exact ⟨rfl, rfl, rfl, rfl, fun _ => hflag _, fun _ => hflag _, Or.inl (hflag _),
          fun hr => (Bool.and_eq_true_iff.mp hr).1⟩

lemma seeCancelCert_quiet (cert : CancelCert) : Quiet s (s.seeCancelCert cert) .none :=
  ⟨rfl, rfl, rfl, rfl, id, fun h => absurd rfl h, Or.inr fun _ => rfl, id⟩

lemma broadcastCancelCert_quiet (cert : CancelCert) (recallable : Bool) :
    Quiet s (broadcastCancelCert cfg s cert recallable).1 (broadcastCancelCert cfg s cert recallable).2 := by
  unfold broadcastCancelCert
  split
  next =>
    have h := (seeCancelCert_quiet (s := s) cert).trans
      (handleValidCancelJustification_quiet cfg (s.seeCancelCert cert) cert.cancelledEpoch recallable)
    exact ⟨(handleValidCancelJustification_quiet ..).applied, h.2, h.3, h.4, h.5, h.6, h.7, h.8⟩
  next => exact Quiet.refl s

lemma handleCancelCert_quiet (payload : Bytes) (recallable : Bool) :
    Quiet s (handleCancelCert cfg s payload recallable).1 (handleCancelCert cfg s payload recallable).2 := by
  unfold handleCancelCert
  split
  next => exact Quiet.refl s
  next cert _ =>
    split
    next => exact Quiet.refl s
    next =>
      split
      next =>
        split
        next =>
          have h := (seeCancelCert_quiet (s := s) cert).trans
            (handleValidCancelJustification_quiet cfg (s.seeCancelCert cert) cert.cancelledEpoch recallable)
          exact ⟨(handleValidCancelJustification_quiet ..).applied, h.2, h.3, h.4, h.5, h.6, h.7, h.8⟩
        next => exact seeCancelCert_quiet cert
      next => exact Quiet.refl s

lemma perceiveCrashes_quiet (formed : List (CancelCert × Bool)) :
    Quiet s (perceiveCrashes cfg s formed).1 ⟨(perceiveCrashes cfg s formed).2, none, none⟩ := by
  induction formed generalizing s with
  | nil => exact Quiet.refl s
  | cons first formed ih => exact (broadcastCancelCert_quiet first.1 first.2).trans ih

lemma beginPostCancelDiscovery_active (epoch : ℕ) (recallable : Bool) :
    (beginPostCancelDiscovery cfg s epoch recallable).cancelPending = true := by
  unfold beginPostCancelDiscovery
  split
  next hpending => exact (Bool.and_eq_true_iff.mp hpending).1
  next => rfl

lemma commitCancel_quiet (dec : Bytes) (gossipAdopted recallable : Bool) :
    Quiet s (commitCancel cfg s dec gossipAdopted recallable).1 (commitCancel cfg s dec gossipAdopted recallable).2 := by
  have hactive : (commitCancel cfg s dec gossipAdopted recallable).1.cancelActive = true := by
    unfold commitCancel AppState.cancelActive
    dsimp only
    rw [beginPostCancelDiscovery_active, Bool.true_or]
  have hframe : ∀ (t : AppState) (epoch : ℕ),
      (beginPostCancelDiscovery cfg t epoch recallable).myBatchIndex = t.myBatchIndex ∧
      (beginPostCancelDiscovery cfg t epoch recallable).precedingBatchCars = t.precedingBatchCars ∧
      (beginPostCancelDiscovery cfg t epoch recallable).clearanceStarted = t.clearanceStarted ∧
      ((beginPostCancelDiscovery cfg t epoch recallable).resumeScheduled = true → t.resumeScheduled = true) := by
    intro t epoch
    unfold beginPostCancelDiscovery
    split
    next => exact ⟨rfl, rfl, rfl, id⟩
    next => exact ⟨rfl, rfl, rfl, fun hr => (Bool.and_eq_true_iff.mp hr).1⟩
  obtain ⟨hb, hc, hs, hr⟩ := hframe { s with
      tombstonedEpochs := (CancelDecisionHdr.read dec).cancelledEpoch :: s.tombstonedEpochs
      committedCancels := ((CancelDecisionHdr.read dec).cancelledEpoch,
          ⟨(CancelDecisionHdr.read dec).cancelSeq, (CancelDecisionHdr.read dec).payloadDigest, dec, gossipAdopted⟩) ::
        s.committedCancels.filter fun c => !decide (c.1 = (CancelDecisionHdr.read dec).cancelledEpoch)
      cancelConsensusPending := false } (CancelDecisionHdr.read dec).cancelledEpoch
  exact ⟨rfl, hb, hc, hs, fun _ => hactive, fun _ => hactive, Or.inl hactive, hr⟩

lemma handleCancelCommitGossip_quiet (senderId : ℤ) (inner : Bytes) (recallable : Bool) :
    Quiet s (handleCancelCommitGossip cfg s senderId inner recallable).1
      (handleCancelCommitGossip cfg s senderId inner recallable).2 := by
  have hvote : Quiet s (recordCancelVote s senderId inner) .none := by
    unfold recordCancelVote
    split
    next => exact Quiet.refl s
    next =>
      split
      next => exact ⟨rfl, rfl, rfl, rfl, id, fun h => absurd rfl h, Or.inr fun _ => rfl, id⟩
      next => exact Quiet.refl s
  unfold handleCancelCommitGossip
  split
  next => exact hvote
  next attestation _ => exact hvote.trans (commitCancel_quiet attestation true recallable)

lemma handleDecisionGossip_quiet (senderId : ℤ) (inner : Bytes) (completed : Bool) :
    Quiet s (handleDecisionGossip cfg s senderId inner completed) .none := by
  unfold handleDecisionGossip
  split
  next =>
    unfold recordOrderVote
    split
    next => exact Quiet.refl s
    next =>
      split
      next => exact ⟨rfl, rfl, rfl, rfl, id, fun h => absurd rfl h, Or.inr fun _ => rfl, id⟩
      next => exact Quiet.refl s
  next => exact ⟨rfl, rfl, rfl, rfl, id, fun h => absurd rfl h, Or.inr fun _ => rfl, id⟩

structure Applied (cfg : AppConfig) (s s' : AppState) (fx : Effects) (order : OrderDecision) (now : ℤ) : Prop where
  applied : fx.applied = some order
  halted : fx.halted = []
  active : s'.cancelActive = s.staysCancelled order
  tombstones : ∀ e, s'.isEpochTombstoned e = s.isEpochTombstoned e
  resume : s'.resumeScheduled = s.resumeScheduled
  noSlot : ownBatch cfg order = none → fx.released = none ∧ s'.myBatchIndex = s.myBatchIndex ∧
    s'.precedingBatchCars = s.precedingBatchCars ∧ s'.clearanceStarted = s.clearanceStarted
  slot : ∀ b, ownBatch cfg order = some b → fx.released = (if b = 0 then some 0 else none) ∧ s'.myBatchIndex = b ∧
    s'.precedingBatchCars = (if 0 < b then order.batch (b - 1) else []) ∧ (b ≠ 0 → s'.clearanceStarted = now)

lemma applyOrder_applied (cfg : AppConfig) (now : ℤ) (hskip : s.skips order = false) :
    Applied cfg s (applyOrder cfg s order now).1 (applyOrder cfg s order now).2 order now := by
  have hor : s.staysCancelled order =
      ((s.cancelPending && !decide (order.epoch = s.rollbackNewEpoch)) || s.cancelConsensusPending) := Bool.or_comm ..
  unfold applyOrder
  unfold AppState.skips at hskip
  dsimp only
  rw [if_neg (by simp [hskip])]
  split
  next hnone =>
    refine ⟨rfl, rfl, hor.symm, fun _ => rfl, rfl, fun _ => ⟨rfl, rfl, rfl, rfl⟩, fun b hb => ?_⟩
    exact absurd (hnone.symm.trans hb) (by simp)
  next b hb =>
    unfold takeSlot
    dsimp only
    split
    next h0 =>
      refine ⟨rfl, rfl, hor.symm, fun _ => rfl, rfl, fun hn => absurd (hb.symm.trans hn) (by simp), fun b' hb' => ?_⟩
      obtain rfl := Option.some.inj (hb.symm.trans hb')
      exact ⟨(if_pos h0).symm, rfl, rfl, fun hne => absurd h0 hne⟩
    next h0 =>
      refine ⟨rfl, rfl, hor.symm, fun _ => rfl, rfl, fun hn => absurd (hb.symm.trans hn) (by simp), fun b' hb' => ?_⟩
      obtain rfl := Option.some.inj (hb.symm.trans hb')
      exact ⟨(if_neg h0).symm, rfl, rfl, fun _ => rfl⟩

lemma applyOrder_skipped (cfg : AppConfig) (now : ℤ) (hskip : s.skips order = true) :
    Quiet s (applyOrder cfg s order now).1 (applyOrder cfg s order now).2 ∧
      (applyOrder cfg s order now).2.released = none := by
  have hskip' := hskip
  unfold AppState.skips at hskip'
  have hactive : (s.cancelPending && !decide (order.epoch = s.rollbackNewEpoch)) = true :=
    (Bool.and_eq_true_iff.mp hskip').1
  unfold applyOrder
  dsimp only
  rw [if_pos hskip']
  exact ⟨⟨rfl, rfl, rfl, rfl, fun _ => by rw [AppState.cancelActive, hactive, Bool.true_or],
    fun h => absurd rfl h, Or.inr fun _ => rfl, id⟩, rfl⟩

structure PollRelease (cfg : AppConfig) (s' : AppState) (fx : Effects) (cleared : List ℤ) (now : ℤ) : Prop where
  released : fx.released = some s'.myBatchIndex
  waiting : s'.waiting = true
  active : s'.cancelActive = false
  entitled : (∀ v ∈ s'.precedingBatchCars, v ∈ cleared) ∨ clearanceTimedOut cfg s' now = true

lemma clearancePoll_cases (cfg : AppConfig) (s : AppState) (formed : List (CancelCert × Bool)) (cleared : List ℤ) (now : ℤ) :
    Quiet s (clearancePoll cfg s formed cleared now).1 (clearancePoll cfg s formed cleared now).2 ∧
      ((clearancePoll cfg s formed cleared now).2.released = none ∨
        PollRelease cfg (clearancePoll cfg s formed cleared now).1 (clearancePoll cfg s formed cleared now).2
          cleared now) := by
  unfold clearancePoll
  split
  next =>
    dsimp only
    set s₀ : AppState := { s with pollScheduled := false } with hs₀
    set scan := if cfg.enableRollback = true then perceiveCrashes cfg s₀ formed else (s₀, []) with hscan
    have hquiet : Quiet s scan.1 ⟨scan.2, none, none⟩ := by
      have h₀ : Quiet s s₀ .none := ⟨rfl, rfl, rfl, rfl, id, fun h => absurd rfl h, Or.inr fun _ => rfl, id⟩
      rw [hscan]
      split
      next => exact h₀.trans (perceiveCrashes_quiet formed)
      next => exact h₀
    unfold releaseWaiting
    split
    next => exact ⟨hquiet, Or.inl rfl⟩
    next hwait =>
      have hpoll : Quiet s { scan.1 with pollScheduled := true } ⟨scan.2, none, none⟩ :=
        ⟨hquiet.1, hquiet.2, hquiet.3, hquiet.4, hquiet.5, hquiet.6, hquiet.7, hquiet.8⟩
      split
      next hclear =>
        split
        next => exact ⟨hpoll, Or.inl rfl⟩
        next hactive =>
          refine ⟨⟨rfl, hquiet.2, hquiet.3, hquiet.4, hquiet.5, hquiet.6, hquiet.7, hquiet.8⟩, Or.inr ?_⟩
          refine ⟨rfl, by simpa using hwait, by simpa using hactive, ?_⟩
          simpa [Bool.or_eq_true, List.all_eq_true] using hclear
      next => exact ⟨hpoll, Or.inl rfl⟩
  next => exact ⟨Quiet.refl s, Or.inl rfl⟩

lemma appliedNext_processOrder {dec : Bytes} {rest : List Bytes} {completed recallable : Bool} {now : ℤ}
    (hqueue : s.pendingOrders = dec :: rest) (hdec : isCancelDecision dec = false)
    (horder : admittedOrder s dec completed = some order) (hskip : s.skips order = false) :
    appliedNext s (.processOrder completed recallable now) = some order := by
  simp [appliedNext, hqueue, hdec, horder, hskip]

lemma isEpochTombstoned_of_admitted {dec : Bytes} {completed : Bool} (h : admittedOrder s dec completed = some order) :
    s.isEpochTombstoned order.epoch = false := by
  unfold admittedOrder at h
  dsimp only at h
  split at h
  next => exact absurd h (by simp)
  next =>
    split at h
    next => exact absurd h (by simp)
    next =>
      split at h
      next => exact absurd h (by simp)
      next htomb =>
        split at h
        next => exact absurd h (by simp)
        next =>
          split at h
          next => exact absurd h (by simp)
          next =>
            obtain rfl := Option.some.inj h
            exact eq_false_of_ne_true htomb

lemma appStep_cases (henable : cfg.enableRollback = true) (hresume : s.resumeScheduled = false) (ev : AppEvent) :
    (Quiet s (appStep cfg s ev).1 (appStep cfg s ev).2 ∧ (appStep cfg s ev).2.released = none) ∨
      (∃ order, appliedNext s ev = some order ∧ s.isEpochTombstoned order.epoch = false ∧
        Applied cfg s (appStep cfg s ev).1 (appStep cfg s ev).2 order ev.now) ∨
      (∃ formed cleared now, ev = .clearancePoll formed cleared now ∧
        Quiet s (appStep cfg s ev).1 (appStep cfg s ev).2 ∧
        PollRelease cfg (appStep cfg s ev).1 (appStep cfg s ev).2 cleared now) := by
  cases ev with
  | orderDecided dec =>
    exact Or.inl ⟨⟨rfl, rfl, rfl, rfl, id, fun h => absurd rfl h, Or.inr fun _ => rfl, id⟩, rfl⟩
  | decisionGossip senderId inner completed =>
    exact Or.inl ⟨handleDecisionGossip_quiet senderId inner completed, rfl⟩
  | cancelCert payload recallable =>
    refine Or.inl ⟨handleCancelCert_quiet payload recallable, ?_⟩
    simp only [appStep, handleCancelCert, handleValidCancelJustification]
    split <;> [rfl; skip]
    repeat' split
    all_goals rfl
  | cancelCertFormed cert recallable =>
    refine Or.inl ⟨broadcastCancelCert_quiet cert recallable, ?_⟩
    simp only [appStep, broadcastCancelCert, handleValidCancelJustification]
    repeat' split
    all_goals rfl
  | cancelCommitGossip senderId inner recallable =>
    refine Or.inl ⟨handleCancelCommitGossip_quiet senderId inner recallable, ?_⟩
    simp only [appStep, handleCancelCommitGossip]
    split <;> rfl
  | clearancePoll formed cleared now =>
    obtain ⟨hquiet, hnone | hrelease⟩ := clearancePoll_cases cfg s formed cleared now
    · exact Or.inl ⟨hquiet, hnone⟩
    · exact Or.inr (Or.inr ⟨formed, cleared, now, rfl, hquiet, hrelease⟩)
  | resumeTimer =>
    have hsame : appStep cfg s .resumeTimer = (s, .none) := by simp [appStep, resumeTimer, hresume]
    rw [hsame]
    exact Or.inl ⟨Quiet.refl s, rfl⟩
  | orderTimeout =>
    have hsame : appStep cfg s .orderTimeout = (s, .none) := by simp [appStep, orderTimeout, henable]
    rw [hsame]
    exact Or.inl ⟨Quiet.refl s, rfl⟩
  | disableCrashComms =>
    exact Or.inl ⟨⟨rfl, rfl, rfl, rfl, id, fun h => absurd rfl h, Or.inr fun _ => rfl,
      fun hr => (Bool.and_eq_true_iff.mp hr).1⟩, rfl⟩
  | processOrder completed recallable now =>
    simp only [appStep, processOrder]
    cases hqueue : s.pendingOrders with
    | nil => exact Or.inl ⟨Quiet.refl s, rfl⟩
    | cons dec rest =>
      dsimp only
      set s₀ : AppState := { s with pendingOrders := rest } with hs₀
      have hpop : Quiet s s₀ .none := ⟨rfl, rfl, rfl, rfl, id, fun h => absurd rfl h, Or.inr fun _ => rfl, id⟩
      unfold processDecision
      split
      next => exact Or.inl ⟨hpop.trans (commitCancel_quiet dec false recallable), rfl⟩
      next hdec =>
        have hadm : admittedOrder s₀ dec completed = admittedOrder s dec completed := rfl
        rw [hadm]
        cases horder : admittedOrder s dec completed with
        | none => exact Or.inl ⟨hpop, rfl⟩
        | some order =>
          dsimp only
          cases hskip : s.skips order with
          | true =>
            obtain ⟨hquiet, hnone⟩ := applyOrder_skipped (s := s₀) cfg now hskip
            have h := hpop.trans hquiet
            exact Or.inl ⟨⟨hquiet.applied, h.2, h.3, h.4, h.5, h.6, h.7, h.8⟩, hnone⟩
          | false =>
            refine Or.inr (Or.inl ⟨order, ?_, isEpochTombstoned_of_admitted horder, ?_⟩)
            · exact appliedNext_processOrder hqueue (by simpa using hdec) horder hskip
            · have h := applyOrder_applied (s := s₀) cfg now hskip
              exact ⟨h.1, h.2, h.3, h.4, h.5, h.6, h.7⟩

end V2vBft.App
