import V2vBft.App.History

/-! What a step of the application does to the epochs: most keep them, a CANCEL adds one, an ORDER uses one up. -/

namespace V2vBft.App

open Wire

variable {cfg : AppConfig} {s s' u : AppState} {order : OrderDecision} {dec : Bytes} {e : ℕ}

def AppState.hasCommittedCancel (s : AppState) (epoch : ℕ) : Bool := decide (epoch ∈ s.committedCancels.map Prod.fst)

structure SameEpochs (s s' : AppState) : Prop where
  tombstoned : s'.tombstonedEpochs = s.tombstonedEpochs
  cancels : s'.committedCancels = s.committedCancels
  current : s'.currentEpoch = s.currentEpoch
  applied : s.orderApplied = true → s'.orderApplied = true

lemma SameEpochs.refl (s : AppState) : SameEpochs s s := ⟨rfl, rfl, rfl, id⟩

lemma SameEpochs.trans {s'' : AppState} (h : SameEpochs s s') (h' : SameEpochs s' s'') : SameEpochs s s'' :=
  ⟨h'.tombstoned.trans h.tombstoned, h'.cancels.trans h.cancels, h'.current.trans h.current,
    fun ha => h'.applied (h.applied ha)⟩

lemma SameEpochs.isEpochTombstoned (h : SameEpochs s s') (e : ℕ) : s'.isEpochTombstoned e = s.isEpochTombstoned e := by
  rw [AppState.isEpochTombstoned, AppState.isEpochTombstoned, h.tombstoned, h.cancels]

lemma SameEpochs.hasCommittedCancel (h : SameEpochs s s') (e : ℕ) :
    s'.hasCommittedCancel e = s.hasCommittedCancel e := by
  rw [AppState.hasCommittedCancel, AppState.hasCommittedCancel, h.cancels]

def CertOnly (s s' : AppState) : Prop :=
  s' = { s with
    cancelConsensusPending := s'.cancelConsensusPending
    cancelledEpoch := s'.cancelledEpoch
    pollScheduled := s'.pollScheduled
    resumeScheduled := s'.resumeScheduled
    cancelCertSeen := s'.cancelCertSeen }

lemma CertOnly.refl (s : AppState) : CertOnly s s := rfl

lemma CertOnly.trans {s'' : AppState} (h : CertOnly s s') (h' : CertOnly s' s'') : CertOnly s s'' := by
  rw [CertOnly] at h h' ⊢
  rw [h', h]

lemma CertOnly.sameEpochs (h : CertOnly s s') : SameEpochs s s' := by
  rw [h]
  exact ⟨rfl, rfl, rfl, id⟩

lemma handleValidCancelJustification_certOnly (cfg : AppConfig) (s : AppState) (epoch : ℕ) (recallable : Bool) :
    CertOnly s (handleValidCancelJustification cfg s epoch recallable).1 := by
  rw [handleValidCancelJustification]
  repeat' split
  all_goals rfl

lemma broadcastCancelCert_certOnly (cert : CancelCert) (recallable : Bool) :
    CertOnly s (broadcastCancelCert cfg s cert recallable).1 := by
  rw [broadcastCancelCert]
  split
  next => exact handleValidCancelJustification_certOnly cfg (s.seeCancelCert cert) cert.cancelledEpoch recallable
  next => rfl

lemma handleCancelCert_certOnly (payload : Bytes) (recallable : Bool) :
    CertOnly s (handleCancelCert cfg s payload recallable).1 := by
  rw [handleCancelCert]
  split
  next => rfl
  next cert _ =>
    have h := handleValidCancelJustification_certOnly cfg (s.seeCancelCert cert) cert.cancelledEpoch recallable
    repeat' split
    all_goals first | rfl | exact h

lemma perceiveCrashes_certOnly (formed : List (CancelCert × Bool)) :
    CertOnly s (perceiveCrashes cfg s formed).1 := by
  induction formed generalizing s with
  | nil => rfl
  | cons first formed ih => exact (broadcastCancelCert_certOnly first.1 first.2).trans ih

lemma clearancePoll_certOnly (formed : List (CancelCert × Bool)) (cleared : List ℤ) (now : ℤ) :
    CertOnly s (clearancePoll cfg s formed cleared now).1 := by
  have hrelease : ∀ u, CertOnly u (releaseWaiting cfg u cleared now).1 := by
    intro u
    rw [releaseWaiting]
    repeat' split
    all_goals rfl
  rw [clearancePoll]
  split
  next =>
    have hscan := @perceiveCrashes_certOnly cfg { s with pollScheduled := false } formed
    refine CertOnly.trans ?_ (hrelease _)
    split
    next => exact hscan
    next => rfl
  next => rfl

lemma handleDecisionGossip_sameEpochs (senderId : ℤ) (inner : Bytes) (completed : Bool) :
    SameEpochs s (handleDecisionGossip cfg s senderId inner completed) := by
  rw [handleDecisionGossip]
  split
  next =>
    rw [recordOrderVote]
    repeat' split
    all_goals exact ⟨rfl, rfl, rfl, id⟩
  next => exact ⟨rfl, rfl, rfl, id⟩

lemma recordCancelVote_sameEpochs (senderId : ℤ) (inner : Bytes) :
    SameEpochs s (recordCancelVote s senderId inner) := by
  rw [recordCancelVote]
  repeat' split
  all_goals exact ⟨rfl, rfl, rfl, id⟩

def AppState.repeatsCancel (s : AppState) (epoch : ℕ) : Bool := s.cancelPending && decide (s.cancelledEpoch = epoch)

structure Cancelled (s s' : AppState) (epoch : ℕ) : Prop where
  tombstoned : ∀ e, s'.isEpochTombstoned e = (decide (e = epoch) || s.isEpochTombstoned e)
  cancels : ∀ e, s'.hasCommittedCancel e = (decide (e = epoch) || s.hasCommittedCancel e)
  repeated : s.repeatsCancel epoch = true → s'.currentEpoch = s.currentEpoch ∧ s'.orderApplied = s.orderApplied
  begun : s.repeatsCancel epoch = false →
    s'.currentEpoch = (epoch + 1) % uint32Modulus ∧ s'.orderApplied = false

lemma beginPostCancelDiscovery_epochs (s : AppState) (epoch : ℕ) (recallable : Bool) :
    (beginPostCancelDiscovery cfg s epoch recallable).tombstonedEpochs = s.tombstonedEpochs ∧
      (beginPostCancelDiscovery cfg s epoch recallable).committedCancels = s.committedCancels := by
  rw [beginPostCancelDiscovery]
  split <;> exact ⟨rfl, rfl⟩

lemma commitCancel_cancelled (cfg : AppConfig) (s : AppState) (dec : Bytes) (gossipAdopted recallable : Bool) :
    Cancelled s (commitCancel cfg s dec gossipAdopted recallable).1 (CancelDecisionHdr.read dec).cancelledEpoch := by
  set epoch := (CancelDecisionHdr.read dec).cancelledEpoch with hepoch
  set info : CommittedCancelInfo :=
    ⟨(CancelDecisionHdr.read dec).cancelSeq, (CancelDecisionHdr.read dec).payloadDigest, dec, gossipAdopted⟩
  have hkeys : ∀ e, e ∈ ((epoch, info) :: s.committedCancels.filter fun c => !decide (c.1 = epoch)).map Prod.fst ↔
      e = epoch ∨ e ∈ s.committedCancels.map Prod.fst := by
    intro e
    by_cases he : e = epoch
    · simp [he]
    · simp [he]
  set u : AppState :=
    { s with
      tombstonedEpochs := epoch :: s.tombstonedEpochs
      committedCancels := (epoch, info) :: s.committedCancels.filter fun c => !decide (c.1 = epoch)
      cancelConsensusPending := false }
  have hstep : (commitCancel cfg s dec gossipAdopted recallable).1 = beginPostCancelDiscovery cfg u epoch recallable := rfl
  obtain ⟨htombs, hcancels⟩ := @beginPostCancelDiscovery_epochs cfg u epoch recallable
  rw [hstep]
  refine ⟨fun e => ?_, fun e => ?_, fun hrep => ?_, fun hrep => ?_⟩
  · rw [Bool.eq_iff_iff]
    simp only [AppState.isEpochTombstoned, htombs, hcancels, u, hkeys, Bool.or_eq_true, decide_eq_true_eq, List.mem_cons]
    tauto
  · rw [Bool.eq_iff_iff]
    simp only [AppState.hasCommittedCancel, hcancels, u, hkeys, Bool.or_eq_true, decide_eq_true_eq]
  · have hsame : (u.cancelPending && decide (u.cancelledEpoch = epoch)) = true := hrep
    rw [beginPostCancelDiscovery, if_pos hsame]
    exact ⟨rfl, rfl⟩
  · have hother : (u.cancelPending && decide (u.cancelledEpoch = epoch)) ≠ true :=
      fun hsame => absurd (hrep.symm.trans hsame) (by simp)
    rw [beginPostCancelDiscovery, if_neg hother]
    exact ⟨rfl, rfl⟩

lemma applyOrder_sameEpochs (order : OrderDecision) (now : ℤ) : SameEpochs s (applyOrder cfg s order now).1 := by
  rw [applyOrder]
  dsimp only
  split
  next => exact ⟨rfl, rfl, rfl, id⟩
  next =>
    split
    next => exact ⟨rfl, rfl, rfl, fun ha => by simp [ha]⟩
    next batch _ =>
      rw [takeSlot]
      dsimp only
      split <;> exact ⟨rfl, rfl, rfl, fun _ => rfl⟩

lemma applyOrder_uses {now : ℤ} (happlied : (applyOrder cfg s order now).2.applied ≠ none)
    (hepoch : order.epoch = s.currentEpoch) : (applyOrder cfg s order now).1.orderApplied = true := by
  rw [applyOrder] at happlied ⊢
  dsimp only at happlied ⊢
  split
  next hskip =>
    rw [if_pos hskip] at happlied
    exact absurd rfl happlied
  next =>
    split
    next => simp [hepoch]
    next batch _ =>
      rw [takeSlot]
      dsimp only
      split <;> rfl

lemma applyOrder_applied_eq {now : ℤ} {o : OrderDecision} (h : (applyOrder cfg s order now).2.applied = some o) :
    o = order := by
  rw [applyOrder] at h
  dsimp only at h
  split at h
  next => exact absurd h (by simp [Effects.none])
  next =>
    split at h
    next => exact (Option.some.inj h).symm
    next batch _ =>
      rw [takeSlot] at h
      dsimp only at h
      split at h <;> exact (Option.some.inj h).symm

lemma admittedOrder_some {completed : Bool}
    (h : admittedOrder s dec completed = some order) :
    order = OrderDecision.read dec ∧ OrderHdr.size ≤ dec.length ∧ s.isEpochTombstoned order.epoch = false ∧
      (s.orderApplied = true → s.currentEpoch < order.epoch) := by
  have htomb := isEpochTombstoned_of_admitted h
  simp only [admittedOrder] at h
  split at h
  · exact absurd h (by simp)
  · split at h
    · exact absurd h (by simp)
    · split at h
      · exact absurd h (by simp)
      · split at h
        · exact absurd h (by simp)
        · split at h
          · exact absurd h (by simp)
          · next hsize _ _ hused _ =>
            obtain rfl := Option.some.inj h
            refine ⟨rfl, Nat.le_of_not_lt hsize, htomb, fun happ => ?_⟩
            simpa [happ, OrderDecision.read] using hused

lemma adoptedAttestation_some {senderId : ℤ} {inner : Bytes} (h : adoptedAttestation cfg s senderId inner = some dec) :
    ∃ epoch, gossipParse inner = some (epoch, dec) ∧ (CancelDecisionHdr.read dec).cancelledEpoch = epoch ∧
      s.isEpochTombstoned epoch = false ∧
        (s.cancelGossip.add senderId epoch dec
          (anchoredFaults cfg.toleratedFaults cfg.totalVehicles + 1)).1 = true := by
  rw [adoptedAttestation] at h
  split at h
  next => exact absurd h (by simp)
  next epoch attestation hparse =>
    split at h
    next hcond =>
      obtain rfl := Option.some.inj h
      simp only [Bool.and_eq_true, decide_eq_true_eq, Bool.not_eq_true'] at hcond
      exact ⟨epoch, hparse, hcond.1.1.2, hcond.1.2, hcond.2⟩
    next => exact absurd h (by simp)

lemma adoptedOrder_some {senderId : ℤ} {inner orderBytes : Bytes} {completed : Bool} {number : ℕ}
    (h : adoptedOrder cfg s senderId inner completed = some (number, orderBytes)) :
    gossipParse inner = some (number, orderBytes) ∧ s.isEpochTombstoned number = false ∧
      (s.orderGossip.add senderId number orderBytes
        (anchoredFaults cfg.toleratedFaults cfg.totalVehicles + 1)).1 = true := by
  rw [adoptedOrder] at h
  split at h
  next => exact absurd h (by simp)
  next epoch bytes hparse =>
    split at h
    next hcond =>
      simp only [decisionGossipCounted, Bool.and_eq_true, Bool.not_eq_true'] at hcond
      obtain ⟨rfl, rfl⟩ := Prod.mk.inj (Option.some.inj h)
      exact ⟨hparse, hcond.1.1.1.1, hcond.2⟩
    next => exact absurd h (by simp)

def TakesCancel (cfg : AppConfig) (s : AppState) (ev : AppEvent) (dec : Bytes) : Prop :=
  (∃ completed recallable now rest, ev = .processOrder completed recallable now ∧ s.pendingOrders = dec :: rest ∧
    isCancelDecision dec = true) ∨
  ∃ senderId inner recallable, ev = .cancelCommitGossip senderId inner recallable ∧
    adoptedAttestation cfg s senderId inner = some dec

def TakesOrder (s : AppState) (ev : AppEvent) (order : OrderDecision) : Prop :=
  ∃ completed recallable now dec rest, ev = .processOrder completed recallable now ∧ s.pendingOrders = dec :: rest ∧
    isCancelDecision dec = false ∧ admittedOrder s dec completed = some order

inductive EpochStep (cfg : AppConfig) (s : AppState) (ev : AppEvent) : Prop
  | kept (hsame : SameEpochs s (appStep cfg s ev).1) (hnone : (appStep cfg s ev).2.applied = none)
  | cancelled (dec : Bytes) (hsrc : TakesCancel cfg s ev dec)
      (hcancel : Cancelled s (appStep cfg s ev).1 (CancelDecisionHdr.read dec).cancelledEpoch)
      (hnone : (appStep cfg s ev).2.applied = none)
  | applied (order : OrderDecision) (hsrc : TakesOrder s ev order) (hsame : SameEpochs s (appStep cfg s ev).1)
      (happlied : (appStep cfg s ev).2.applied = some order)
      (huses : order.epoch = s.currentEpoch → (appStep cfg s ev).1.orderApplied = true)

lemma SameEpochs.cancelled (h : SameEpochs s u) (happlied : u.orderApplied = s.orderApplied)
    (hrep : u.repeatsCancel e = s.repeatsCancel e) (hc : Cancelled u s' e) : Cancelled s s' e where
  tombstoned := fun k => by rw [hc.tombstoned, h.isEpochTombstoned]
  cancels := fun k => by rw [hc.cancels, h.hasCommittedCancel]
  repeated := by
    rw [← h.current, ← happlied, ← hrep]
    exact hc.repeated
  begun := by
    rw [← hrep]
    exact hc.begun

lemma adopted_cancelled {senderId : ℤ} {inner : Bytes} (recallable : Bool)
    (hadopt : adoptedAttestation cfg s senderId inner = some dec) :
    Cancelled s (appStep cfg s (.cancelCommitGossip senderId inner recallable)).1
      (CancelDecisionHdr.read dec).cancelledEpoch := by
  have hkept : (recordCancelVote s senderId inner).orderApplied = s.orderApplied ∧
      ∀ e, (recordCancelVote s senderId inner).repeatsCancel e = s.repeatsCancel e := by
    rw [recordCancelVote]
    repeat' split
    all_goals exact ⟨rfl, fun _ => rfl⟩
  have h := (recordCancelVote_sameEpochs senderId inner).cancelled hkept.1 (hkept.2 _)
    (commitCancel_cancelled cfg (recordCancelVote s senderId inner) dec true recallable)
  simpa only [appStep, handleCancelCommitGossip, hadopt] using h

lemma unadopted_sameEpochs {senderId : ℤ} {inner : Bytes} {recallable : Bool}
    (hadopt : adoptedAttestation cfg s senderId inner = none) :
    SameEpochs s (appStep cfg s (.cancelCommitGossip senderId inner recallable)).1 := by
  simpa only [appStep, handleCancelCommitGossip, hadopt] using recordCancelVote_sameEpochs senderId inner

lemma takesCancel_cancelled {ev : AppEvent} (h : TakesCancel cfg s ev dec) :
    Cancelled s (appStep cfg s ev).1 (CancelDecisionHdr.read dec).cancelledEpoch := by
  rcases h with ⟨completed, recallable, now, rest, rfl, hqueue, hdec⟩ | ⟨senderId, inner, recallable, rfl, hadopt⟩
  · have hstep : appStep cfg s (.processOrder completed recallable now) =
        commitCancel cfg { s with pendingOrders := rest } dec false recallable := by
      rw [appStep, processOrder, hqueue]
      dsimp only
      rw [processDecision, if_pos hdec]
    have hpop : SameEpochs s { s with pendingOrders := rest } := ⟨rfl, rfl, rfl, id⟩
    rw [hstep]
    exact hpop.cancelled rfl rfl (commitCancel_cancelled cfg _ dec false recallable)
  · exact adopted_cancelled recallable hadopt

lemma appStep_epochs (cfg : AppConfig) (s : AppState) (ev : AppEvent) : EpochStep cfg s ev := by
  cases ev with
  | orderDecided dec => exact .kept ⟨rfl, rfl, rfl, id⟩ rfl
  | decisionGossip senderId inner completed => exact .kept (handleDecisionGossip_sameEpochs senderId inner completed) rfl
  | cancelCert payload recallable =>
    exact .kept (handleCancelCert_certOnly payload recallable).sameEpochs (handleCancelCert_quiet payload recallable).applied
  | cancelCertFormed cert recallable =>
    exact .kept (broadcastCancelCert_certOnly cert recallable).sameEpochs (broadcastCancelCert_quiet cert recallable).applied
  | clearancePoll formed cleared now =>
    exact .kept (clearancePoll_certOnly formed cleared now).sameEpochs (clearancePoll_cases cfg s formed cleared now).1.applied
  | resumeTimer =>
    apply EpochStep.kept
    all_goals
      simp only [appStep, resumeTimer]
      repeat' split
    all_goals first | rfl | exact ⟨rfl, rfl, rfl, id⟩
  | orderTimeout =>
    apply EpochStep.kept
    all_goals
      simp only [appStep, orderTimeout]
      split
    all_goals first | rfl | exact ⟨rfl, rfl, rfl, fun _ => rfl⟩ | exact SameEpochs.refl s
  | disableCrashComms => exact .kept ⟨rfl, rfl, rfl, id⟩ rfl
  | cancelCommitGossip senderId inner recallable =>
    cases hadopt : adoptedAttestation cfg s senderId inner with
    | none =>
      apply EpochStep.kept
      · exact unadopted_sameEpochs hadopt
      · simp only [appStep, handleCancelCommitGossip, hadopt, Effects.none]
    | some dec =>
      refine .cancelled dec (Or.inr ⟨senderId, inner, recallable, rfl, hadopt⟩) (adopted_cancelled recallable hadopt) ?_
      simp only [appStep, handleCancelCommitGossip, hadopt, commitCancel, Effects.none]
  | processOrder completed recallable now =>
    cases hqueue : s.pendingOrders with
    | nil =>
      have hstep : appStep cfg s (.processOrder completed recallable now) = (s, .none) := by
        simp only [appStep, processOrder, hqueue]
      apply EpochStep.kept
      · rw [hstep]
        exact SameEpochs.refl s
      · rw [hstep]
        rfl
    | cons dec rest =>
      set u : AppState := { s with pendingOrders := rest } with hu
      have hpop : SameEpochs s u := ⟨rfl, rfl, rfl, id⟩
      have hstep : appStep cfg s (.processOrder completed recallable now) =
          processDecision cfg u dec completed recallable now := by
        simp only [appStep, processOrder, hqueue, hu]
      cases hdec : isCancelDecision dec with
      | true =>
        have htakes : TakesCancel cfg s (.processOrder completed recallable now) dec :=
          Or.inl ⟨completed, recallable, now, rest, rfl, hqueue, hdec⟩
        refine .cancelled dec htakes (takesCancel_cancelled htakes) ?_
        rw [hstep, processDecision, if_pos hdec]
        rfl
      | false =>
        cases horder : admittedOrder s dec completed with
        | none =>
          have hskip : appStep cfg s (.processOrder completed recallable now) = (u, .none) := by
            rw [hstep, processDecision, if_neg (by simp [hdec]), show admittedOrder u dec completed = none from horder]
          apply EpochStep.kept
          · rw [hskip]
            exact hpop
          · rw [hskip]
            rfl
        | some order =>
          have happly : appStep cfg s (.processOrder completed recallable now) = applyOrder cfg u order now := by
            rw [hstep, processDecision, if_neg (by simp [hdec]),
              show admittedOrder u dec completed = some order from horder]
          have hsame : SameEpochs s (appStep cfg s (.processOrder completed recallable now)).1 := by
            rw [happly]
            exact hpop.trans (applyOrder_sameEpochs order now)
          cases hfx : (applyOrder cfg u order now).2.applied with
          | none => exact .kept hsame (by rw [happly, hfx])
          | some o =>
            obtain rfl := applyOrder_applied_eq hfx
            refine .applied o ⟨completed, recallable, now, dec, rest, rfl, hqueue, hdec, horder⟩ hsame
              (by rw [happly, hfx]) fun hepoch => ?_
            rw [happly]
            exact applyOrder_uses (by simp [hfx]) hepoch

lemma sameEpochs_of_noCancel {ev : AppEvent}
    (hdecided : ∀ completed recallable now, ev ≠ .processOrder completed recallable now)
    (hgossip : ∀ senderId inner recallable, ev ≠ .cancelCommitGossip senderId inner recallable) :
    SameEpochs s (appStep cfg s ev).1 := by
  cases appStep_epochs cfg s ev with
  | kept hsame => exact hsame
  | applied order _ hsame => exact hsame
  | cancelled dec hsrc =>
    rcases hsrc with ⟨completed, recallable, now, _, hev, -⟩ | ⟨senderId, inner, recallable, hev, -⟩
    · exact absurd hev (hdecided completed recallable now)
    · exact absurd hev (hgossip senderId inner recallable)

lemma handleValidCancelJustification_inConsensus {epoch : ℕ} {recallable : Bool} (h : s.cancelConsensusPending = true) :
    (handleValidCancelJustification cfg s epoch recallable).1.cancelConsensusPending = true := by
  rw [handleValidCancelJustification]
  repeat' split
  all_goals first | exact h | rfl

lemma broadcastCancelCert_inConsensus {cert : CancelCert} {recallable : Bool} (h : s.cancelConsensusPending = true) :
    (broadcastCancelCert cfg s cert recallable).1.cancelConsensusPending = true := by
  rw [broadcastCancelCert]
  split
  · exact @handleValidCancelJustification_inConsensus cfg (s.seeCancelCert cert) _ _ h
  · exact h

lemma perceiveCrashes_inConsensus (formed : List (CancelCert × Bool)) (h : s.cancelConsensusPending = true) :
    (perceiveCrashes cfg s formed).1.cancelConsensusPending = true := by
  induction formed generalizing s with
  | nil => exact h
  | cons first formed ih => exact ih (broadcastCancelCert_inConsensus h)

lemma clearancePoll_inConsensus (formed : List (CancelCert × Bool)) (cleared : List ℤ) (now : ℤ)
    (h : s.cancelConsensusPending = true) :
    (clearancePoll cfg s formed cleared now).1.cancelConsensusPending = true := by
  have hrelease : ∀ u, (releaseWaiting cfg u cleared now).1.cancelConsensusPending = u.cancelConsensusPending := by
    intro u
    rw [releaseWaiting]
    repeat' split
    all_goals rfl
  rw [clearancePoll]
  split
  · rw [hrelease]
    split
    · exact @perceiveCrashes_inConsensus cfg { s with pollScheduled := false } formed h
    · exact h
  · exact h

lemma applyOrder_inConsensus {now : ℤ} : (applyOrder cfg s order now).1.cancelConsensusPending = s.cancelConsensusPending := by
  rw [applyOrder]
  dsimp only
  split
  · rfl
  · split
    · rfl
    · rw [takeSlot]
      dsimp only
      split <;> rfl

lemma appStep_inConsensus {ev : AppEvent} (hnone : ∀ dec, ¬TakesCancel cfg s ev dec) (h : s.cancelConsensusPending = true) :
    (appStep cfg s ev).1.cancelConsensusPending = true := by
  cases ev with
  | orderDecided dec | disableCrashComms => exact h
  | decisionGossip senderId inner completed =>
    rw [appStep, handleDecisionGossip]
    split
    · rw [recordOrderVote]
      repeat' split
      all_goals exact h
    · exact h
  | cancelCert payload recallable =>
    rw [appStep, handleCancelCert]
    repeat' split
    all_goals first | exact h | exact handleValidCancelJustification_inConsensus h
  | cancelCertFormed cert recallable => exact broadcastCancelCert_inConsensus h
  | clearancePoll formed cleared now => exact clearancePoll_inConsensus formed cleared now h
  | resumeTimer =>
    rw [appStep, resumeTimer]
    dsimp only
    repeat' split
    all_goals exact h
  | orderTimeout =>
    rw [appStep, orderTimeout]
    split <;> exact h
  | cancelCommitGossip senderId inner recallable =>
    cases hadopt : adoptedAttestation cfg s senderId inner with
    | some dec => exact absurd (Or.inr ⟨senderId, inner, recallable, rfl, hadopt⟩) (hnone dec)
    | none =>
      rw [appStep, handleCancelCommitGossip, hadopt]
      dsimp only
      rw [recordCancelVote]
      repeat' split
      all_goals exact h
  | processOrder completed recallable now =>
    rw [appStep, processOrder]
    cases hqueue : s.pendingOrders with
    | nil => exact h
    | cons dec rest =>
      dsimp only
      cases hdec : isCancelDecision dec with
      | true => exact absurd (Or.inl ⟨completed, recallable, now, rest, rfl, hqueue, hdec⟩) (hnone dec)
      | false =>
        rw [processDecision, if_neg (by simp [hdec])]
        split
        · exact h
        · rw [applyOrder_inConsensus]
          exact h

end V2vBft.App
