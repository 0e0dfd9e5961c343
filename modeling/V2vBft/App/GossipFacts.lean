import V2vBft.App.DecisionGossip

namespace V2vBft.App

open Wire

variable {cfg : AppConfig} {g : GossipConfig} {s s' : Gossiping} {ev : GossipEvent} {frame : GossipFrame}

def orderEpoch (orderBytes : Bytes) : Option ℕ :=
  if orderBytes.length < OrderHdr.size then none else some (OrderHdr.read orderBytes).epoch

inductive FrameSource (cfg : AppConfig) (s : Gossiping) (ev : GossipEvent) (frame : GossipFrame) : Prop
  | order (rest : List Bytes) (hkind : frame.kind = .decision) (hqueue : s.app.pendingOrders = frame.bytes :: rest)
      (hepoch : orderEpoch frame.bytes = some frame.epoch) (hlive : s.app.isEpochTombstoned frame.epoch = false)
  | retry (hkind : frame.kind = .decision) (hepoch : frame.epoch = s.gossipEpoch)
      (hbytes : frame.bytes = s.gossipOrderBytes) (hne : s.gossipOrderBytes ≠ [])
      (hlive : s.app.isEpochTombstoned frame.epoch = false)
  | cancelDecided (completed recallable : Bool) (now : ℤ) (dec : Bytes) (rest : List Bytes)
      (hkind : frame.kind = .cancelCommit) (hev : ev = .app (.processOrder completed recallable now))
      (hqueue : s.app.pendingOrders = dec :: rest) (hdec : isCancelDecision dec = true)
      (hepoch : frame.epoch = (CancelDecisionHdr.read dec).cancelledEpoch)
      (hbytes : frame.bytes = dec.take CancelDecisionHdr.size)
  | cancelAdopted (senderId : ℤ) (inner : Bytes) (recallable : Bool) (hkind : frame.kind = .cancelCommit)
      (hev : ev = .app (.cancelCommitGossip senderId inner recallable))
      (hadopt : adoptedAttestation cfg s.app senderId inner = some frame.bytes)
      (hepoch : frame.epoch = (CancelDecisionHdr.read frame.bytes).cancelledEpoch)
  | cancelRetry (hkind : frame.kind = .cancelCommit) (hepoch : frame.epoch = s.cancelGossipEpoch)
      (hbytes : frame.bytes = s.cancelGossipBytes) (hne : s.cancelGossipBytes ≠ [])

structure Kept (s s' : Gossiping) (sent : List GossipFrame) : Prop where
  order : s'.gossipOrderBytes = [] ∨
    (s'.gossipEpoch = s.gossipEpoch ∧ s'.gossipOrderBytes = s.gossipOrderBytes) ∨
    ⟨.decision, s'.gossipEpoch, s'.gossipOrderBytes⟩ ∈ sent
  cancel : s'.cancelGossipBytes = [] ∨
    (s'.cancelGossipEpoch = s.cancelGossipEpoch ∧ s'.cancelGossipBytes = s.cancelGossipBytes) ∨
    ⟨.cancelCommit, s'.cancelGossipEpoch, s'.cancelGossipBytes⟩ ∈ sent

lemma Kept.refl (s : Gossiping) (sent : List GossipFrame) : Kept s s sent :=
  ⟨Or.inr (Or.inl ⟨rfl, rfl⟩), Or.inr (Or.inl ⟨rfl, rfl⟩)⟩

lemma scheduleNextGossip_cases (g : GossipConfig) (s : Gossiping) :
    scheduleNextGossip g s = s ∨ scheduleNextGossip g s = stopGossip s ∨
      scheduleNextGossip g s = { s with gossipScheduled := true } := by
  rw [scheduleNextGossip]
  split
  next => exact Or.inl rfl
  next =>
    split
    next => exact Or.inr (Or.inl rfl)
    next => exact Or.inr (Or.inr rfl)

lemma scheduleNextGossip_kept {sent : List GossipFrame} (h : Kept s s' sent) :
    Kept s (scheduleNextGossip g s') sent := by
  rcases scheduleNextGossip_cases g s' with heq | heq | heq
  · rw [heq]
    exact h
  · rw [heq]
    exact ⟨Or.inl rfl, h.cancel⟩
  · rw [heq]
    exact ⟨h.order, h.cancel⟩

lemma scheduleNextGossip_app : (scheduleNextGossip g s).app = s.app := by
  rcases scheduleNextGossip_cases g s with heq | heq | heq <;> rw [heq]
  rfl

lemma triggerGossip_sent (g : GossipConfig) (s : Gossiping) (epoch : ℕ) (orderBytes : Bytes) :
    Kept s (triggerGossip g s epoch orderBytes).1 (triggerGossip g s epoch orderBytes).2 ∧
      (triggerGossip g s epoch orderBytes).1.app = s.app ∧
      ∀ frame ∈ (triggerGossip g s epoch orderBytes).2, frame = ⟨.decision, epoch, orderBytes⟩ := by
  rw [triggerGossip]
  split
  next => exact ⟨Kept.refl s [], rfl, fun _ h => absurd h List.not_mem_nil⟩
  next =>
    split
    next => exact ⟨Kept.refl s [], rfl, fun _ h => absurd h List.not_mem_nil⟩
    next =>
      refine ⟨scheduleNextGossip_kept ⟨Or.inr (Or.inr List.mem_cons_self), Or.inr (Or.inl ⟨rfl, rfl⟩)⟩,
        scheduleNextGossip_app, fun frame h => List.mem_singleton.mp h⟩

lemma triggerCancelCommitGossip_sent (cfg : AppConfig) (s : Gossiping) (epoch : ℕ) (attestation : Bytes) :
    Kept s (triggerCancelCommitGossip cfg s epoch attestation).1 (triggerCancelCommitGossip cfg s epoch attestation).2 ∧
      (triggerCancelCommitGossip cfg s epoch attestation).1.app = s.app ∧
      ∀ frame ∈ (triggerCancelCommitGossip cfg s epoch attestation).2, frame = ⟨.cancelCommit, epoch, attestation⟩ := by
  rw [triggerCancelCommitGossip]
  split
  next => exact ⟨Kept.refl s [], rfl, fun _ h => absurd h List.not_mem_nil⟩
  next =>
    dsimp only
    split
    all_goals exact ⟨⟨Or.inr (Or.inl ⟨rfl, rfl⟩), Or.inr (Or.inr List.mem_cons_self)⟩, rfl,
      fun frame h => List.mem_singleton.mp h⟩

lemma gossipTimer_sent (cfg : AppConfig) (g : GossipConfig) (s : Gossiping) :
    Kept s (gossipTimer cfg g s).1 (gossipTimer cfg g s).2 ∧ (gossipTimer cfg g s).1.app = s.app ∧
      ∀ frame ∈ (gossipTimer cfg g s).2, FrameSource cfg s .gossipTimer frame := by
  have hnil : ∀ frame ∈ ([] : List GossipFrame), FrameSource cfg s .gossipTimer frame :=
    fun _ h => absurd h List.not_mem_nil
  rw [gossipTimer]
  split
  next =>
    dsimp only
    split
    next => exact ⟨⟨Or.inr (Or.inl ⟨rfl, rfl⟩), Or.inr (Or.inl ⟨rfl, rfl⟩)⟩, rfl, hnil⟩
    next hne =>
      split
      next => exact ⟨⟨Or.inl rfl, Or.inr (Or.inl ⟨rfl, rfl⟩)⟩, rfl, hnil⟩
      next hlive =>
        split
        next => exact ⟨⟨Or.inl rfl, Or.inr (Or.inl ⟨rfl, rfl⟩)⟩, rfl, hnil⟩
        next =>
          refine ⟨scheduleNextGossip_kept ⟨Or.inr (Or.inl ⟨rfl, rfl⟩), Or.inr (Or.inl ⟨rfl, rfl⟩)⟩, scheduleNextGossip_app, fun frame h => ?_⟩
          obtain rfl := List.mem_singleton.mp h
          have hlive' : s.app.isEpochTombstoned s.gossipEpoch = false := by
            simp only [AppState.gossipHalted, Bool.or_eq_true, not_or] at hlive
            exact eq_false_of_ne_true hlive.1
          exact .retry rfl rfl rfl hne hlive'
  next => exact ⟨Kept.refl s [], rfl, hnil⟩

lemma cancelGossipTimer_sent (cfg : AppConfig) (g : GossipConfig) (s : Gossiping) :
    Kept s (cancelGossipTimer cfg g s).1 (cancelGossipTimer cfg g s).2 ∧ (cancelGossipTimer cfg g s).1.app = s.app ∧
      ∀ frame ∈ (cancelGossipTimer cfg g s).2, FrameSource cfg s .cancelGossipTimer frame := by
  have hnil : ∀ frame ∈ ([] : List GossipFrame), FrameSource cfg s .cancelGossipTimer frame :=
    fun _ h => absurd h List.not_mem_nil
  rw [cancelGossipTimer]
  split
  next =>
    dsimp only
    split
    next => exact ⟨⟨Or.inr (Or.inl ⟨rfl, rfl⟩), Or.inr (Or.inl ⟨rfl, rfl⟩)⟩, rfl, hnil⟩
    next hne =>
      have hsent : ∀ frame ∈ [GossipFrame.mk .cancelCommit s.cancelGossipEpoch s.cancelGossipBytes],
          FrameSource cfg s .cancelGossipTimer frame := by
        intro frame h
        obtain rfl := List.mem_singleton.mp h
        exact .cancelRetry rfl rfl rfl hne
      split
      next => exact ⟨⟨Or.inr (Or.inl ⟨rfl, rfl⟩), Or.inl rfl⟩, rfl, hnil⟩
      next =>
        split
        next => exact ⟨⟨Or.inr (Or.inl ⟨rfl, rfl⟩), Or.inl rfl⟩, rfl, hsent⟩
        next => exact ⟨⟨Or.inr (Or.inl ⟨rfl, rfl⟩), Or.inr (Or.inl ⟨rfl, rfl⟩)⟩, rfl, hsent⟩
  next => exact ⟨Kept.refl s [], rfl, hnil⟩

structure GossipStepSpec (cfg : AppConfig) (g : GossipConfig) (s : Gossiping) (ev : GossipEvent) : Prop where
  kept : Kept s (gossipStep cfg g s ev).1 (gossipStep cfg g s ev).2.sent
  source : ∀ frame ∈ (gossipStep cfg g s ev).2.sent, FrameSource cfg s ev frame

lemma gossipAfter_app (cfg : AppConfig) (g : GossipConfig) (a : AppState) (fx : Effects) (s' : Gossiping) (ev : AppEvent) :
    (gossipAfter cfg g a fx s' ev).1.app = s'.app := by
  cases ev with
  | processOrder completed recallable now =>
    simp only [gossipAfter]
    split
    next => rfl
    next dec rest _ =>
      split
      next =>
        rw [broadcastCancelCommitAttestation]
        split
        next => exact (triggerCancelCommitGossip_sent cfg s' _ _).2.1
        next => rfl
      next =>
        split
        next => rfl
        next order _ =>
          split
          next => exact (triggerGossip_sent g s' order.epoch dec).2.1
          next => rfl
  | cancelCommitGossip senderId inner recallable =>
    simp only [gossipAfter]
    split
    next => rfl
    next attestation _ => exact (triggerCancelCommitGossip_sent cfg s' _ attestation).2.1
  | decisionGossip senderId inner completed | cancelCert payload recallable
  | cancelCertFormed cert recallable | clearancePoll formed cleared now =>
    simp only [gossipAfter]
    split <;> rfl
  | orderDecided dec | resumeTimer | orderTimeout | disableCrashComms => rfl

lemma gossipStep_app (cfg : AppConfig) (g : GossipConfig) (s : Gossiping) (ev : AppEvent) :
    (gossipStep cfg g s (.app ev)).1.app = (appStep cfg s.app ev).1 := gossipAfter_app cfg g s.app _ _ ev

lemma orderEpoch_of_size {dec : Bytes} (h : OrderHdr.size ≤ dec.length) :
    orderEpoch dec = some (OrderHdr.read dec).epoch := by rw [orderEpoch, if_neg (Nat.not_lt.mpr h)]

lemma processOrder_gossip (completed recallable : Bool) (now : ℤ) :
    GossipStepSpec cfg g s (.app (.processOrder completed recallable now)) := by
  set s' : Gossiping := { s with app := (appStep cfg s.app (.processOrder completed recallable now)).1 } with hs'
  have hquiet (h : gossipAfter cfg g s.app (appStep cfg s.app (.processOrder completed recallable now)).2 s'
        (.processOrder completed recallable now) = (s', [])) :
      GossipStepSpec cfg g s (.app (.processOrder completed recallable now)) := by
    constructor
    all_goals simp only [gossipStep, ← hs', h]
    · exact ⟨Or.inr (Or.inl ⟨rfl, rfl⟩), Or.inr (Or.inl ⟨rfl, rfl⟩)⟩
    · exact fun _ h => absurd h List.not_mem_nil
  cases hqueue : s.app.pendingOrders with
  | nil => exact hquiet (by simp only [gossipAfter, hqueue])
  | cons dec rest =>
    cases hdec : isCancelDecision dec with
    | true =>
      cases henabled : g.gossipEnabled with
      | false =>
        exact hquiet (by
          simp only [gossipAfter, hqueue, hdec, if_true, broadcastCancelCommitAttestation, henabled,
            Bool.false_eq_true, if_false])
      | true =>
        obtain ⟨hkept, -, hsent⟩ := triggerCancelCommitGossip_sent cfg s' (CancelDecisionHdr.read dec).cancelledEpoch
          (dec.take CancelDecisionHdr.size)
        have hafter : gossipAfter cfg g s.app (appStep cfg s.app (.processOrder completed recallable now)).2 s'
              (.processOrder completed recallable now) =
            triggerCancelCommitGossip cfg s' (CancelDecisionHdr.read dec).cancelledEpoch
              (dec.take CancelDecisionHdr.size) := by
          simp only [gossipAfter, hqueue, hdec, if_true, broadcastCancelCommitAttestation, henabled]
        constructor
        all_goals simp only [gossipStep, ← hs', hafter]
        · exact ⟨hkept.order, hkept.cancel⟩
        · intro frame hframe
          obtain rfl := hsent frame hframe
          exact .cancelDecided completed recallable now dec rest rfl rfl hqueue hdec rfl rfl
    | false =>
      cases happlied : (appStep cfg s.app (.processOrder completed recallable now)).2.applied with
      | none => exact hquiet (by simp only [gossipAfter, hqueue, hdec, Bool.false_eq_true, if_false, happlied])
      | some order =>
        by_cases hsend : ((ownBatch cfg order).isSome && g.gossipEnabled && decide (s'.gossipOrderBytes = [])) = true
        · obtain ⟨hkept, -, hsent⟩ := triggerGossip_sent g s' order.epoch dec
          have hafter : gossipAfter cfg g s.app (appStep cfg s.app (.processOrder completed recallable now)).2 s'
              (.processOrder completed recallable now) = triggerGossip g s' order.epoch dec := by
            simp only [gossipAfter, hqueue, hdec, Bool.false_eq_true, if_false, happlied, hsend, if_true]
          constructor
          all_goals simp only [gossipStep, ← hs', hafter]
          · exact ⟨hkept.order, hkept.cancel⟩
          · intro frame hframe
            obtain rfl := hsent frame hframe
            cases appStep_epochs cfg s.app (.processOrder completed recallable now) with
            | kept hsame hnone => exact absurd (hnone.symm.trans happlied) (by simp)
            | cancelled d hsrc hcancel hnone => exact absurd (hnone.symm.trans happlied) (by simp)
            | applied o hsrc hsame happ huses =>
              obtain rfl := Option.some.inj (happ.symm.trans happlied)
              obtain ⟨c, r, n, d, rest', hev', hqueue', hdec', horder⟩ := hsrc
              obtain ⟨rfl, -⟩ := List.cons.inj (hqueue.symm.trans hqueue')
              obtain ⟨rfl, hsize, htomb, -⟩ := admittedOrder_some horder
              exact .order rest rfl hqueue (orderEpoch_of_size hsize) htomb
        · exact hquiet (by
            simp only [gossipAfter, hqueue, hdec, Bool.false_eq_true, if_false, happlied, hsend])

lemma gossipStep_spec (cfg : AppConfig) (g : GossipConfig) (s : Gossiping) (ev : GossipEvent) :
    GossipStepSpec cfg g s ev := by
  cases ev with
  | gossipTimer =>
    obtain ⟨hkept, -, hsent⟩ := gossipTimer_sent cfg g s
    exact ⟨hkept, hsent⟩
  | cancelGossipTimer =>
    obtain ⟨hkept, -, hsent⟩ := cancelGossipTimer_sent cfg g s
    exact ⟨hkept, hsent⟩
  | app ev =>
    set s' : Gossiping := { s with app := (appStep cfg s.app ev).1 } with hs'
    cases ev with
    | orderDecided dec | resumeTimer | orderTimeout | disableCrashComms =>
      exact ⟨⟨Or.inr (Or.inl ⟨rfl, rfl⟩), Or.inr (Or.inl ⟨rfl, rfl⟩)⟩, fun _ h => absurd h List.not_mem_nil⟩
    | decisionGossip senderId inner completed | cancelCert payload recallable
    | cancelCertFormed cert recallable | clearancePoll formed cleared now =>
      constructor
      all_goals
        simp only [gossipStep, gossipAfter]
        split
      all_goals first
        | exact ⟨Or.inl rfl, Or.inr (Or.inl ⟨rfl, rfl⟩)⟩
        | exact ⟨Or.inr (Or.inl ⟨rfl, rfl⟩), Or.inr (Or.inl ⟨rfl, rfl⟩)⟩
        | exact fun _ h => absurd h List.not_mem_nil
    | cancelCommitGossip senderId inner recallable =>
      cases hadopt : adoptedAttestation cfg s.app senderId inner with
      | none =>
        constructor
        all_goals simp only [gossipStep, gossipAfter, hadopt]
        · exact ⟨Or.inr (Or.inl ⟨rfl, rfl⟩), Or.inr (Or.inl ⟨rfl, rfl⟩)⟩
        · exact fun _ h => absurd h List.not_mem_nil
      | some attestation =>
        obtain ⟨hkept, -, hsent⟩ := triggerCancelCommitGossip_sent cfg s' (CancelDecisionHdr.read attestation).cancelledEpoch
          attestation
        constructor
        all_goals simp only [gossipStep, gossipAfter, hadopt]
        · exact ⟨hkept.order, hkept.cancel⟩
        · intro frame hframe
          obtain rfl := hsent frame hframe
          exact .cancelAdopted senderId inner recallable rfl rfl hadopt rfl
    | processOrder completed recallable now => exact processOrder_gossip completed recallable now

end V2vBft.App
