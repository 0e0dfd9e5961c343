import V2vBft.Discovery.TxQueue
import V2vBft.Library.GuardedRun

/-! The drain of a discovery round: what still carries the local certificates until they are aired. -/

namespace V2vBft.Discovery

open Wire App Arrival Rollback Library.GuardedRun

variable {cfg : DiscoveryConfig} {r : Readings} {s s' : DiscoveryNode}

def hasLocalFrame (s : DiscoveryNode) (msgType : MsgType) : Bool :=
  s.pendingDiscoveryTxs.any fun p => decide (p.msgType = msgType) && p.localCert && decide (p.epoch = s.epoch)

structure Carried (s : DiscoveryNode) : Prop where
  arrival : s.localCert = .queued → hasLocalFrame s .arrivalCert = true ∨ s.certRetryTimer = true
  distance : s.localDistanceCert = .queued → hasLocalFrame s .stoppedDistanceCert = true

def collectingOrDraining (s : DiscoveryNode) : Bool :=
  decide (s.state = .collecting) || decide (s.state = .drainingCerts)

def startsDistanceCollection (cfg : DiscoveryConfig) (s : DiscoveryNode) : Bool :=
  !(decide (s.state ≠ .collecting) || !s.enteredStopZone || s.proposeSubmitted || s.orderApplied) &&
    (!s.stoppedDistanceCollectionActive && arrivalViewCertified cfg s && !discoveryViewCertified cfg s)

def advances (cfg : DiscoveryConfig) (r : Readings) (s : DiscoveryNode) (deadline : Bool) : Bool :=
  !(decide (s.state ≠ .collecting) || !s.enteredStopZone || s.proposeSubmitted || s.orderApplied) &&
    (if deadline then !startsDistanceCollection cfg s
    else !decide (r.now < s.lastNewIntentAt + cfg.discoveryIntentSettle) &&
      !(decide (s.epoch = 0) && !s.stoppedDistanceCollectionActive) && discoveryViewCertified cfg s)

def arrivalSendable (cfg : DiscoveryConfig) (s : DiscoveryNode) : Bool :=
  (discoveryAcceptsNewTx s .arrivalCert true false && !s.crashCommsDisabled) ||
    (cfg.enableCertRetries && !s.proposeSubmitted && !s.orderApplied)

def drainsSafely (cfg : DiscoveryConfig) (s : DiscoveryNode) : Bool :=
  (!assemblesArrivalCert s || arrivalSendable cfg s) && (!assemblesDistanceCert s || !s.crashCommsDisabled)

def advancesSafely (cfg : DiscoveryConfig) (r : Readings) (s : DiscoveryNode) (deadline : Bool) : Bool :=
  !advances cfg r s deadline || drainsSafely cfg s

def finalizedArrival (cfg : DiscoveryConfig) (r : Readings) (s : DiscoveryNode) : DiscoveryNode :=
  airArrivalCert cfg r { s with arrivalCertFinalizeTimer := false, certBroadcast := true }

def finalizedDistance (cfg : DiscoveryConfig) (r : Readings) (s : DiscoveryNode) : DiscoveryNode :=
  airDistanceCert cfg r { s with stoppedDistanceFinalizeTimer := false, stoppedDistanceCertBroadcast := true }

def finalizesArrivalSafely (cfg : DiscoveryConfig) (r : Readings) (s : DiscoveryNode) : Bool :=
  !assemblesArrivalCert s ||
    (!collectingOrDraining s || arrivalSendable cfg s) && advancesSafely cfg r (finalizedArrival cfg r s) false

def finalizesDistanceSafely (cfg : DiscoveryConfig) (r : Readings) (s : DiscoveryNode) : Bool :=
  !assemblesDistanceCert s ||
    (!collectingOrDraining s || !s.crashCommsDisabled) && advancesSafely cfg r (finalizedDistance cfg r s) false

def arrivalFramed (s : DiscoveryNode) : Bool :=
  !collectingOrDraining s || decide (s.localCert ≠ .queued) || hasLocalFrame s .arrivalCert

def retriesOn (cfg : DiscoveryConfig) (s : DiscoveryNode) : Bool :=
  (discoveryAcceptsNewTx s .arrivalCert true false && !s.crashCommsDisabled) ||
    (!s.proposeSubmitted && !s.orderApplied && !decide (0 < cfg.certRetryMax ∧ cfg.certRetryMax ≤ s.certRetryCount + 1))

-- the step does not take the last frame or retry of a certificate that is assembled and not aired
def keepsCarrier (cfg : DiscoveryConfig) (s : DiscoveryNode) : DiscoveryEvent → Bool
  | .enterStopZone r =>
    s.enteredStopZone || s.orderApplied || advancesSafely cfg r { s with enteredStopZone := true } false
  | .arrivalEcho reached r =>
    !(armsArrivalFinalize s reached && decide (cfg.collectionWindow ≤ 0)) ||
      finalizesArrivalSafely cfg r (takeArrivalEcho s reached)
  | .arrivalFinalizeTimer r =>
    !s.arrivalCertFinalizeTimer || finalizesArrivalSafely cfg r { s with arrivalCertFinalizeTimer := false }
  | .arrivalCert carId tryRelay r =>
    decide (carId ∈ s.collectedCerts) || advancesSafely cfg r (storeArrivalCert r s carId tryRelay) false
  | .distanceFinalizeTimer r =>
    !s.stoppedDistanceFinalizeTimer ||
      finalizesDistanceSafely cfg r { s with stoppedDistanceFinalizeTimer := false }
  | .distanceCert carId r =>
    decide (carId ∈ s.collectedDistanceCerts ∨ carId ∉ s.collectedCerts) ||
      advancesSafely cfg r (storeDistanceCert r s carId) false
  | .deadline r =>
    advancesSafely cfg r s true &&
      (!startsDistanceCollection cfg s || decide (s.localCert ≠ .queued) || s.certRetryTimer)
  | .settle r => advancesSafely cfg r s false
  | .certRetryTimer _ => !s.certRetryTimer || arrivalFramed s || retriesOn cfg s
  | .primaryPacket => arrivalFramed s
  | .crash =>
    s.crashCommsDisabled || !collectingOrDraining s ||
      decide (s.localCert ≠ .queued) && decide (s.localDistanceCert ≠ .queued)
  | _ => true

structure Round (cfg : DiscoveryConfig) (s : DiscoveryNode) : Prop where
  present : s.departed = false
  epoch : s.epoch = s.currentEpoch
  retries : s.certRetryTimer = true → s.certPendingRetries = true ∧ cfg.enableCertRetries = true
  carried : Carried s

structure Sound (cfg : DiscoveryConfig) (s : DiscoveryNode) : Prop where
  departed : s.departed = true → s.state = .inactive
  epoch : s.state ≠ .inactive → s.epoch = s.currentEpoch
  retries : s.certRetryTimer = true → s.certPendingRetries = true ∧ cfg.enableCertRetries = true
  carried : collectingOrDraining s = true → Carried s

lemma collectingOrDraining_iff : collectingOrDraining s = true ↔ s.state = .collecting ∨ s.state = .drainingCerts := by
  rw [collectingOrDraining, Bool.or_eq_true, decide_eq_true_eq, decide_eq_true_eq]

lemma Sound.round (h : Sound cfg s) (hruns : collectingOrDraining s = true) : Round cfg s := by
  have hstate : s.state ≠ .inactive := by
    rcases collectingOrDraining_iff.mp hruns with hstate | hstate <;> rw [hstate] <;> decide
  refine ⟨Bool.eq_false_iff.mpr fun hdeparted => hstate (h.departed hdeparted), h.epoch hstate, h.retries, h.carried hruns⟩

lemma Round.sound (h : Round cfg s) : Sound cfg s where
  departed := fun hdeparted => absurd (h.present.symm.trans hdeparted) Bool.false_ne_true
  epoch := fun _ => h.epoch
  retries := h.retries
  carried := fun _ => h.carried

structure Keeps (s s' : DiscoveryNode) : Prop where
  state : s'.state = s.state
  epoch : s'.epoch = s.epoch
  currentEpoch : s'.currentEpoch = s.currentEpoch
  departed : s'.departed = s.departed
  crash : s'.crashCommsDisabled = s.crashCommsDisabled
  frames : s.pendingDiscoveryTxs ⊆ s'.pendingDiscoveryTxs
  localCert : s'.localCert = s.localCert
  localDistanceCert : s'.localDistanceCert = s.localDistanceCert
  timer : s'.certRetryTimer = s.certRetryTimer
  pending : s'.certPendingRetries = s.certPendingRetries
  arrival : assemblesArrivalCert s' = assemblesArrivalCert s
  distance : assemblesDistanceCert s' = assemblesDistanceCert s

lemma Keeps.refl (s : DiscoveryNode) : Keeps s s :=
  ⟨rfl, rfl, rfl, rfl, rfl, List.Subset.refl _, rfl, rfl, rfl, rfl, rfl, rfl⟩

lemma Keeps.trans {t : DiscoveryNode} (h : Keeps s s') (h' : Keeps s' t) : Keeps s t where
  state := h'.state.trans h.state
  epoch := h'.epoch.trans h.epoch
  currentEpoch := h'.currentEpoch.trans h.currentEpoch
  departed := h'.departed.trans h.departed
  crash := h'.crash.trans h.crash
  frames := List.Subset.trans h.frames h'.frames
  localCert := h'.localCert.trans h.localCert
  localDistanceCert := h'.localDistanceCert.trans h.localDistanceCert
  timer := h'.timer.trans h.timer
  pending := h'.pending.trans h.pending
  arrival := h'.arrival.trans h.arrival
  distance := h'.distance.trans h.distance

lemma hasLocalFrame_iff {msgType : MsgType} : hasLocalFrame s msgType = true ↔
    ∃ p ∈ s.pendingDiscoveryTxs, p.msgType = msgType ∧ p.localCert = true ∧ p.epoch = s.epoch := by
  simp [hasLocalFrame, and_assoc]

lemma hasLocalFrame_mono {msgType : MsgType} (hframes : s.pendingDiscoveryTxs ⊆ s'.pendingDiscoveryTxs)
    (hepoch : s'.epoch = s.epoch) (h : hasLocalFrame s msgType = true) : hasLocalFrame s' msgType = true := by
  obtain ⟨p, hp, htype, hlocal, hp'⟩ := hasLocalFrame_iff.mp h
  exact hasLocalFrame_iff.mpr ⟨p, hframes hp, htype, hlocal, hp'.trans hepoch.symm⟩

lemma Keeps.carried (h : Keeps s s') (hs : Carried s) : Carried s' where
  arrival := fun hqueued => by
    rw [h.localCert] at hqueued
    rw [h.timer]
    exact (hs.arrival hqueued).imp_left (hasLocalFrame_mono h.frames h.epoch)
  distance := fun hqueued => hasLocalFrame_mono h.frames h.epoch (hs.distance (h.localDistanceCert ▸ hqueued))

lemma Keeps.round (h : Keeps s s') (hs : Round cfg s) : Round cfg s' where
  present := h.departed.trans hs.present
  epoch := h.epoch.trans (hs.epoch.trans h.currentEpoch.symm)
  retries := by
    rw [h.timer, h.pending]
    exact hs.retries
  carried := h.carried hs.carried

lemma Keeps.sound (h : Keeps s s') (hs : Sound cfg s) : Sound cfg s' where
  departed := by
    rw [h.departed, h.state]
    exact hs.departed
  epoch := by
    rw [h.state, h.epoch, h.currentEpoch]
    exact hs.epoch
  retries := by
    rw [h.timer, h.pending]
    exact hs.retries
  carried := by
    rw [collectingOrDraining, h.state]
    exact fun hruns => h.carried (hs.carried hruns)

lemma enqueueDiscoveryTx_keeps (msgType : MsgType) (fireTime : ℤ) (localCert witnessTraffic : Bool) :
    Keeps s (enqueueDiscoveryTx s msgType fireTime localCert witnessTraffic) := by
  rw [enqueueDiscoveryTx]
  split
  · exact Keeps.refl s
  · exact ⟨rfl, rfl, rfl, rfl, rfl, List.subset_append_left _ _, rfl, rfl, rfl, rfl, rfl, rfl⟩

lemma sendBFTMessage_keeps (msgType : MsgType) (localCert witnessTraffic : Bool) :
    Keeps s (sendBFTMessage r s msgType localCert witnessTraffic) := by
  rw [sendBFTMessage]
  split_ifs
  · exact Keeps.refl s
  · exact Keeps.refl s
  · exact enqueueDiscoveryTx_keeps _ _ _ _

lemma enqueueDiscoveryTx_frame {msgType : MsgType} (fireTime : ℤ) (witnessTraffic : Bool)
    (hcrash : s.crashCommsDisabled = false) (hepoch : s.epoch = s.currentEpoch) :
    hasLocalFrame (enqueueDiscoveryTx s msgType fireTime true witnessTraffic) msgType = true := by
  rw [enqueueDiscoveryTx, if_neg (by rw [hcrash]; exact Bool.false_ne_true), hasLocalFrame_iff]
  exact ⟨_, List.mem_append_right _ (List.mem_singleton_self _), rfl, rfl, hepoch.symm⟩

lemma sendBFTMessage_frame {msgType : MsgType} {witnessTraffic : Bool}
    (haccepts : discoveryAcceptsNewTx s msgType true witnessTraffic = true) (hcrash : s.crashCommsDisabled = false)
    (hepoch : s.epoch = s.currentEpoch) :
    hasLocalFrame (sendBFTMessage r s msgType true witnessTraffic) msgType = true := by
  rw [sendBFTMessage, if_neg (by rw [hcrash]; exact Bool.false_ne_true), if_neg (by rw [haccepts]; decide)]
  exact enqueueDiscoveryTx_frame _ _ hcrash hepoch

lemma broadcastCollectedCerts_keeps : Keeps s (broadcastCollectedCerts r s) := by
  rw [broadcastCollectedCerts]
  generalize s.collectedCerts = certs
  induction certs generalizing s with
  | nil => exact Keeps.refl s
  | cons carId certs ih => exact (sendBFTMessage_keeps _ _ _).trans ih

lemma startStopZoneCertGossip_keeps (immediate : Bool) : Keeps s (startStopZoneCertGossip r s immediate) := by
  rw [startStopZoneCertGossip]
  split_ifs
  exacts [Keeps.refl s, broadcastCollectedCerts_keeps, Keeps.refl s]

lemma noteDiscoveryIntent_keeps (hstate : s.state = .collecting) (now : ℤ) :
    Keeps s (noteDiscoveryIntent s now) := by
  rw [noteDiscoveryIntent]
  split
  · exact Keeps.refl s
  · refine ⟨?_, rfl, rfl, rfl, rfl, List.Subset.refl _, rfl, rfl, rfl, rfl, rfl, rfl⟩
    simp [hstate]

lemma observed_keeps (cars : List Bytes) : Keeps s { s with observedIntentCars := cars } :=
  ⟨rfl, rfl, rfl, rfl, rfl, List.Subset.refl _, rfl, rfl, rfl, rfl, rfl, rfl⟩

lemma observeIntent_keeps (hstate : s.state = .collecting) (carId : Bytes) (now : ℤ) :
    Keeps s (observeIntent s carId now) := by
  rw [observeIntent]
  split
  · exact Keeps.refl s
  · exact (observed_keeps _).trans (noteDiscoveryIntent_keeps (by exact hstate) now)

lemma collected_keeps (certs distances : List Bytes) :
    Keeps s { s with collectedCerts := certs, collectedDistanceCerts := distances } :=
  ⟨rfl, rfl, rfl, rfl, rfl, List.Subset.refl _, rfl, rfl, rfl, rfl, rfl, rfl⟩

lemma Keeps.ite {c : Prop} [Decidable c] {t t' : DiscoveryNode} (h : c → Keeps s t) (h' : ¬c → Keeps s t') :
    Keeps s (if c then t else t') := by
  split
  · exact h ‹_›
  · exact h' ‹_›

lemma storeArrivalCert_keeps (carId : Bytes) (tryRelay : Bool) : Keeps s (storeArrivalCert r s carId tryRelay) := by
  rw [storeArrivalCert]
  refine Keeps.trans ?_ (Keeps.ite (fun _ => startStopZoneCertGossip_keeps _) fun _ => Keeps.refl _)
  refine Keeps.trans ?_ (Keeps.ite (fun _ => sendBFTMessage_keeps _ _ _) fun _ => Keeps.refl _)
  refine Keeps.trans (collected_keeps (carId :: s.collectedCerts) _) (Keeps.ite (fun _ => Keeps.refl _) fun _ => ?_)
  refine Keeps.trans (observed_keeps _) (Keeps.ite (fun hstate => ?_) fun _ => Keeps.refl _)
  exact noteDiscoveryIntent_keeps hstate _

lemma storeDistanceCert_keeps (carId : Bytes) : Keeps s (storeDistanceCert r s carId) := by
  rw [storeDistanceCert]
  refine Keeps.trans ?_ (Keeps.ite (fun _ => sendBFTMessage_keeps _ _ _) fun _ => Keeps.refl _)
  exact collected_keeps _ _

lemma sendBFTMessage_submits (msgType : MsgType) (localCert witnessTraffic : Bool) :
    (sendBFTMessage r s msgType localCert witnessTraffic).proposeSubmitted = s.proposeSubmitted ∧
      (sendBFTMessage r s msgType localCert witnessTraffic).orderApplied = s.orderApplied ∧
      (sendBFTMessage r s msgType localCert witnessTraffic).certRetryCount = s.certRetryCount := by
  rw [sendBFTMessage, enqueueDiscoveryTx]
  split_ifs <;> exact ⟨rfl, rfl, rfl⟩

lemma armCertRetries_cases :
    (cfg.enableCertRetries = false ∧ armCertRetries cfg s = s) ∨
    (cfg.enableCertRetries = true ∧ (s.proposeSubmitted || s.orderApplied) = true ∧
      armCertRetries cfg s = stopCertBroadcastRetries s) ∨
    (cfg.enableCertRetries = true ∧ (s.proposeSubmitted || s.orderApplied) = false ∧
      armCertRetries cfg s = { s with certPendingRetries := true, certRetryCount := 0, certRetryTimer := true }) := by
  rw [armCertRetries]
  cases henabled : cfg.enableCertRetries with
  | false => exact Or.inl ⟨rfl, rfl⟩
  | true =>
    cases hsubmitted : (s.proposeSubmitted || s.orderApplied) with
    | true => simp [scheduleNextCertRetry, henabled, hsubmitted, stopCertBroadcastRetries]
    | false => simp [scheduleNextCertRetry, henabled, hsubmitted]

lemma airArrivalCert_keeps :
    Keeps (armCertRetries cfg (sendBFTMessage r { s with localCert := .queued } .arrivalCert true false))
      (airArrivalCert cfg r s) := by
  rw [airArrivalCert]
  refine Keeps.trans ?_ (Keeps.ite (fun _ => startStopZoneCertGossip_keeps _) fun _ => Keeps.refl _)
  exact Keeps.ite (fun _ => collected_keeps _ _) fun _ => Keeps.refl _

lemma accepts_queued (haccepts : discoveryAcceptsNewTx s .arrivalCert true false = true) :
    discoveryAcceptsNewTx { s with localCert := .queued } .arrivalCert true false = true := by
  rw [discoveryAcceptsNewTx] at haccepts ⊢
  grind

lemma airArrivalCert_round (hs : Round cfg s) (hsendable : arrivalSendable cfg s = true) :
    Round cfg (airArrivalCert cfg r s) := by
  refine airArrivalCert_keeps.round ?_
  have hkeeps : Keeps { s with localCert := .queued }
      (sendBFTMessage r { s with localCert := .queued } .arrivalCert true false) := sendBFTMessage_keeps _ _ _
  have hsubmits := @sendBFTMessage_submits r { s with localCert := .queued } .arrivalCert true false
  have hsent : hasLocalFrame (sendBFTMessage r { s with localCert := .queued } .arrivalCert true false) .arrivalCert = true ∨
      cfg.enableCertRetries = true ∧ (s.proposeSubmitted || s.orderApplied) = false := by
    simp only [arrivalSendable, Bool.or_eq_true, Bool.and_eq_true, Bool.not_eq_true'] at hsendable
    rcases hsendable with ⟨haccepts, hcrash⟩ | ⟨⟨henabled, hsubmitted⟩, happlied⟩
    · exact Or.inl (sendBFTMessage_frame (accepts_queued haccepts) hcrash hs.epoch)
    · exact Or.inr ⟨henabled, by rw [hsubmitted, happlied]; rfl⟩
  generalize sendBFTMessage r { s with localCert := .queued } .arrivalCert true false = sent at hkeeps hsubmits hsent ⊢
  have hdistance : sent.localDistanceCert = .queued → hasLocalFrame sent .stoppedDistanceCert = true := fun hqueued =>
    hasLocalFrame_mono hkeeps.frames hkeeps.epoch (hs.carried.distance (hkeeps.localDistanceCert ▸ hqueued))
  have hpresent := hkeeps.departed.trans hs.present
  have hepoch := hkeeps.epoch.trans (hs.epoch.trans hkeeps.currentEpoch.symm)
  rcases @armCertRetries_cases cfg sent with ⟨henabled, harmed⟩ | ⟨_, hsubmitted, harmed⟩ | ⟨henabled, _, harmed⟩ <;>
    rw [harmed]
  · refine ⟨hpresent, hepoch, ?_, fun _ => hsent.imp_right fun hretry => ?_, hdistance⟩
    · rw [hkeeps.timer, hkeeps.pending]
      exact hs.retries
    · exact absurd (henabled.symm.trans hretry.1) Bool.false_ne_true
  · refine ⟨hpresent, hepoch, fun htimer => absurd htimer Bool.false_ne_true, fun _ => ?_, hdistance⟩
    rw [hsubmits.1, hsubmits.2.1] at hsubmitted
    exact hsent.imp_right fun hretry => absurd (hretry.2.symm.trans hsubmitted) Bool.false_ne_true
  · exact ⟨hpresent, hepoch, fun _ => ⟨rfl, henabled⟩, fun _ => Or.inr rfl, hdistance⟩

lemma finalizedArrival_assembles : (finalizedArrival cfg r s).crashCommsDisabled = s.crashCommsDisabled ∧
    assemblesArrivalCert (finalizedArrival cfg r s) = false ∧
    assemblesDistanceCert (finalizedArrival cfg r s) = assemblesDistanceCert s := by
  rw [finalizedArrival]
  have hkeeps := @airArrivalCert_keeps cfg r { s with arrivalCertFinalizeTimer := false, certBroadcast := true }
  have hsent := @sendBFTMessage_keeps r
    { s with arrivalCertFinalizeTimer := false, certBroadcast := true, localCert := .queued } .arrivalCert true false
  rw [hkeeps.crash, hkeeps.arrival, hkeeps.distance]
  generalize sendBFTMessage r
    { s with arrivalCertFinalizeTimer := false, certBroadcast := true, localCert := .queued } .arrivalCert true false =
    sent at hsent ⊢
  have harrival : assemblesArrivalCert sent = false := hsent.arrival.trans (Bool.and_false _)
  rcases @armCertRetries_cases cfg sent with ⟨_, harmed⟩ | ⟨_, _, harmed⟩ | ⟨_, _, harmed⟩ <;>
    rw [harmed] <;> exact ⟨hsent.crash, harrival, hsent.distance⟩

lemma airDistanceCert_keeps : Keeps { s with localDistanceCert := .queued } (airDistanceCert cfg r s) := by
  rw [airDistanceCert]
  exact ((sendBFTMessage_keeps _ _ _).trans (enqueueDiscoveryTx_keeps _ _ _ _)).trans (collected_keeps _ _)

lemma airDistanceCert_round (hs : Round cfg s) (hcrash : s.crashCommsDisabled = false) :
    Round cfg (airDistanceCert cfg r s) := by
  have hkeeps := @airDistanceCert_keeps cfg r s
  refine ⟨hkeeps.departed.trans hs.present, hkeeps.epoch.trans (hs.epoch.trans hkeeps.currentEpoch.symm), ?_, ?_, ?_⟩
  · rw [hkeeps.timer, hkeeps.pending]
    exact hs.retries
  · intro hqueued
    rw [hkeeps.localCert] at hqueued
    rw [hkeeps.timer]
    exact (hs.carried.arrival hqueued).imp_left (hasLocalFrame_mono hkeeps.frames hkeeps.epoch)
  · intro _
    have hsent := @sendBFTMessage_keeps r { s with localDistanceCert := .queued } .stoppedDistanceCert true false
    have hframe := @enqueueDiscoveryTx_frame _ .stoppedDistanceCert (r.now + r.retryDelay) false
      (hsent.crash.trans hcrash) (hsent.epoch.trans (hs.epoch.trans hsent.currentEpoch.symm))
    exact hframe

lemma finalizedDistance_assembles : (finalizedDistance cfg r s).crashCommsDisabled = s.crashCommsDisabled ∧
    assemblesArrivalCert (finalizedDistance cfg r s) = assemblesArrivalCert s ∧
    assemblesDistanceCert (finalizedDistance cfg r s) = false := by
  have hkeeps := @airDistanceCert_keeps cfg r
    { s with stoppedDistanceFinalizeTimer := false, stoppedDistanceCertBroadcast := true }
  rw [finalizedDistance, hkeeps.crash, hkeeps.arrival, hkeeps.distance]
  refine ⟨rfl, rfl, ?_⟩
  simp [assemblesDistanceCert]

lemma maybeAdvanceDiscovery_cases (cfg : DiscoveryConfig) (r : Readings) (drain : DiscoveryNode → DiscoveryNode)
    (s : DiscoveryNode) (deadline : Bool) :
    maybeAdvanceDiscovery cfg r drain s deadline = s ∨
    (deadline = true ∧ startsDistanceCollection cfg s = true ∧
      maybeAdvanceDiscovery cfg r drain s deadline = beginStoppedDistanceCollection s) ∨
    (advances cfg r s deadline = true ∧ maybeAdvanceDiscovery cfg r drain s deadline = drain s) := by
  rw [maybeAdvanceDiscovery]
  split_ifs with hidle hdeadline hstarts hsettling hfirst hviews
  · exact Or.inl rfl
  · exact Or.inr (Or.inl ⟨hdeadline, by grind [advances, startsDistanceCollection], rfl⟩)
  · exact Or.inr (Or.inr ⟨by grind [advances, startsDistanceCollection], rfl⟩)
  · exact Or.inl rfl
  · exact Or.inl rfl
  · exact Or.inl rfl
  · exact Or.inr (Or.inr ⟨by grind [advances, startsDistanceCollection], rfl⟩)

structure Passed (s s' : DiscoveryNode) : Prop where
  crash : s'.crashCommsDisabled = s.crashCommsDisabled
  arrival : assemblesArrivalCert s' = true → assemblesArrivalCert s = true
  distance : assemblesDistanceCert s' = true → assemblesDistanceCert s = true

lemma Passed.trans {t : DiscoveryNode} (h : Passed s s') (h' : Passed s' t) : Passed s t where
  crash := h'.crash.trans h.crash
  arrival := fun ht => h.arrival (h'.arrival ht)
  distance := fun ht => h.distance (h'.distance ht)

def Drains (cfg : DiscoveryConfig) (drain : DiscoveryNode → DiscoveryNode) : Prop :=
  ∀ s, Round cfg s → drainsSafely cfg s = true → Round cfg (drain s) ∧ Passed s (drain s)

variable {drain : DiscoveryNode → DiscoveryNode}

lemma maybeAdvanceDiscovery_drains (hdrain : Drains cfg drain) (hs : Round cfg s) (hsafe : drainsSafely cfg s = true) :
    Round cfg (maybeAdvanceDiscovery cfg r drain s false) ∧ Passed s (maybeAdvanceDiscovery cfg r drain s false) := by
  rcases maybeAdvanceDiscovery_cases cfg r drain s false with hsame | ⟨hdeadline, _⟩ | ⟨_, hadvanced⟩
  · rw [hsame]
    exact ⟨hs, rfl, id, id⟩
  · exact absurd hdeadline Bool.false_ne_true
  · rw [hadvanced]
    exact hdrain s hs hsafe

lemma finalizeLocalArrivalCert_drains (hdrain : Drains cfg drain) (hs : Round cfg s) (hsafe : drainsSafely cfg s = true) :
    Round cfg (finalizeLocalArrivalCert cfg r drain s) ∧ Passed s (finalizeLocalArrivalCert cfg r drain s) ∧
      assemblesArrivalCert (finalizeLocalArrivalCert cfg r drain s) = false := by
  rw [finalizeLocalArrivalCert]
  cases hassembles : assemblesArrivalCert s with
  | false => exact ⟨hs, ⟨rfl, id, id⟩, hassembles⟩
  | true =>
    obtain ⟨hcrash, harrival, hdistance⟩ := @finalizedArrival_assembles cfg r s
    obtain ⟨hsendable, hdistanceSafe⟩ : arrivalSendable cfg s = true ∧
        (!assemblesDistanceCert s || !s.crashCommsDisabled) = true := by
      simpa [drainsSafely, hassembles] using hsafe
    have hround : Round cfg (finalizedArrival cfg r s) :=
      airArrivalCert_round ⟨hs.present, hs.epoch, hs.retries, hs.carried.arrival, hs.carried.distance⟩ hsendable
    have hfinalized : drainsSafely cfg (finalizedArrival cfg r s) = true := by
      rw [drainsSafely, harrival, hdistance, hcrash, hdistanceSafe]
      rfl
    obtain ⟨hround', hpassed⟩ := @maybeAdvanceDiscovery_drains _ r _ _ hdrain hround hfinalized
    have hfinal : Passed s (finalizedArrival cfg r s) :=
      ⟨hcrash, fun h => absurd (harrival.symm.trans h) Bool.false_ne_true, fun h => hdistance ▸ h⟩
    refine ⟨hround', hfinal.trans hpassed, ?_⟩
    exact Bool.eq_false_iff.mpr fun h => absurd (harrival.symm.trans (hpassed.arrival h)) Bool.false_ne_true

lemma finalizeLocalStoppedDistanceCert_drains (hdrain : Drains cfg drain) (hs : Round cfg s)
    (harrival : assemblesArrivalCert s = false) (hcrash : assemblesDistanceCert s = true → s.crashCommsDisabled = false) :
    Round cfg (finalizeLocalStoppedDistanceCert cfg r drain s) ∧
      Passed s (finalizeLocalStoppedDistanceCert cfg r drain s) := by
  rw [finalizeLocalStoppedDistanceCert]
  cases hassembles : assemblesDistanceCert s with
  | false => exact ⟨hs, rfl, id, id⟩
  | true =>
    obtain ⟨hsame, harrival', hdistance⟩ := @finalizedDistance_assembles cfg r s
    have hround : Round cfg (finalizedDistance cfg r s) :=
      airDistanceCert_round ⟨hs.present, hs.epoch, hs.retries, hs.carried.arrival, hs.carried.distance⟩
        (hcrash hassembles)
    have hfinalized : drainsSafely cfg (finalizedDistance cfg r s) = true := by
      rw [drainsSafely, harrival', harrival, hdistance]
      rfl
    obtain ⟨hround', hpassed⟩ := @maybeAdvanceDiscovery_drains _ r _ _ hdrain hround hfinalized
    have hfinal : Passed s (finalizedDistance cfg r s) := ⟨hsame, fun h => harrival' ▸ h, fun _ => hassembles⟩
    exact ⟨hround', hfinal.trans hpassed⟩

lemma maybeCompleteDiscoveryDrain_cases : maybeCompleteDiscoveryDrain s = s ∨
    (s.state = .drainingCerts ∧ s.localCert ≠ .queued ∧ s.localDistanceCert ≠ .queued ∧
      maybeCompleteDiscoveryDrain s = stopCertBroadcastRetries { s with state := .complete }) := by
  rw [maybeCompleteDiscoveryDrain]
  split_ifs with hstate hcert hdistance hpending
  · exact Or.inl rfl
  · exact Or.inl rfl
  · exact Or.inl rfl
  · exact Or.inl rfl
  · refine Or.inr ⟨not_not.mp hstate, hcert, hdistance, ?_⟩
    rw [finishDiscoveryRound, if_neg hstate]

lemma maybeCompleteDiscoveryDrain_round (hs : Round cfg s) :
    Round cfg (maybeCompleteDiscoveryDrain s) ∧ Passed s (maybeCompleteDiscoveryDrain s) := by
  rcases @maybeCompleteDiscoveryDrain_cases s with hsame | ⟨_, hcert, hdistance, hdone⟩
  · rw [hsame]
    exact ⟨hs, rfl, id, id⟩
  · rw [hdone]
    refine ⟨⟨hs.present, hs.epoch, fun h => absurd h Bool.false_ne_true, ?_, ?_⟩, rfl, id, id⟩
    · exact fun hqueued => absurd hqueued hcert
    · exact fun hqueued => absurd hqueued hdistance

lemma hasLocalFrame_discard {msgType : MsgType} (hcert : msgType.isCert = true)
    (h : hasLocalFrame s msgType = true) : hasLocalFrame (discardPendingDiscoveryNonCerts s) msgType = true := by
  obtain ⟨p, hp, htype, hlocal⟩ := hasLocalFrame_iff.mp h
  exact hasLocalFrame_iff.mpr ⟨p, List.mem_filter.mpr ⟨hp, by rw [htype, hcert]⟩, htype, hlocal⟩

lemma discardPendingDiscoveryNonCerts_round (hs : Round cfg s) : Round cfg (discardPendingDiscoveryNonCerts s) where
  present := hs.present
  epoch := hs.epoch
  retries := hs.retries
  carried :=
    { arrival := fun hqueued => (hs.carried.arrival hqueued).imp_left (hasLocalFrame_discard rfl)
      distance := fun hqueued => hasLocalFrame_discard rfl (hs.carried.distance hqueued) }

-- by induction on the depth: a drain inside a drain finds one certificate less to assemble
lemma beginDiscoveryDrain_drains (depth : ℕ) : Drains cfg (beginDiscoveryDrain cfg r depth) := by
  induction depth with
  | zero => exact fun s hs _ => ⟨hs, rfl, id, id⟩
  | succ depth ih =>
    intro s hs hsafe
    rw [beginDiscoveryDrain]
    split_ifs with hstate
    · exact ⟨hs, rfl, id, id⟩
    · obtain ⟨hround, hpassed, harrival⟩ := @finalizeLocalArrivalCert_drains _ r _ _ ih hs hsafe
      have hcrash : assemblesDistanceCert (finalizeLocalArrivalCert cfg r (beginDiscoveryDrain cfg r depth) s) = true →
          (finalizeLocalArrivalCert cfg r (beginDiscoveryDrain cfg r depth) s).crashCommsDisabled = false := by
        intro hassembles
        have hdistance := hpassed.distance hassembles
        rw [hpassed.crash]
        rw [drainsSafely, hdistance, Bool.and_eq_true] at hsafe
        simpa using hsafe.2
      obtain ⟨hround', hpassed'⟩ := @finalizeLocalStoppedDistanceCert_drains _ r _ _ ih hround harrival hcrash
      dsimp only
      generalize finalizeLocalStoppedDistanceCert cfg r (beginDiscoveryDrain cfg r depth)
        (finalizeLocalArrivalCert cfg r (beginDiscoveryDrain cfg r depth) s) = t at hround' hpassed' ⊢
      have hdraining : Round cfg { t with state := .drainingCerts, stoppedDistanceCollectionActive := false } :=
        ⟨hround'.present, hround'.epoch, hround'.retries, hround'.carried.arrival, hround'.carried.distance⟩
      obtain ⟨hdone, hpassed''⟩ := maybeCompleteDiscoveryDrain_round (discardPendingDiscoveryNonCerts_round hdraining)
      have hpassedTo : Passed t (discardPendingDiscoveryNonCerts
          { t with state := .drainingCerts, stoppedDistanceCollectionActive := false }) := ⟨rfl, id, id⟩
      exact ⟨hdone, ((hpassed.trans hpassed').trans hpassedTo).trans hpassed''⟩

lemma advances_collecting {deadline : Bool} (h : advances cfg r s deadline = true) : s.state = .collecting := by
  simp only [advances, Bool.and_eq_true, Bool.not_eq_true', Bool.or_eq_false_iff, decide_eq_false_iff_not] at h
  exact not_not.mp h.1.1.1.1

lemma collecting_runs (hstate : s.state = .collecting) : collectingOrDraining s = true :=
  collectingOrDraining_iff.mpr (Or.inl hstate)

lemma maybeAdvanceDiscovery_sound (hs : Sound cfg s) (hsafe : advancesSafely cfg r s false = true) :
    Sound cfg (maybeAdvanceDiscovery cfg r (drainRound cfg r) s false) := by
  rcases maybeAdvanceDiscovery_cases cfg r (drainRound cfg r) s false with hsame | ⟨hdeadline, _⟩ | ⟨hadvances, hdrained⟩
  · rw [hsame]
    exact hs
  · exact absurd hdeadline Bool.false_ne_true
  · rw [hdrained]
    have hdrains : drainsSafely cfg s = true := by simpa [advancesSafely, hadvances] using hsafe
    exact (beginDiscoveryDrain_drains 3 s (hs.round (collecting_runs (advances_collecting hadvances))) hdrains).1.sound

lemma beginStoppedDistanceCollection_sound (hs : Sound cfg s)
    (hcarrier : s.localCert ≠ .queued ∨ s.certRetryTimer = true) : Sound cfg (beginStoppedDistanceCollection s) := by
  rw [beginStoppedDistanceCollection]
  split_ifs with hskip
  · exact hs
  · refine ⟨hs.departed, hs.epoch, hs.retries, fun hruns => ⟨fun hqueued => ?_, fun hqueued => ?_⟩⟩
    · exact Or.inr (hcarrier.resolve_left (not_not.mpr hqueued))
    · obtain ⟨p, hp, htype, hlocal⟩ := hasLocalFrame_iff.mp ((hs.carried hruns).distance hqueued)
      exact hasLocalFrame_iff.mpr ⟨p, List.mem_filter.mpr ⟨hp, by rw [htype]; rfl⟩, htype, hlocal⟩

lemma deadline_sound (hs : Sound cfg s) (hkeeps : keepsCarrier cfg s (.deadline r) = true) :
    Sound cfg (maybeAdvanceDiscovery cfg r (drainRound cfg r) s true) := by
  rw [keepsCarrier, Bool.and_eq_true] at hkeeps
  rcases maybeAdvanceDiscovery_cases cfg r (drainRound cfg r) s true with hsame | ⟨_, hstarts, hbegun⟩ | ⟨hadvances, hdrained⟩
  · rw [hsame]
    exact hs
  · rw [hbegun]
    exact beginStoppedDistanceCollection_sound hs (by simpa [hstarts] using hkeeps.2)
  · rw [hdrained]
    have hdrains : drainsSafely cfg s = true := by simpa [advancesSafely, hadvances] using hkeeps.1
    exact (beginDiscoveryDrain_drains 3 s (hs.round (collecting_runs (advances_collecting hadvances))) hdrains).1.sound

lemma maybeCompleteDiscoveryDrain_sound (hs : Sound cfg s) : Sound cfg (maybeCompleteDiscoveryDrain s) := by
  rcases @maybeCompleteDiscoveryDrain_cases s with hsame | ⟨hstate, _, _, hdone⟩
  · rw [hsame]
    exact hs
  · rw [hdone]
    refine ⟨fun hdeparted => ?_, fun _ => hs.epoch (by rw [hstate]; decide), fun h => absurd h Bool.false_ne_true, ?_⟩
    · exact absurd ((hs.departed hdeparted).symm.trans hstate) (by decide)
    · exact fun hruns => absurd hruns Bool.false_ne_true

structure Airs (s s' : DiscoveryNode) : Prop where
  state : s'.state = s.state
  epoch : s'.epoch = s.epoch
  currentEpoch : s'.currentEpoch = s.currentEpoch
  departed : s'.departed = s.departed
  frames : s'.pendingDiscoveryTxs = s.pendingDiscoveryTxs
  retries : s'.certRetryTimer = true → s.certRetryTimer = true ∧ s'.certPendingRetries = s.certPendingRetries

lemma airDiscoveryTx_airs (p : PendingDiscoveryTx) : Airs s (airDiscoveryTx s p) := by
  rw [airDiscoveryTx]
  dsimp only
  split_ifs <;>
    exact ⟨rfl, rfl, rfl, rfl, rfl, fun h => by first | exact ⟨h, rfl⟩ | exact absurd h Bool.false_ne_true⟩

lemma airs_local {p : PendingDiscoveryTx} (hruns : collectingOrDraining s = true) (hcert : p.msgType.isCert = true)
    (hepoch : p.epoch = s.epoch) : stopsAiring s p = false := by
  rcases collectingOrDraining_iff.mp hruns with hstate | hstate <;> simp [stopsAiring, hstate, hepoch, hcert]

lemma airDiscoveryTx_arrival {p : PendingDiscoveryTx} (hruns : collectingOrDraining s = true)
    (h : (airDiscoveryTx s p).localCert = .queued) :
    s.localCert = .queued ∧ (airDiscoveryTx s p).certRetryTimer = s.certRetryTimer ∧
      ¬(p.msgType = .arrivalCert ∧ p.localCert = true ∧ p.epoch = s.epoch) := by
  have hlocal := @airs_local s p hruns
  rw [airDiscoveryTx] at h ⊢
  grind [MsgType.isCert, stopCertBroadcastRetries]

lemma airDiscoveryTx_distance {p : PendingDiscoveryTx} (hruns : collectingOrDraining s = true)
    (h : (airDiscoveryTx s p).localDistanceCert = .queued) :
    s.localDistanceCert = .queued ∧ ¬(p.msgType = .stoppedDistanceCert ∧ p.localCert = true ∧ p.epoch = s.epoch) := by
  have hlocal := @airs_local s p hruns
  rw [airDiscoveryTx] at h
  grind [MsgType.isCert, stopCertBroadcastRetries]

lemma hasLocalFrame_tail {msgType : MsgType} {p : PendingDiscoveryTx} {frames : List PendingDiscoveryTx}
    (h : hasLocalFrame { s with pendingDiscoveryTxs := p :: frames } msgType = true)
    (hp : ¬(p.msgType = msgType ∧ p.localCert = true ∧ p.epoch = s.epoch)) (hepoch : s'.epoch = s.epoch) :
    hasLocalFrame { s' with pendingDiscoveryTxs := frames } msgType = true := by
  obtain ⟨q, hq, htype, hlocal, hqepoch⟩ := hasLocalFrame_iff.mp h
  rcases List.mem_cons.mp hq with rfl | hq
  · exact absurd ⟨htype, hlocal, hqepoch⟩ hp
  · exact hasLocalFrame_iff.mpr ⟨q, hq, htype, hlocal, hqepoch.trans hepoch.symm⟩

lemma airDiscoveryTx_carried {p : PendingDiscoveryTx} {frames : List PendingDiscoveryTx}
    (hruns : collectingOrDraining s = true) (h : Carried { s with pendingDiscoveryTxs := p :: frames }) :
    Carried { airDiscoveryTx s p with pendingDiscoveryTxs := frames } where
  arrival := fun hqueued => by
    obtain ⟨hqueued', htimer, hp⟩ := airDiscoveryTx_arrival hruns hqueued
    refine (h.arrival hqueued').imp (fun hframe => ?_) fun hretry => htimer.trans hretry
    exact hasLocalFrame_tail hframe hp (airDiscoveryTx_airs p).epoch
  distance := fun hqueued => by
    obtain ⟨hqueued', hp⟩ := airDiscoveryTx_distance hruns hqueued
    exact hasLocalFrame_tail (h.distance hqueued') hp (airDiscoveryTx_airs p).epoch

lemma Airs.trans {t : DiscoveryNode} (h : Airs s s') (h' : Airs s' t) : Airs s t where
  state := h'.state.trans h.state
  epoch := h'.epoch.trans h.epoch
  currentEpoch := h'.currentEpoch.trans h.currentEpoch
  departed := h'.departed.trans h.departed
  frames := h'.frames.trans h.frames
  retries := fun ht =>
    ⟨(h.retries (h'.retries ht).1).1, (h'.retries ht).2.trans (h.retries (h'.retries ht).1).2⟩

lemma Airs.runs (h : Airs s s') : collectingOrDraining s' = collectingOrDraining s := by
  rw [collectingOrDraining, collectingOrDraining, h.state]

lemma foldl_airs (due : List PendingDiscoveryTx) : Airs s (due.foldl airDiscoveryTx s) := by
  induction due generalizing s with
  | nil => exact ⟨rfl, rfl, rfl, rfl, rfl, fun h => ⟨h, rfl⟩⟩
  | cons p due ih => exact (airDiscoveryTx_airs p).trans ih

lemma foldl_airs_carried {frames : List PendingDiscoveryTx} (due : List PendingDiscoveryTx)
    (hruns : collectingOrDraining s = true) (h : Carried { s with pendingDiscoveryTxs := due ++ frames }) :
    Carried { due.foldl airDiscoveryTx s with pendingDiscoveryTxs := frames } := by
  induction due generalizing s with
  | nil => exact h
  | cons p due ih => exact ih ((airDiscoveryTx_airs p).runs.trans hruns) (airDiscoveryTx_carried hruns h)

lemma mem_due_or_kept (now : ℤ) (frames : List PendingDiscoveryTx) :
    frames ⊆ (frames.filter fun p => decide (p.fireTime ≤ now)) ++
      frames.filter fun p => !decide (p.fireTime ≤ now) := by
  intro p hp
  by_cases hdue : p.fireTime ≤ now <;> simp [hp, hdue]

lemma flushDueDiscoveryTxs_sound (hs : Sound cfg s) (now : ℤ) : Sound cfg (flushDueDiscoveryTxs s now) := by
  rw [flushDueDiscoveryTxs]
  refine maybeCompleteDiscoveryDrain_sound ?_
  have hcovers := mem_due_or_kept now s.pendingDiscoveryTxs
  generalize (s.pendingDiscoveryTxs.filter fun p => decide (p.fireTime ≤ now)) = due at hcovers ⊢
  generalize (s.pendingDiscoveryTxs.filter fun p => !decide (p.fireTime ≤ now)) = kept at hcovers ⊢
  have hairs : Airs { s with pendingDiscoveryTxs := kept }
      (due.foldl airDiscoveryTx { s with pendingDiscoveryTxs := kept }) := foldl_airs due
  have hcarried : collectingOrDraining s = true →
      Carried { due.foldl airDiscoveryTx { s with pendingDiscoveryTxs := kept } with pendingDiscoveryTxs := kept } := by
    intro hruns
    refine foldl_airs_carried due hruns ?_
    have hkeeps : Keeps s { s with pendingDiscoveryTxs := due ++ kept } :=
      ⟨rfl, rfl, rfl, rfl, rfl, hcovers, rfl, rfl, rfl, rfl, rfl, rfl⟩
    exact hkeeps.carried (hs.carried hruns)
  generalize due.foldl airDiscoveryTx { s with pendingDiscoveryTxs := kept } = t at hairs hcarried ⊢
  refine ⟨?_, ?_, fun htimer => ?_, fun hruns => ?_⟩
  · rw [hairs.departed, hairs.state]
    exact hs.departed
  · rw [hairs.state, hairs.epoch, hairs.currentEpoch]
    exact hs.epoch
  · rw [(hairs.retries htimer).2]
    exact hs.retries (hairs.retries htimer).1
  · have hframed := hcarried (hairs.runs ▸ hruns)
    rw [← show t.pendingDiscoveryTxs = kept from hairs.frames] at hframed
    exact hframed

structure Footing (s : DiscoveryNode) : Prop where
  departed : s.departed = true → s.state = .inactive
  epoch : s.state ≠ .inactive → s.epoch = s.currentEpoch
  distance : collectingOrDraining s = true → s.localDistanceCert = .queued → hasLocalFrame s .stoppedDistanceCert = true

lemma Sound.footing (h : Sound cfg s) : Footing s :=
  ⟨h.departed, h.epoch, fun hruns => (h.carried hruns).distance⟩

lemma Keeps.footing (h : Keeps s s') (hs : Footing s) : Footing s' where
  departed := by
    rw [h.departed, h.state]
    exact hs.departed
  epoch := by
    rw [h.state, h.epoch, h.currentEpoch]
    exact hs.epoch
  distance := by
    rw [collectingOrDraining, h.state, h.localDistanceCert]
    exact fun hruns hqueued => hasLocalFrame_mono h.frames h.epoch (hs.distance hruns hqueued)

lemma Footing.stopped (h : Footing s) (hframed : arrivalFramed s = true) : Sound cfg (stopCertBroadcastRetries s) := by
  refine ⟨h.departed, h.epoch, fun ht => absurd ht Bool.false_ne_true, fun hruns => ⟨fun hqueued => Or.inl ?_, ?_⟩⟩
  · have hruns' : collectingOrDraining s = true := hruns
    have hqueued' : s.localCert = .queued := hqueued
    have hframe : hasLocalFrame s .arrivalCert = true := by simpa [arrivalFramed, hruns', hqueued'] using hframed
    exact hframe
  · exact h.distance hruns

lemma Footing.scheduled (h : Footing s) (henabled : cfg.enableCertRetries = true) (hpending : s.certPendingRetries = true)
    (hframed : arrivalFramed s = true ∨ s.proposeSubmitted = false ∧ s.orderApplied = false) :
    Sound cfg (scheduleNextCertRetry cfg s) := by
  rw [scheduleNextCertRetry, if_neg (by simp [henabled, hpending])]
  split_ifs with hsubmitted
  · refine h.stopped (hframed.resolve_right fun hidle => ?_)
    rw [hidle.1, hidle.2] at hsubmitted
    exact Bool.false_ne_true hsubmitted
  · exact ⟨h.departed, h.epoch, fun _ => ⟨hpending, henabled⟩, fun hruns => ⟨fun _ => Or.inr rfl, h.distance hruns⟩⟩

lemma arrivalFramed_mono (h : Keeps s s') (hframed : arrivalFramed s = true) : arrivalFramed s' = true := by
  rw [arrivalFramed, collectingOrDraining, Bool.or_eq_true, Bool.or_eq_true] at hframed ⊢
  rw [h.state, h.localCert]
  exact hframed.imp_right (hasLocalFrame_mono h.frames h.epoch)

lemma sendBFTMessage_framed {witnessTraffic : Bool} (hs : Footing s)
    (haccepts : discoveryAcceptsNewTx s .arrivalCert true witnessTraffic = true) (hcrash : s.crashCommsDisabled = false) :
    arrivalFramed (sendBFTMessage r s .arrivalCert true witnessTraffic) = true := by
  have hsent := @sendBFTMessage_keeps r s .arrivalCert true witnessTraffic
  rw [arrivalFramed, collectingOrDraining, hsent.state]
  by_cases hruns : collectingOrDraining s = true
  · have hstate : s.state ≠ .inactive := by
      rcases collectingOrDraining_iff.mp hruns with hstate | hstate <;> rw [hstate] <;> decide
    rw [sendBFTMessage_frame haccepts hcrash (hs.epoch hstate), Bool.or_true]
  · rw [← collectingOrDraining, Bool.eq_false_iff.mpr hruns]
    rfl

lemma certRetryTimer_sound (hs : Sound cfg s) (hkeeps : keepsCarrier cfg s (.certRetryTimer r) = true) :
    Sound cfg (certRetryTimer cfg r s) := by
  rw [certRetryTimer]
  split_ifs with hfired hover
  · exact hs
  · refine hs.footing.stopped ?_
    have hpending := (hs.retries (by simpa using hfired)).1
    simp only [hpending, Bool.not_true, Bool.false_or, Bool.or_eq_true, Bool.and_eq_true, decide_eq_true_eq] at hover
    rcases hover with (hstate | hstate) | ⟨_, haired⟩
    · simp [arrivalFramed, collectingOrDraining, hstate]
    · simp [arrivalFramed, collectingOrDraining, hstate]
    · simp [arrivalFramed, haired]
  · have htimer : s.certRetryTimer = true := by simpa using hfired
    obtain ⟨hpending, henabled⟩ := hs.retries htimer
    have hsent := @sendBFTMessage_keeps r { s with certRetryTimer := false, certRetryCount := s.certRetryCount + 1 }
      .arrivalCert true false
    obtain ⟨hproposed, happlied, hcount⟩ := @sendBFTMessage_submits r
      { s with certRetryTimer := false, certRetryCount := s.certRetryCount + 1 } .arrivalCert true false
    have hcarrier : arrivalFramed (sendBFTMessage r
          { s with certRetryTimer := false, certRetryCount := s.certRetryCount + 1 } .arrivalCert true false) = true ∨
        (s.proposeSubmitted = false ∧ s.orderApplied = false) ∧
          ¬(0 < cfg.certRetryMax ∧ cfg.certRetryMax ≤ s.certRetryCount + 1) := by
      simp only [keepsCarrier, htimer, Bool.not_true, Bool.false_or, Bool.or_eq_true] at hkeeps
      rcases hkeeps with hframed | hretries
      · exact Or.inl (arrivalFramed_mono hsent hframed)
      · simp only [retriesOn, Bool.or_eq_true, Bool.and_eq_true, Bool.not_eq_true', decide_eq_false_iff_not] at hretries
        refine hretries.imp_left fun hopen => sendBFTMessage_framed ?_ hopen.1 hopen.2
        exact ⟨hs.departed, hs.epoch, hs.footing.distance⟩
    generalize sendBFTMessage r { s with certRetryTimer := false, certRetryCount := s.certRetryCount + 1 } .arrivalCert
      true false = t at hsent hproposed happlied hcount hcarrier ⊢
    have hfooting : Footing t := hsent.footing ⟨hs.departed, hs.epoch, hs.footing.distance⟩
    dsimp only
    split_ifs with hlimit
    · rw [hcount] at hlimit
      exact hfooting.stopped (hcarrier.resolve_right fun hon => hon.2 hlimit)
    · refine hfooting.scheduled henabled (hsent.pending.trans hpending) (hcarrier.imp_right fun hon => ?_)
      rw [hproposed, happlied]
      exact hon.1

lemma startDiscoveryRound_sound (hs : Sound cfg s) (now : ℤ) : Sound cfg (startDiscoveryRound s now) := by
  rw [startDiscoveryRound]
  split_ifs with hdeparted
  · exact hs
  · refine ⟨fun h => absurd h hdeparted, fun _ => rfl, hs.retries, fun _ => ⟨nofun, nofun⟩⟩

lemma beginPostCancelDiscovery_sound (hs : Sound cfg s) (newEpoch : ℕ) (recallable : Bool) (now : ℤ) :
    Sound cfg (beginPostCancelDiscovery s newEpoch recallable now) := by
  rw [beginPostCancelDiscovery, startDiscoveryRound]
  split_ifs with hdeparted
  · have hstate : s.state = .inactive := hs.departed hdeparted
    refine ⟨fun _ => hstate, fun h => absurd hstate h, fun h => absurd h Bool.false_ne_true, fun hruns => ?_⟩
    rcases collectingOrDraining_iff.mp hruns with h | h <;> exact absurd (hstate.symm.trans h) (by decide)
  · refine ⟨fun h => absurd h hdeparted, fun _ => rfl, fun h => absurd h Bool.false_ne_true, fun _ => ⟨nofun, nofun⟩⟩

lemma deactivateDiscovery_sound : Sound cfg (deactivateDiscovery s) := by
  refine ⟨fun _ => rfl, fun h => absurd rfl h, fun h => absurd h Bool.false_ne_true, fun hruns => ?_⟩
  exact absurd hruns Bool.false_ne_true

lemma disableCrashComms_sound (hs : Sound cfg s) (hkeeps : keepsCarrier cfg s .crash = true) :
    Sound cfg (disableCrashComms s) := by
  rw [disableCrashComms]
  split_ifs with hcrashed
  · exact hs
  · refine ⟨hs.departed, hs.epoch, fun h => absurd h Bool.false_ne_true, fun hruns => ?_⟩
    have hruns' : collectingOrDraining s = true := hruns
    simp only [keepsCarrier, hcrashed, hruns', Bool.false_or, Bool.not_true, Bool.and_eq_true, decide_eq_true_eq] at hkeeps
    exact ⟨fun hqueued => absurd hqueued hkeeps.1, fun hqueued => absurd hqueued hkeeps.2⟩

lemma proposeAll_sound (hs : Sound cfg s) : Sound cfg (proposeAll s) := by
  rw [proposeAll]
  split_ifs with hstays
  · exact hs
  · simp only [Bool.or_eq_true, decide_eq_true_eq, not_or, not_not] at hstays
    refine ⟨hs.departed, hs.epoch, fun h => absurd h Bool.false_ne_true, fun hruns => ?_⟩
    rcases collectingOrDraining_iff.mp hruns with h | h <;> exact absurd (hstays.2.symm.trans h) (by decide)

def roundCore (s : DiscoveryNode) :=
  (s.state, s.epoch, s.currentEpoch, s.departed, s.pendingDiscoveryTxs, s.localCert, s.localDistanceCert,
    s.certRetryTimer, s.certPendingRetries)

lemma Sound.flags (h : Sound cfg s) (hcore : roundCore s' = roundCore s) : Sound cfg s' := by
  simp only [roundCore, Prod.mk.injEq] at hcore
  obtain ⟨hstate, hepoch, hcurrent, hdeparted, hframes, hcert, hdistance, htimer, hpending⟩ := hcore
  refine ⟨?_, ?_, ?_, fun hruns => ⟨?_, ?_⟩⟩
  · rw [hdeparted, hstate]
    exact h.departed
  · rw [hstate, hepoch, hcurrent]
    exact h.epoch
  · rw [htimer, hpending]
    exact h.retries
  · rw [hcert, htimer, hasLocalFrame, hframes, hepoch]
    rw [collectingOrDraining, hstate] at hruns
    exact (h.carried hruns).arrival
  · rw [hdistance, hasLocalFrame, hframes, hepoch]
    rw [collectingOrDraining, hstate] at hruns
    exact (h.carried hruns).distance

lemma armCertRetries_retries (h : s.certRetryTimer = true → s.certPendingRetries = true ∧ cfg.enableCertRetries = true) :
    (armCertRetries cfg s).certRetryTimer = true →
      (armCertRetries cfg s).certPendingRetries = true ∧ cfg.enableCertRetries = true := by
  rcases @armCertRetries_cases cfg s with ⟨_, harmed⟩ | ⟨_, _, harmed⟩ | ⟨henabled, _, harmed⟩ <;> rw [harmed]
  · exact h
  · exact fun htimer => absurd htimer Bool.false_ne_true
  · exact fun _ => ⟨rfl, henabled⟩

lemma armCertRetries_core :
    (armCertRetries cfg s).state = s.state ∧ (armCertRetries cfg s).departed = s.departed ∧
      (armCertRetries cfg s).epoch = s.epoch ∧ (armCertRetries cfg s).currentEpoch = s.currentEpoch := by
  rcases @armCertRetries_cases cfg s with ⟨_, harmed⟩ | ⟨_, _, harmed⟩ | ⟨_, _, harmed⟩ <;>
    rw [harmed] <;> exact ⟨rfl, rfl, rfl, rfl⟩

lemma airArrivalCert_idle (hs : Sound cfg s) (hidle : collectingOrDraining s = false) :
    Sound cfg (airArrivalCert cfg r s) := by
  refine airArrivalCert_keeps.sound ?_
  have hsent := @sendBFTMessage_keeps r { s with localCert := .queued } .arrivalCert true false
  generalize sendBFTMessage r { s with localCert := .queued } .arrivalCert true false = sent at hsent ⊢
  obtain ⟨hstate, hdeparted, hepoch, hcurrent⟩ := @armCertRetries_core cfg sent
  refine ⟨?_, ?_, armCertRetries_retries ?_, fun hruns => ?_⟩
  · rw [hdeparted, hstate, hsent.departed, hsent.state]
    exact hs.departed
  · rw [hstate, hepoch, hcurrent, hsent.state, hsent.epoch, hsent.currentEpoch]
    exact hs.epoch
  · rw [hsent.timer, hsent.pending]
    exact hs.retries
  · rw [collectingOrDraining, hstate, hsent.state] at hruns
    exact absurd (hidle.symm.trans hruns) Bool.false_ne_true

lemma finalizeLocalArrivalCert_sound (hs : Sound cfg s) (hsafe : finalizesArrivalSafely cfg r s = true) :
    Sound cfg (finalizeLocalArrivalCert cfg r (drainRound cfg r) s) := by
  rw [finalizeLocalArrivalCert]
  cases hassembles : assemblesArrivalCert s with
  | false => exact hs
  | true =>
    rw [finalizesArrivalSafely, hassembles, Bool.not_true, Bool.false_or, Bool.and_eq_true] at hsafe
    have hmarked : Sound cfg { s with arrivalCertFinalizeTimer := false, certBroadcast := true } := hs.flags rfl
    refine maybeAdvanceDiscovery_sound ?_ hsafe.2
    cases hruns : collectingOrDraining s with
    | false => exact airArrivalCert_idle hmarked hruns
    | true =>
      have hsendable : arrivalSendable cfg s = true := by simpa [hruns] using hsafe.1
      exact (airArrivalCert_round (hmarked.round hruns) hsendable).sound

lemma finalizeLocalStoppedDistanceCert_sound (hs : Sound cfg s) (hsafe : finalizesDistanceSafely cfg r s = true) :
    Sound cfg (finalizeLocalStoppedDistanceCert cfg r (drainRound cfg r) s) := by
  rw [finalizeLocalStoppedDistanceCert]
  cases hassembles : assemblesDistanceCert s with
  | false => exact hs
  | true =>
    rw [finalizesDistanceSafely, hassembles, Bool.not_true, Bool.false_or, Bool.and_eq_true] at hsafe
    have hmarked : Sound cfg { s with stoppedDistanceFinalizeTimer := false, stoppedDistanceCertBroadcast := true } :=
      hs.flags rfl
    refine maybeAdvanceDiscovery_sound ?_ hsafe.2
    cases hruns : collectingOrDraining s with
    | false =>
      refine airDistanceCert_keeps.sound ⟨hs.departed, hs.epoch, hs.retries, fun hruns' => ?_⟩
      exact absurd (hruns.symm.trans hruns') Bool.false_ne_true
    | true =>
      have hcrash : s.crashCommsDisabled = false := by simpa [hruns] using hsafe.1
      exact (airDistanceCert_round (hmarked.round hruns) hcrash).sound

lemma arrivalEcho_sound (hs : Sound cfg s) (reached : Bool)
    (hkeeps : keepsCarrier cfg s (.arrivalEcho reached r) = true) : Sound cfg (arrivalEcho cfg r s reached) := by
  have htaken : Sound cfg (takeArrivalEcho s reached) := by
    rw [takeArrivalEcho]
    split
    · exact hs
    · exact hs.flags rfl
  rw [arrivalEcho]
  split_ifs with harms hwindow
  · exact htaken
  · refine finalizeLocalArrivalCert_sound htaken ?_
    simpa [keepsCarrier, hwindow, show armsArrivalFinalize s reached = true by simpa using harms] using hkeeps
  · exact htaken.flags rfl

lemma distanceEcho_sound (hs : Sound cfg s) (reached : Bool) : Sound cfg (distanceEcho s reached) := by
  rw [distanceEcho]
  split
  · exact hs
  · exact hs.flags rfl

lemma maybeBroadcastStoppedDistanceAttestation_sound (hs : Sound cfg s) (alone : Bool) :
    Sound cfg (maybeBroadcastStoppedDistanceAttestation r s alone) := by
  rw [maybeBroadcastStoppedDistanceAttestation]
  have hmarked : Sound cfg { s with stoppedDistanceAttestationSent := true } := hs.flags rfl
  dsimp only
  split_ifs
  · exact hs
  · exact ((sendBFTMessage_keeps _ _ _).sound hmarked).flags rfl
  · exact (sendBFTMessage_keeps _ _ _).sound hmarked

lemma initial_sound : Sound cfg .initial :=
  ⟨nofun, fun h => absurd rfl h, nofun, nofun⟩

lemma discoveryStep_sound (hs : Sound cfg s) (ev : DiscoveryEvent) (hkeeps : keepsCarrier cfg s ev = true) :
    Sound cfg (discoveryStep cfg s ev) := by
  cases ev with
  | initialApproach now => exact startDiscoveryRound_sound hs now
  | enterStopZone r =>
    rw [discoveryStep]
    split_ifs with hskip
    · exact hs
    · refine maybeAdvanceDiscovery_sound (hs.flags rfl) ?_
      simpa [keepsCarrier, hskip] using hkeeps
  | intent carId now =>
    rw [discoveryStep]
    split_ifs with hcollects
    · simp only [collectsArrivals, Bool.and_eq_true, decide_eq_true_eq] at hcollects
      exact (observeIntent_keeps hcollects.1.1.1.1.2 carId now).sound hs
    · exact hs
  | frame msgType witnessTraffic r => exact (sendBFTMessage_keeps _ _ _).sound hs
  | arrivalEcho reached r => exact arrivalEcho_sound hs reached hkeeps
  | arrivalFinalizeTimer r =>
    rw [discoveryStep]
    split_ifs with hfired
    · refine finalizeLocalArrivalCert_sound (hs.flags rfl) ?_
      simpa [keepsCarrier, hfired] using hkeeps
    · exact hs
  | arrivalCert carId tryRelay r =>
    rw [discoveryStep]
    split_ifs with hknown
    · exact hs
    · refine maybeAdvanceDiscovery_sound ((storeArrivalCert_keeps carId tryRelay).sound hs) ?_
      simpa [keepsCarrier, hknown] using hkeeps
  | attest alone r => exact maybeBroadcastStoppedDistanceAttestation_sound hs alone
  | distanceEcho reached => exact distanceEcho_sound hs reached
  | distanceFinalizeTimer r =>
    rw [discoveryStep]
    split_ifs with hfired
    · refine finalizeLocalStoppedDistanceCert_sound (hs.flags rfl) ?_
      simpa [keepsCarrier, hfired] using hkeeps
    · exact hs
  | distanceCert carId r =>
    rw [discoveryStep]
    split_ifs with hknown
    · exact hs
    · refine maybeAdvanceDiscovery_sound ((storeDistanceCert_keeps carId).sound hs) ?_
      rw [keepsCarrier, decide_eq_false hknown, Bool.false_or] at hkeeps
      exact hkeeps
  | deadline r => exact deadline_sound hs hkeeps
  | settle r => exact maybeAdvanceDiscovery_sound hs hkeeps
  | flush now => exact flushDueDiscoveryTxs_sound hs now
  | certRetryTimer r => exact certRetryTimer_sound hs hkeeps
  | primaryPacket => exact hs.footing.stopped hkeeps
  | proposeAll => exact proposeAll_sound hs
  | proposeCancel => exact hs.flags rfl
  | proposalReopened => exact hs.flags rfl
  | orderCommitted applied =>
    rw [discoveryStep]
    split
    · exact deactivateDiscovery_sound.flags rfl
    · exact deactivateDiscovery_sound
  | orderTimeout => exact hs.flags rfl
  | cancelMoves state => exact hs.flags rfl
  | recoveryOrdered => exact hs.flags rfl
  | postCancelDiscovery newEpoch recallable now => exact beginPostCancelDiscovery_sound hs newEpoch recallable now
  | crash => exact disableCrashComms_sound hs hkeeps
  | depart =>
    refine ⟨fun _ => rfl, fun h => absurd rfl h, fun h => absurd h Bool.false_ne_true, fun hruns => ?_⟩
    exact absurd hruns Bool.false_ne_true

theorem drainingCerts_carried (cfg : DiscoveryConfig) (events : List DiscoveryEvent)
    (h : Guarded (discoveryStep cfg) (fun s ev => keepsCarrier cfg s ev = true) .initial events) :
    ∀ pre post, events = pre ++ post → (run (discoveryStep cfg) .initial pre).state = .drainingCerts →
      ((run (discoveryStep cfg) .initial pre).localCert = .queued →
        hasLocalFrame (run (discoveryStep cfg) .initial pre) .arrivalCert = true ∨
          (run (discoveryStep cfg) .initial pre).certRetryTimer = true) ∧
      ((run (discoveryStep cfg) .initial pre).localDistanceCert = .queued →
        hasLocalFrame (run (discoveryStep cfg) .initial pre) .stoppedDistanceCert = true) := by
  rintro pre post rfl hstate
  have hpre := (guarded_append.mp h).1
  have hsound : Sound cfg (run (discoveryStep cfg) .initial pre) :=
    @Guarded.invariant _ _ _ _ (Sound cfg) (fun _ ev hs hok => discoveryStep_sound hs ev hok) _ _ initial_sound hpre
  have hcarried := hsound.carried (collectingOrDraining_iff.mpr (Or.inr hstate))
  exact ⟨hcarried.arrival, hcarried.distance⟩

def retryingReplica : DiscoveryConfig where
  replicaId := 1
  enableCertRetries := true
  certRetryMax := 30
  discoveryIntentSettle := 1500
  collectionWindow := 250

def readAt (now : ℤ) : Readings := ⟨now, fun place => 20 * place, 60, false⟩

def ownCertQueued : List DiscoveryEvent :=
  [.initialApproach 0, .enterStopZone (readAt 100), .intent (myCarId 1) 200, .arrivalEcho true (readAt 400),
    .arrivalFinalizeTimer (readAt 650)]

def bothCertsDraining : List DiscoveryEvent :=
  ownCertQueued ++ [.deadline (readAt 660), .attest true (readAt 670), .distanceFinalizeTimer (readAt 920),
    .deadline (readAt 5660)]

theorem drainingCerts_carried_both :
    Guarded (discoveryStep retryingReplica) (fun s ev => keepsCarrier retryingReplica s ev = true) .initial
        bothCertsDraining ∧
      (run (discoveryStep retryingReplica) .initial bothCertsDraining).state = .drainingCerts ∧
      hasLocalFrame (run (discoveryStep retryingReplica) .initial bothCertsDraining) .stoppedDistanceCert = true := by
  have hguarded : Guarded (discoveryStep retryingReplica) (fun s ev => keepsCarrier retryingReplica s ev = true) .initial
      bothCertsDraining := by decide +kernel
  have hstate : (run (discoveryStep retryingReplica) .initial bothCertsDraining).state = .drainingCerts := by decide +kernel
  refine ⟨hguarded, hstate, ?_⟩
  exact (drainingCerts_carried retryingReplica bothCertsDraining hguarded bothCertsDraining [] (List.append_nil _).symm
    hstate).2 (by decide +kernel)

-- the collection of the distances discards the frame, a packet of the primary stops the retries, and the round drains
-- for a certificate that nothing will air
theorem arrivalCert_stranded :
    let s := run (discoveryStep retryingReplica) .initial
      (ownCertQueued ++ [.deadline (readAt 660), .primaryPacket, .deadline (readAt 5660)])
    s.state = .drainingCerts ∧ s.localCert = .queued ∧ hasLocalFrame s .arrivalCert = false ∧ s.certRetryTimer = false := by
  decide +kernel

end V2vBft.Discovery
