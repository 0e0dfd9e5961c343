import V2vBft.Arrival.FirstVariant

/-! Which arrival evidence belongs to the current epoch. -/

namespace V2vBft.Arrival

open Wire App Library.GuardedRun

variable {cfg : ArrivalConfig} {r : ArrivalRun} {n : ArrivalNode} {ev : ArrivalEvent} {ann : ArrivalAnnouncement}

def downgraded (cfg : ArrivalConfig) (ann : ArrivalAnnouncement) : ArrivalAnnouncement :=
  { ann with isAmbulance := gatedIsAmbulance cfg ann }

-- the echo of an accepted claim is signed, unless its ambulance flag was taken away
def signsEcho (cfg : ArrivalConfig) (s : ArrivalState) (ann : ArrivalAnnouncement) (fresh : ArrivalPerceptionSample)
    (sign : Bytes → Option Bytes) : Bool :=
  acceptsAnnouncement cfg s ann fresh &&
    decide (arrivalAnnouncementHash cfg (downgraded cfg ann) = arrivalAnnouncementHash cfg ann) &&
    (sign (arrivalEchoSigningPayload (echoOf cfg (downgraded cfg ann) (sampleFor cfg s ann fresh).observedCue))).isSome

def storesCert (cfg : ArrivalConfig) (s : ArrivalState) (cert : ArrivalCert) : Bool :=
  decide (cert.carId ≠ []) && validateArrivalCert cfg cert && (s.collectedCerts.lookup cert.carId).isNone

def currentAnnouncement (n : ArrivalNode) : Option ArrivalAnnouncement :=
  n.arrival.cachedLocalAnnouncements.lookup (broadcastKey n.app)

-- a claim echoed and a certificate stored are of the current epoch, and one of the own car is about the own claim
def StaysFresh (cfg : ArrivalConfig) (r : ArrivalRun) (ev : ArrivalEvent) : Prop :=
  (∀ ann fresh sign, heard cfg r.node ev = some ann → ev.witness = some (fresh, sign) →
      signsEcho cfg r.node.arrival ann fresh sign = true → ann.epoch = signed32 r.node.app.currentEpoch) ∧
    ∀ cert, ev = .cert cert → storesCert cfg r.node.arrival cert = true →
      cert.epoch = signed32 r.node.app.currentEpoch ∧
        (cert.carId = myCarId cfg.replicaId →
          (currentAnnouncement r.node).map (arrivalAnnouncementHash cfg) = some cert.claimHash)

structure FreshEvidence (cfg : ArrivalConfig) (r : ArrivalRun) : Prop where
  certs : ∀ p ∈ r.node.arrival.collectedCerts, p.2.epoch = signed32 r.node.app.currentEpoch
  signed : ∀ o ∈ r.trace, ∀ e ∈ o.effects.signed, e.epoch = signed32 o.currentEpoch
  own : ∀ h, r.node.arrival.localClaimHashes.lookup (myCarId cfg.replicaId) = some h →
    ∃ ann, currentAnnouncement r.node = some ann ∧ ann.epoch = signed32 r.node.app.currentEpoch ∧
      h = arrivalAnnouncementHash cfg ann

structure FreshNode (cfg : ArrivalConfig) (n : ArrivalNode) : Prop where
  keyed : Keyed n.arrival
  certs : ∀ p ∈ n.arrival.collectedCerts, p.2.epoch = signed32 n.app.currentEpoch
  announcements : ∀ p ∈ n.arrival.cachedLocalAnnouncements, p.2.epoch = signed32 n.app.currentEpoch
  own : ∀ h, n.arrival.localClaimHashes.lookup (myCarId cfg.replicaId) = some h →
    (currentAnnouncement n).map (arrivalAnnouncementHash cfg) = some h

lemma extractReplicaId_myCarId {k : ℤ} (h : -2147483648 ≤ k ∧ k < 2147483648) : extractReplicaId (myCarId k) = k := by
  have hlen : ¬(myCarId k).length < 3 := by simp [myCarId, ascii]
  have hdrop : (myCarId k).drop 3 = decimalInt k := rfl
  rw [extractReplicaId, if_neg hlen, hdrop, stoi_decimalInt h]
  rfl

lemma authenticAnnouncement_other {payload : Bytes} (h : authenticAnnouncement cfg payload = some ann) :
    extractReplicaId ann.carId ≠ cfg.replicaId := by
  rw [authenticAnnouncement] at h
  split at h
  next => cases h
  next a _ =>
    split at h
    next => cases h
    next hok =>
      obtain rfl := Option.some.inj h
      exact fun heq => hok (Or.inr (Or.inr (Or.inr heq)))

lemma heard_authentic (h : heard cfg n ev = some ann) : ∃ payload, authenticAnnouncement cfg payload = some ann := by
  cases ev with
  | announcement g payload fresh sign =>
    simp only [heard] at h
    split at h
    · cases h
    · exact ⟨payload, h⟩
  | announcementGossip g inner fresh sign =>
    simp only [heard] at h
    repeat' split at h
    all_goals first
      | cases h
      | exact ⟨_, h⟩
  | _ => cases h

lemma heard_not_own (hid : -2147483648 ≤ cfg.replicaId ∧ cfg.replicaId < 2147483648) (h : heard cfg n ev = some ann) :
    ann.carId ≠ myCarId cfg.replicaId := by
  obtain ⟨payload, hpayload⟩ := heard_authentic h
  intro heq
  exact authenticAnnouncement_other hpayload (by rw [heq, extractReplicaId_myCarId hid])

structure CachesOnly (s s' : ArrivalState) : Prop where
  certs : s'.collectedCerts = s.collectedCerts
  announcements : s'.cachedLocalAnnouncements = s.cachedLocalAnnouncements
  states : s'.localVehicleStates = s.localVehicleStates
  hashes : s'.localClaimHashes = s.localClaimHashes
  echoes : s'.myReceivedEchoes = s.myReceivedEchoes
  broadcast : s'.certBroadcast = s.certBroadcast

lemma CachesOnly.refl (s : ArrivalState) : CachesOnly s s := ⟨rfl, rfl, rfl, rfl, rfl, rfl⟩

lemma CachesOnly.trans {s s' s'' : ArrivalState} (h : CachesOnly s s') (h' : CachesOnly s' s'') : CachesOnly s s'' :=
  ⟨h'.certs.trans h.certs, h'.announcements.trans h.announcements, h'.states.trans h.states,
    h'.hashes.trans h.hashes, h'.echoes.trans h.echoes, h'.broadcast.trans h.broadcast⟩

lemma CachesOnly.store {s s' : ArrivalState} (h : CachesOnly s s') (vs : VehicleState) (claimHash : Bytes) :
    CachesOnly (s.store vs claimHash) (s'.store vs claimHash) :=
  ⟨h.certs, h.announcements, congrArg ((vs.vehicleId, vs) :: ·) h.states,
    congrArg ((vs.vehicleId, claimHash) :: ·) h.hashes, h.echoes, h.broadcast⟩

lemma Admitted.cachesOnly {s : ArrivalState} {out : ArrivalState × Bool} (h : Admitted cfg s ann out) :
    CachesOnly s out.1 := by
  cases h <;> exact ⟨rfl, rfl, rfl, rfl, rfl, rfl⟩

lemma perceiveArrival_cachesOnly (cfg : ArrivalConfig) (s : ArrivalState) (ann : ArrivalAnnouncement)
    (fresh : ArrivalPerceptionSample) : CachesOnly s (perceiveArrival cfg s ann fresh).1 := by
  rw [perceiveArrival]
  split <;> exact ⟨rfl, rfl, rfl, rfl, rfl, rfl⟩

lemma EchoSent.cachesOnly {s : ArrivalState} {sign : Bytes → Option Bytes} {out : ArrivalState × ArrivalEffects}
    (h : EchoSent cfg s ann sign out) : CachesOnly s out.1 := by
  cases h <;> exact ⟨rfl, rfl, rfl, rfl, rfl, rfl⟩

inductive WitnessWrites (s : ArrivalState) (carId : Bytes) (s' : ArrivalState) : Prop
  | caches (h : CachesOnly s s')
  | stored (vs : VehicleState) (claimHash : Bytes) (hcar : vs.vehicleId = carId)
      (h : CachesOnly (s.store vs claimHash) s')

lemma considered_writes {app : AppState} {s : ArrivalState} {fresh : ArrivalPerceptionSample}
    {sign : Bytes → Option Bytes} {out : ArrivalState × ArrivalEffects}
    (h : Considered cfg app s ann fresh sign out) : WitnessWrites s ann.carId out.1 := by
  have hadmitted := (admitVariant_admitted cfg s ann).cachesOnly
  have hseen := hadmitted.trans (perceiveArrival_cachesOnly cfg _ ann fresh)
  cases h with
  | ignored => exact .caches hadmitted
  | resent => exact .caches hadmitted
  | refused =>
    have hreject : ∀ u : ArrivalState, CachesOnly u (u.reject (arrivalCacheKey cfg ann)) :=
      fun u => ⟨rfl, rfl, rfl, rfl, rfl, rfl⟩
    have hrefused := hseen.trans (hreject _)
    rw [refuseAnnouncement]
    dsimp only
    split
    next => exact .stored (vehicleStateOf ann _ false) _ rfl (hrefused.store _ _)
    next => exact .caches hrefused
  | accepted =>
    obtain ⟨sent, hsent, hstate, -⟩ := acceptAnnouncement_sent cfg app
      (perceiveArrival cfg (admitVariant cfg s ann).1 ann fresh).1 ann sign
    dsimp only
    rw [hstate]
    exact .stored (vehicleStateOf ann ann.lane _) _ rfl ((hseen.store _ _).trans hsent.cachesOnly)

structure WitnessFrame (s s' : ArrivalState) (carId : Bytes) : Prop where
  certs : s'.collectedCerts = s.collectedCerts
  announcements : s'.cachedLocalAnnouncements = s.cachedLocalAnnouncements
  hashes : ∀ car, car ≠ carId → s'.localClaimHashes.lookup car = s.localClaimHashes.lookup car

lemma WitnessFrame.refl (s : ArrivalState) (carId : Bytes) : WitnessFrame s s carId := ⟨rfl, rfl, fun _ _ => rfl⟩

lemma lookup_cons_other {α : Type} {car carId : Bytes} (entry : α) (map : List (Bytes × α)) (h : car ≠ carId) :
    ((carId, entry) :: map).lookup car = map.lookup car := by
  rw [List.lookup_cons, beq_false_of_ne h]

lemma considered_frame {app : AppState} {s : ArrivalState} {fresh : ArrivalPerceptionSample}
    {sign : Bytes → Option Bytes} {out : ArrivalState × ArrivalEffects}
    (h : Considered cfg app s ann fresh sign out) : WitnessFrame s out.1 ann.carId := by
  cases considered_writes h with
  | caches h => exact ⟨h.certs, h.announcements, fun _ _ => by rw [h.hashes]⟩
  | stored vs claimHash hcar h =>
    refine ⟨h.certs, h.announcements, fun car hother => ?_⟩
    rw [h.hashes]
    exact lookup_cons_other claimHash _ (hcar ▸ hother)

lemma sampleFor_perceived (cfg : ArrivalConfig) (s : ArrivalState) (ann : ArrivalAnnouncement)
    (fresh : ArrivalPerceptionSample) :
    (perceiveArrival cfg s ann fresh).1.arrivalPerceptionSamples.lookup (arrivalCacheKey cfg ann) =
      some (sampleFor cfg s ann fresh) := by
  rw [perceiveArrival, sampleFor]
  split
  next h =>
    obtain ⟨sample, hsample⟩ := Option.isSome_iff_exists.mp h
    rw [hsample]
    rfl
  next h =>
    rw [Option.not_isSome_iff_eq_none.mp h]
    simp

lemma considered_signed {app : AppState} {s : ArrivalState} {fresh : ArrivalPerceptionSample}
    {sign : Bytes → Option Bytes} {out : ArrivalState × ArrivalEffects}
    (h : Considered cfg app s ann fresh sign out) (hkeyed : Keyed s) (e : ArrivalEcho) (he : e ∈ out.2.signed) :
    e.epoch = ann.epoch ∧ signsEcho cfg s ann fresh sign = true := by
  have hadmitted := admitVariant_admitted cfg s ann
  cases h with
  | ignored => simp [ArrivalEffects.none] at he
  | resent => simp [ArrivalEffects.none] at he
  | refused => simp [ArrivalEffects.none] at he
  | accepted haccept hadm =>
    obtain ⟨sent, hsent, -, -, hsigned⟩ := acceptAnnouncement_sent cfg app
      (perceiveArrival cfg (admitVariant cfg s ann).1 ann fresh).1 ann sign
    have hfirst := hadmitted.first hadm
    have hperceived := (perceiveArrival_keyed (hadmitted.keyed hkeyed) fresh hfirst).store
      (vehicleStateOf ann ann.lane (gatedIsAmbulance cfg ann)) (arrivalAnnouncementHash cfg ann)
    dsimp only at he
    rw [hsigned] at he
    cases hsent with
    | cached => simp [ArrivalEffects.none] at he
    | silent => simp [ArrivalEffects.none] at he
    | rejected => simp [ArrivalEffects.none] at he
    | signed sample echo hsample hecho hsign =>
      obtain rfl := List.mem_singleton.mp he
      have hhash : arrivalAnnouncementHash cfg (downgraded cfg ann) = arrivalAnnouncementHash cfg ann := by
        have hdown : (perceiveArrival cfg (admitVariant cfg s ann).1 ann fresh).1.firstArrivalClaimHashes.lookup
            (variantKey ann) = some (arrivalAnnouncementHash cfg (downgraded cfg ann)) := hperceived.sample hsample
        rw [(perceiveArrival_firsts cfg _ ann fresh).1, hfirst] at hdown
        exact (Option.some.inj hdown).symm
      have hkey : arrivalCacheKey cfg { ann with isAmbulance := gatedIsAmbulance cfg ann } = arrivalCacheKey cfg ann :=
        congrArg (cacheKey (variantKey ann)) hhash
      have hcue : sample = sampleFor cfg s ann fresh := by
        have hlook : (perceiveArrival cfg (admitVariant cfg s ann).1 ann fresh).1.arrivalPerceptionSamples.lookup
            (arrivalCacheKey cfg { ann with isAmbulance := gatedIsAmbulance cfg ann }) = some sample := hsample
        rw [hkey, sampleFor_perceived, sampleFor, hadmitted.caches.2.1] at hlook
        exact (Option.some.inj hlook).symm
      refine ⟨by rw [hecho]; rfl, ?_⟩
      rw [hcue] at hsign
      simp only [signsEcho, haccept, hhash, decide_true, Bool.and_self, Bool.true_and]
      exact Option.isSome_iff_exists.mpr ⟨_, hsign⟩

lemma appStep_currentEpoch {app : AppState} {ev : AppEvent}
    (h : restartsDiscovery cfg.toAppConfig app ev = false) :
    (appStep cfg.toAppConfig app ev).1.currentEpoch = app.currentEpoch := by
  cases appStep_epochs cfg.toAppConfig app ev with
  | kept hsame => exact hsame.current
  | applied order _ hsame => exact hsame.current
  | cancelled dec hsrc hcancel =>
    have htaken : takenCancel cfg.toAppConfig app ev = some dec := by
      rcases hsrc with ⟨completed, recallable, now, rest, rfl, hqueue, hdec⟩ | ⟨senderId, inner, recallable, rfl, hadopt⟩
      · simp only [takenCancel, hqueue, hdec, if_true]
      · exact hadopt
    simp only [restartsDiscovery, htaken, Bool.not_eq_false'] at h
    exact (hcancel.repeated h).1

lemma collectArrivalEcho_frame (cfg : ArrivalConfig) (g : Gates) (app : AppState) (s : ArrivalState)
    (echo : ArrivalEcho) (carId : Bytes) : WitnessFrame s (collectArrivalEcho cfg g app s echo) carId := by
  rw [collectArrivalEcho]
  repeat' split
  all_goals exact ⟨rfl, rfl, fun _ _ => rfl⟩

lemma FreshNode.framed (h : FreshNode cfg n) {n' : ArrivalNode} (carId : Bytes)
    (hepoch : n'.app.currentEpoch = n.app.currentEpoch) (hframe : WitnessFrame n.arrival n'.arrival carId)
    (hcar : carId ≠ myCarId cfg.replicaId) (hkeyed : Keyed n'.arrival) : FreshNode cfg n' where
  keyed := hkeyed
  certs := by
    rw [hframe.certs, hepoch]
    exact h.certs
  announcements := by
    rw [hframe.announcements, hepoch]
    exact h.announcements
  own := by
    rw [hframe.hashes _ (Ne.symm hcar), currentAnnouncement, hframe.announcements, broadcastKey, hepoch]
    exact h.own

lemma FreshNode.initial (app : AppState) : FreshNode cfg ⟨app, .initial⟩ :=
  ⟨.initial, by simp [ArrivalState.initial], by simp [ArrivalState.initial], by simp [ArrivalState.initial]⟩

lemma FreshNode.announce (h : FreshNode cfg n) (g : Gates) (measured : ArrivalAnnouncement)
    (sign : Bytes → Option Bytes) :
    FreshNode cfg ⟨n.app, (broadcastArrivalAnnouncement cfg g n.app n.arrival measured sign).1⟩ ∧
      ∀ e ∈ (broadcastArrivalAnnouncement cfg g n.app n.arrival measured sign).2.signed,
        e.epoch = signed32 n.app.currentEpoch := by
  rw [broadcastArrivalAnnouncement]
  split
  next => exact ⟨h, by simp [ArrivalEffects.none]⟩
  next =>
    split
    next => exact ⟨h, by simp [ArrivalEffects.none]⟩
    next =>
      set ann := ownAnnouncement cfg n.app measured sign with hann
      have hown : ann.carId = myCarId cfg.replicaId := rfl
      have hepoch : ann.epoch = signed32 n.app.currentEpoch := rfl
      set s : ArrivalState :=
        ({ n.arrival with cachedLocalAnnouncements :=
            (broadcastKey n.app, ann) :: n.arrival.cachedLocalAnnouncements }).store
          (vehicleStateOf ann ann.lane ann.isAmbulance) (arrivalAnnouncementHash cfg ann) with hs
      have hstored : FreshNode cfg ⟨n.app, s⟩ := by
        refine ⟨⟨h.keyed.samples, h.keyed.echoes, h.keyed.rejections⟩, h.certs, fun p hp => ?_, fun c hc => ?_⟩
        · rcases List.mem_cons.mp hp with rfl | hp
          · exact hepoch
          · exact h.announcements p hp
        · have hlook : s.localClaimHashes.lookup (myCarId cfg.replicaId) = some (arrivalAnnouncementHash cfg ann) := by
            simp [hs, ArrivalState.store, vehicleStateOf, hown]
          have hcur : currentAnnouncement ⟨n.app, s⟩ = some ann := by
            simp [currentAnnouncement, hs, ArrivalState.store]
          rw [hcur, ← hc, hlook]
          rfl
      have hother : ([] : Bytes) ≠ myCarId cfg.replicaId := by simp [myCarId, ascii]
      dsimp only
      rcases addLocalSelfAttestation_cases cfg g n.app s ann sign with hself | ⟨echo, hecho, hself⟩
      · rw [hself]
        exact ⟨hstored, by simp⟩
      · have hkeyed := (collectArrivalEcho_sameCaches cfg g n.app s echo).keyed hstored.keyed
        rw [hself]
        refine ⟨hstored.framed [] rfl (collectArrivalEcho_frame cfg g n.app s echo []) hother hkeyed, fun e he => ?_⟩
        obtain rfl := List.mem_singleton.mp he
        exact hecho.trans hepoch

lemma FreshNode.cert (h : FreshNode cfg n) (cert : ArrivalCert)
    (hok : storesCert cfg n.arrival cert = true → cert.epoch = signed32 n.app.currentEpoch ∧
      (cert.carId = myCarId cfg.replicaId →
        (currentAnnouncement n).map (arrivalAnnouncementHash cfg) = some cert.claimHash)) :
    FreshNode cfg ⟨n.app, (handleArrivalCert cfg n.app n.arrival cert).1⟩ := by
  rw [handleArrivalCert]
  split
  next => exact h
  next hstore =>
    push Not at hstore
    obtain ⟨hcar, hvalid, hnew⟩ := hstore
    obtain ⟨hepoch, hown⟩ := hok (by
      simp only [storesCert, Bool.and_eq_true, decide_eq_true_eq]
      exact ⟨⟨hcar, by simpa using hvalid⟩, Option.isNone_iff_eq_none.mpr (Option.not_isSome_iff_eq_none.mp hnew)⟩)
    refine ⟨⟨h.keyed.samples, h.keyed.echoes, h.keyed.rejections⟩, fun p hp => ?_, h.announcements, fun c hc => ?_⟩
    · rcases List.mem_cons.mp hp with rfl | hp
      · exact hepoch
      · exact h.certs p hp
    · dsimp only at hc
      rw [List.lookup_cons] at hc
      split at hc
      next heq =>
        rw [← Option.some.inj hc]
        exact hown (beq_iff_eq.mp heq).symm
      next => exact h.own c hc

lemma FreshNode.finalize (h : FreshNode cfg n) :
    FreshNode cfg ⟨n.app, (finalizeLocalArrivalCert cfg n.app n.arrival).1⟩ := by
  rw [finalizeLocalArrivalCert]
  split
  next =>
    split
    next => exact h
    next =>
      dsimp only
      split
      next => exact ⟨⟨h.keyed.samples, h.keyed.echoes, h.keyed.rejections⟩, h.certs, h.announcements, h.own⟩
      next =>
        refine ⟨⟨h.keyed.samples, h.keyed.echoes, h.keyed.rejections⟩, fun p hp => ?_, h.announcements, h.own⟩
        rcases List.mem_cons.mp hp with rfl | hp
        · rfl
        · exact h.certs p hp
  next => exact h

lemma FreshNode.step (hid : -2147483648 ≤ cfg.replicaId ∧ cfg.replicaId < 2147483648) (h : FreshNode cfg r.node)
    (hok : StaysFresh cfg r ev) :
    FreshNode cfg (arrivalStep cfg r.node ev).1 ∧
      ∀ e ∈ (arrivalStep cfg r.node ev).2.signed, e.epoch = signed32 r.node.app.currentEpoch := by
  have hkeyed := (arrivalStep_firsts cfg ev h.keyed).keyed
  have hother : ([] : Bytes) ≠ myCarId cfg.replicaId := by simp [myCarId, ascii]
  cases hw : ev.witness with
  | some w =>
    obtain ⟨fresh, sign⟩ := w
    have hstep := arrivalStep_witness cfg r.node hw
    cases hheard : heard cfg r.node ev with
    | none =>
      rw [hheard] at hstep
      rw [hstep]
      exact ⟨h, by simp [ArrivalEffects.none]⟩
    | some ann =>
      rw [hheard] at hstep
      rw [hstep] at hkeyed ⊢
      have hout := considerAnnouncement_considered cfg r.node.app r.node.arrival ann fresh sign
      refine ⟨h.framed _ rfl (considered_frame hout) (heard_not_own hid hheard) hkeyed, fun e he => ?_⟩
      obtain ⟨hepoch, hsigns⟩ := considered_signed hout h.keyed e he
      exact hepoch.trans (hok.1 ann fresh sign hheard hw hsigns)
  | none =>
    cases ev with
    | app ev =>
      refine ⟨?_, by simp [arrivalStep, ArrivalEffects.none]⟩
      simp only [arrivalStep] at hkeyed ⊢
      split
      next => exact .initial _
      next hno =>
        rw [Bool.not_eq_true] at hno
        exact h.framed [] (appStep_currentEpoch hno) (.refl _ []) hother h.keyed
    | announcement => cases hw
    | announcementGossip => cases hw
    | announce g measured sign => exact h.announce g measured sign
    | echo g echo =>
      refine ⟨?_, by simp [arrivalStep, ArrivalEffects.none]⟩
      refine h.framed [] rfl ?_ hother hkeyed
      simp only [arrivalStep, handleArrivalEcho]
      split
      next => exact .refl _ _
      next => exact collectArrivalEcho_frame cfg g r.node.app r.node.arrival echo []
    | cert cert =>
      refine ⟨h.cert cert (hok.2 cert rfl), ?_⟩
      simp only [arrivalStep, handleArrivalCert]
      split <;> simp [ArrivalEffects.none]
    | finalizeCert =>
      refine ⟨h.finalize, ?_⟩
      simp only [arrivalStep, finalizeLocalArrivalCert]
      repeat' split
      all_goals simp [ArrivalEffects.none]

structure FreshInv (cfg : ArrivalConfig) (r : ArrivalRun) : Prop where
  node : FreshNode cfg r.node
  signed : ∀ o ∈ r.trace, ∀ e ∈ o.effects.signed, e.epoch = signed32 o.currentEpoch

lemma FreshInv.step (hid : -2147483648 ≤ cfg.replicaId ∧ cfg.replicaId < 2147483648) (h : FreshInv cfg r)
    (hok : StaysFresh cfg r ev) : FreshInv cfg (arrivalRunStep cfg r ev) := by
  obtain ⟨hnode, hsigned⟩ := h.node.step hid hok
  refine ⟨hnode, fun o ho e he => ?_⟩
  rcases List.mem_cons.mp ho with rfl | ho
  · exact hsigned e he
  · exact h.signed o ho e he

lemma FreshInv.fresh (h : FreshInv cfg r) : FreshEvidence cfg r where
  certs := h.node.certs
  signed := h.signed
  own := by
    intro c hc
    obtain ⟨ann, hann, hhash⟩ := Option.map_eq_some_iff.mp (h.node.own c hc)
    exact ⟨ann, hann, h.node.announcements _ (mem_of_lookup hann), hhash.symm⟩

theorem evidence_fresh (cfg : ArrivalConfig) (hid : -2147483648 ≤ cfg.replicaId ∧ cfg.replicaId < 2147483648)
    (events : List ArrivalEvent) (h : Guarded (arrivalRunStep cfg) (StaysFresh cfg) .initial events) :
    FreshEvidence cfg (run (arrivalRunStep cfg) .initial events) :=
  (Guarded.invariant (fun _ _ hr hok => hr.step hid hok)
    (⟨.initial .initial, by simp [ArrivalRun.initial]⟩ : FreshInv cfg .initial) h).fresh

lemma StaysFresh.of_heard (ann : ArrivalAnnouncement) (hheard : heard cfg r.node ev = some ann)
    (hepoch : ann.epoch = signed32 r.node.app.currentEpoch) : StaysFresh cfg r ev := by
  refine ⟨fun a fresh sign ha _ _ => ?_, fun cert hev => ?_⟩
  · obtain rfl := Option.some.inj (hheard.symm.trans ha)
    exact hepoch
  · rw [hev] at hheard
    cases hheard

lemma StaysFresh.app (ev : AppEvent) : StaysFresh cfg r (.app ev) :=
  ⟨fun _ _ _ h => (nomatch h), fun _ h => (nomatch h)⟩

theorem evidence_fresh_declared : FreshEvidence fourWitnesses
    (run (arrivalRunStep fourWitnesses) .initial
      (announced (signedWith [11] (northCar "veh1" 0 .left)) ::
        (cancelledWait.map .app ++ [announced (signedWith [11] (northCar "veh1" 1 .left))]))) := by
  refine evidence_fresh fourWitnesses (by decide) _
    ⟨.of_heard (signedWith [11] (northCar "veh1" 0 .left)) (by decide +kernel) rfl, ?_⟩
  refine ⟨.app _, .app _, .app _, .app _, ?_, trivial⟩
  exact .of_heard (signedWith [11] (northCar "veh1" 1 .left)) (by decide +kernel) (by decide +kernel)

def certFor (epoch : ℤ) : ArrivalCert :=
  let bare : ArrivalCert := ⟨ascii "veh2", ascii "N", 1, 0, 0, .left, zeros 32, false, epoch, []⟩
  let echo := fun signer : ℤ × Bytes =>
    let e : ArrivalEcho :=
      ⟨signer.1, bare.carId, bare.lane, 1, 0, 0, .left, .left, bare.claimHash, false, epoch, signer.2, []⟩
    { e with signature := checksum (signer.2 ++ arrivalEchoSigningPayload e) }
  { bare with echoes := [echo (1, [11]), echo (3, [13])] }

-- in epoch 1 arrive its own certificate of epoch 0 and an announcement of epoch 0
def staleEvidence : List ArrivalEvent :=
  cancelledWait.map .app ++ [.cert (certFor 0), announced (signedWith [11] (northCar "veh1" 0 .left))]

theorem stale_evidence_taken :
    let r := run (arrivalRunStep fourWitnesses) .initial staleEvidence
    (r.node.app.currentEpoch = 1 ∧ r.node.arrival.collectedCerts.map (fun p => p.2.epoch) = [0] ∧
      (r.trace.flatMap fun o => o.effects.signed.map fun e => (o.currentEpoch, e.epoch)) = [(1, 0)] ∧
      (r.node.arrival.localClaimHashes.lookup (myCarId 2)).isSome ∧ currentAnnouncement r.node = none) ∧
    ¬FreshEvidence fourWitnesses r := by
  have hfacts : (run (arrivalRunStep fourWitnesses) .initial staleEvidence).node.app.currentEpoch = 1 ∧
      (run (arrivalRunStep fourWitnesses) .initial staleEvidence).node.arrival.collectedCerts =
        [(ascii "veh2", certFor 0)] := by
    decide +kernel
  refine ⟨by decide +kernel, fun h => ?_⟩
  have hcert := h.certs (ascii "veh2", certFor 0) (by rw [hfacts.2]; exact List.mem_cons_self)
  rw [hfacts.1] at hcert
  exact absurd hcert (by decide)

end V2vBft.Arrival
