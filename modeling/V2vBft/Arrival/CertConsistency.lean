import V2vBft.Arrival.CertCheck
import V2vBft.Arrival.CertCodec
import V2vBft.Arrival.DistanceClaimant
import V2vBft.Arrival.EpochFreshness

/-! The certificate of a claimant: put together from three maps that other handlers write, and read at every replica. -/

namespace V2vBft.Arrival

open Wire App Library.GuardedRun

structure OwnReading where
  laneId : Bytes
  intendedLane : Bytes
  intendedDirection : Bytes
  queueRank : ℕ
  lateralClaimCm : ℤ
  isAmbulance : Bool
  ambulanceCertBytes : Bytes
  ambulanceSigBytes : Bytes
  now : ℕ
  sign : Bytes → Option Bytes
  queueRank_lt : queueRank < 2147483648
  lateral_range : -2147483648 ≤ lateralClaimCm ∧ lateralClaimCm < 2147483648
  sign_sized : ∀ msg sig, sign msg = some sig → SignatureSized sig

def OwnReading.lane (r : OwnReading) : Bytes :=
  if r.intendedLane = ascii "N" ∨ r.intendedLane = ascii "S" ∨ r.intendedLane = ascii "E" ∨
      r.intendedLane = ascii "W" then r.intendedLane
  else
    match r.laneId with
    | [] => ascii "N"
    | c :: _ => approachLane c

-- the lane number stands behind the last underscore
def renumberedLane (laneId : Bytes) (physicalLaneIndex : ℤ) : Bytes :=
  if 95 ∈ laneId ∧ 0 ≤ physicalLaneIndex then
    (laneId.reverse.dropWhile (· ≠ 95)).reverse ++ decimalInt physicalLaneIndex
  else laneId

def OwnReading.measured (cfg : ArrivalConfig) (r : OwnReading) : ArrivalAnnouncement :=
  let lateral := if cfg.adjacentLateral then r.lateralClaimCm else 0
  let physical := if cfg.adjacentLateral then cfg.projectPhysicalLaneIndex lateral else 0
  { ArrivalAnnouncement.empty with
    laneId := if cfg.adjacentLateral then renumberedLane r.laneId physical else r.laneId
    lane := r.lane
    positionInLane := r.queueRank
    physicalLaneIndex := physical
    lateralClaimCm := lateral
    direction := strToDir r.intendedDirection
    isAmbulance := r.isAmbulance
    claimedArrivalTime := r.now
    ambulanceCertBytes := if r.isAmbulance then r.ambulanceCertBytes else []
    ambulanceSigBytes := if r.isAmbulance then r.ambulanceSigBytes else [] }

-- frames come in as they are on the air
inductive ClaimantEvent
  | app (ev : AppEvent)
  | announcement (g : Gates) (payload : Bytes) (fresh : ArrivalPerceptionSample) (sign : Bytes → Option Bytes)
  | announcementGossip (g : Gates) (inner : Bytes) (fresh : ArrivalPerceptionSample) (sign : Bytes → Option Bytes)
  | declare (g : Gates) (r : OwnReading)
  | echo (g : Gates) (payload : Bytes)
  | cert (payload : Bytes)
  | finalize

def ClaimantEvent.arrival (cfg : ArrivalConfig) : ClaimantEvent → Option ArrivalEvent
  | .app ev => some (.app ev)
  | .announcement g payload fresh sign => some (.announcement g payload fresh sign)
  | .announcementGossip g inner fresh sign => some (.announcementGossip g inner fresh sign)
  | .declare g r => some (.announce g (r.measured cfg) r.sign)
  | .echo g payload => (deserializeArrivalEcho payload).map (.echo g)
  | .cert payload => (deserializeArrivalCert payload).map .cert
  | .finalize => some .finalizeCert

def claimantStep (cfg : ArrivalConfig) (n : ArrivalNode) (ev : ClaimantEvent) : ArrivalNode :=
  match ev.arrival cfg with
  | none => n
  | some ev => (arrivalStep cfg n ev).1

def ownState (cfg : ArrivalConfig) (s : ArrivalState) : Option VehicleState :=
  s.localVehicleStates.lookup (myCarId cfg.replicaId)

def ownHash (cfg : ArrivalConfig) (s : ArrivalState) : Option Bytes :=
  s.localClaimHashes.lookup (myCarId cfg.replicaId)

def finalizedCert (cfg : ArrivalConfig) (app : AppState) (s : ArrivalState) : Option ArrivalCert :=
  match ownState cfg s, ownHash cfg s with
  | some state, some claimHash =>
    if s.certBroadcast || decide ((s.myReceivedEchoes.length : ℤ) < cfg.faults + 1) then none
    else some (localArrivalCert cfg app s state claimHash)
  | _, _ => none

def sentCerts (cfg : ArrivalConfig) (n : ArrivalNode) : ClaimantEvent → List ArrivalCert
  | .finalize => (finalizedCert cfg n.app n.arrival).toList
  | _ => []

def collecting (s : ArrivalState) : Bool := !s.certBroadcast && decide (s.myReceivedEchoes ≠ [])

def declaresAnew (g : Gates) (n : ArrivalNode) : Bool :=
  !g.stoppedDistanceCollectionActive && g.discovering n.app &&
    (n.arrival.cachedLocalAnnouncements.lookup (broadcastKey n.app)).isNone

def overwritesClaim (cfg : ArrivalConfig) (s : ArrivalState) (payload : Bytes) : Bool :=
  match deserializeArrivalCert payload with
  | none => false
  | some cert =>
    storesCert cfg s cert && decide (cert.carId = myCarId cfg.replicaId) && decide (ownHash cfg s ≠ some cert.claimHash)

def certifiableClaim (cfg : ArrivalConfig) (s : ArrivalState) : Bool :=
  match ownState cfg s with
  | none => false
  | some state =>
    decide (state.direction ≠ .unknown) && certifiableLane cfg state.physicalLaneIndex state.lateralClaimCm

def ClaimKept (cfg : ArrivalConfig) (n : ArrivalNode) : ClaimantEvent → Prop
  | .declare g _ => collecting n.arrival = true → declaresAnew g n = false
  | .cert payload => collecting n.arrival = true → overwritesClaim cfg n.arrival payload = false
  | .finalize => n.arrival.certBroadcast = false → cfg.faults + 1 ≤ n.arrival.myReceivedEchoes.length →
      certifiableClaim cfg n.arrival = true
  | _ => True

instance (cfg : ArrivalConfig) (n : ArrivalNode) : ∀ ev, Decidable (ClaimKept cfg n ev)
  | .declare _ _ => inferInstanceAs (Decidable (_ → _))
  | .cert _ => inferInstanceAs (Decidable (_ → _))
  | .finalize => inferInstanceAs (Decidable (_ → _ → _))
  | .app _ => isTrue trivial
  | .announcement .. => isTrue trivial
  | .announcementGossip .. => isTrue trivial
  | .echo _ _ => isTrue trivial

structure SameLanes (cfg cfg' : ArrivalConfig) : Prop where
  adjacentLateral : cfg'.adjacentLateral = cfg.adjacentLateral
  projectPhysicalLaneIndex : cfg'.projectPhysicalLaneIndex = cfg.projectPhysicalLaneIndex

-- whatever stands behind the used bytes of the signature buffers
def AcceptedEverywhere (cfg : ArrivalConfig) (cert : ArrivalCert) : Prop :=
  ∀ (unused : ArrivalEcho → Bytes) (cfg' : ArrivalConfig), SameNetwork cfg cfg' → SameLanes cfg cfg' →
    ∃ read, deserializeArrivalCert (serializeArrivalCert unused cert) = some read ∧ validateArrivalCert cfg' read = true

variable {cfg cfg' : ArrivalConfig} {app : AppState} {s : ArrivalState} {n : ArrivalNode} {echo : ArrivalEcho}
  {cert : ArrivalCert}

lemma finalizeLocalArrivalCert_eq (cfg : ArrivalConfig) (app : AppState) (s : ArrivalState) :
    finalizeLocalArrivalCert cfg app s =
      match finalizedCert cfg app s with
      | none => (s, .none)
      | some cert =>
        if (s.collectedCerts.lookup cert.carId).isSome then ({ s with certBroadcast := true }, .none)
        else
          ({ s with certBroadcast := true, collectedCerts := (cert.carId, cert) :: s.collectedCerts },
            { ArrivalEffects.none with emergency := emergencyRollback cfg app cert.carId cert.isAmbulance }) := by
  rw [finalizeLocalArrivalCert, finalizedCert, ownState, ownHash]
  cases s.localVehicleStates.lookup (myCarId cfg.replicaId) with
  | none => rfl
  | some state =>
    cases s.localClaimHashes.lookup (myCarId cfg.replicaId) with
    | none => rfl
    | some claimHash =>
      dsimp only
      split <;> rfl

structure VehicleState.Fits (state : VehicleState) : Prop where
  lane : 124 ∉ state.lane
  lateralClaimCm : -2147483648 ≤ state.lateralClaimCm ∧ state.lateralClaimCm < 2147483648
  positionInLane : -2147483648 ≤ state.positionInLane ∧ state.positionInLane < 2147483648

structure ClaimHeld (cfg : ArrivalConfig) (n : ArrivalNode) : Prop where
  epoch : n.app.currentEpoch < uint32Modulus
  state : ∀ state, ownState cfg n.arrival = some state → state.Fits
  hash : ∀ claimHash, ownHash cfg n.arrival = some claimHash → claimHash.length = claimHashBytes
  echoes : n.arrival.certBroadcast = false → ∀ echo ∈ n.arrival.myReceivedEchoes,
    acceptableEcho cfg n.app n.arrival echo = true ∧ echo.Fits
  distinct : (n.arrival.myReceivedEchoes.map ArrivalEcho.echoingReplicaId).Nodup
  count : (n.arrival.myReceivedEchoes.length : ℤ) ≤ max 0 cfg.totalVehicles

lemma ClaimHeld.restarted (cfg : ArrivalConfig) (h : app.currentEpoch < uint32Modulus) :
    ClaimHeld cfg ⟨app, .initial⟩ where
  epoch := h
  state := fun _ hstate => nomatch hstate
  hash := fun _ hhash => nomatch hhash
  echoes := fun _ _ hecho => absurd hecho List.not_mem_nil
  distinct := List.nodup_nil
  count := le_max_left 0 _

lemma acceptableEcho_congr {app' : AppState} {s' : ArrivalState} (hepoch : app'.currentEpoch = app.currentEpoch)
    (hstate : ownState cfg s' = ownState cfg s) (hhash : ownHash cfg s' = ownHash cfg s) (echo : ArrivalEcho) :
    acceptableEcho cfg app' s' echo = acceptableEcho cfg app s echo := by
  rw [ownState, ownState] at hstate
  rw [ownHash, ownHash] at hhash
  simp only [acceptableEcho, echoMatchesClaim, hstate, hhash, hepoch]

structure OwnFrame (cfg : ArrivalConfig) (s s' : ArrivalState) : Prop where
  state : ownState cfg s' = ownState cfg s
  hash : ownHash cfg s' = ownHash cfg s
  echoes : s'.myReceivedEchoes = s.myReceivedEchoes
  broadcast : s'.certBroadcast = s.certBroadcast

lemma ClaimHeld.framed {n' : ArrivalNode} (h : ClaimHeld cfg n) (hepoch : n'.app.currentEpoch = n.app.currentEpoch)
    (hframe : OwnFrame cfg n.arrival n'.arrival) : ClaimHeld cfg n' where
  epoch := hepoch ▸ h.epoch
  state := hframe.state ▸ h.state
  hash := hframe.hash ▸ h.hash
  echoes := by
    rw [hframe.echoes, hframe.broadcast]
    intro hopen echo hecho
    rw [acceptableEcho_congr hepoch hframe.state hframe.hash]
    exact h.echoes hopen echo hecho
  distinct := hframe.echoes ▸ h.distinct
  count := hframe.echoes ▸ h.count

lemma WitnessWrites.ownFrame {carId : Bytes} {s' : ArrivalState} (h : WitnessWrites s carId s')
    (hcar : carId ≠ myCarId cfg.replicaId) : OwnFrame cfg s s' := by
  cases h with
  | caches h =>
    exact ⟨by rw [ownState, ownState, h.states], by rw [ownHash, ownHash, h.hashes], h.echoes, h.broadcast⟩
  | stored vs claimHash hvs h =>
    have hother : myCarId cfg.replicaId ≠ vs.vehicleId := fun heq => hcar (hvs ▸ heq.symm)
    refine ⟨?_, ?_, h.echoes, h.broadcast⟩
    · rw [ownState, ownState, h.states]
      exact lookup_cons_other vs _ hother
    · rw [ownHash, ownHash, h.hashes]
      exact lookup_cons_other claimHash _ hother

lemma ClaimHeld.witness (hid : -2147483648 ≤ cfg.replicaId ∧ cfg.replicaId < 2147483648) (h : ClaimHeld cfg n)
    {ev : ArrivalEvent} {w : ArrivalPerceptionSample × (Bytes → Option Bytes)} (hw : ev.witness = some w) :
    ClaimHeld cfg (arrivalStep cfg n ev).1 := by
  obtain ⟨fresh, sign⟩ := w
  have hstep := arrivalStep_witness cfg n hw
  cases hheard : heard cfg n ev with
  | none =>
    rw [hheard] at hstep
    rw [hstep]
    exact h
  | some ann =>
    rw [hheard] at hstep
    rw [hstep]
    have hwrites := considered_writes (considerAnnouncement_considered cfg n.app n.arrival ann fresh sign)
    exact h.framed rfl (hwrites.ownFrame (heard_not_own hid hheard))

lemma appStep_currentEpoch_lt (cfg : AppConfig) (h : app.currentEpoch < uint32Modulus) (ev : AppEvent) :
    (appStep cfg app ev).1.currentEpoch < uint32Modulus := by
  cases appStep_epochs cfg app ev with
  | kept hsame => exact hsame.current ▸ h
  | applied order _ hsame => exact hsame.current ▸ h
  | cancelled dec _ hcancel =>
    cases hrep : app.repeatsCancel (CancelDecisionHdr.read dec).cancelledEpoch with
    | true => exact (hcancel.repeated hrep).1 ▸ h
    | false =>
      rw [(hcancel.begun hrep).1]
      exact Nat.mod_lt _ (by decide)

lemma ClaimHeld.application (h : ClaimHeld cfg n) (ev : AppEvent) : ClaimHeld cfg (arrivalStep cfg n (.app ev)).1 := by
  rw [arrivalStep]
  dsimp only
  split
  next => exact .restarted cfg (appStep_currentEpoch_lt _ h.epoch ev)
  next hno => exact h.framed (appStep_currentEpoch (by simpa using hno)) ⟨rfl, rfl, rfl, rfl⟩

lemma ClaimHeld.collect (h : ClaimHeld cfg n) (g : Gates) (hfits : echo.Fits) :
    ClaimHeld cfg ⟨n.app, collectArrivalEcho cfg g n.app n.arrival echo⟩ := by
  rw [collectArrivalEcho]
  split
  next => exact h
  next hready =>
    split
    next => exact h
    next hnew =>
      split
      next => exact h
      next hroom =>
        simp only [Bool.or_eq_true, not_or, Bool.not_eq_true, Bool.not_eq_false'] at hready
        refine ⟨h.epoch, h.state, h.hash, fun hopen e he => ?_, ?_, ?_⟩
        · rw [acceptableEcho_congr rfl rfl rfl]
          rcases List.mem_append.mp he with hold | hlast
          · exact h.echoes hopen e hold
          · obtain rfl := List.mem_singleton.mp hlast
            exact ⟨hready.2, hfits⟩
        · rw [List.map_append, List.nodup_append']
          refine ⟨h.distinct, List.nodup_singleton _, ?_⟩
          simp only [List.map_singleton, List.disjoint_singleton, List.mem_map, not_exists, not_and]
          simpa using hnew
        · rw [List.length_append, List.length_singleton]
          push Not at hroom
          push_cast
          omega

lemma approachLane_notMem (c : UInt8) : (124 : UInt8) ∉ approachLane c := by
  rw [approachLane]
  split
  next h => rcases h with h | h | h | h <;> · rw [h]; decide
  next => decide

lemma OwnReading.lane_notMem (r : OwnReading) : (124 : UInt8) ∉ r.lane := by
  rw [lane]
  split
  next h => rcases h with h | h | h | h <;> · rw [h]; decide
  next =>
    split
    next => decide
    next c _ _ => exact approachLane_notMem c

lemma OwnReading.state_fits (cfg : ArrivalConfig) (r : OwnReading) (app : AppState) :
    let ann := ownAnnouncement cfg app (r.measured cfg) r.sign
    (vehicleStateOf ann ann.lane ann.isAmbulance).Fits := by
  refine ⟨r.lane_notMem, ?_, ?_⟩
  · change -2147483648 ≤ (if cfg.adjacentLateral then r.lateralClaimCm else 0) ∧
      (if cfg.adjacentLateral then r.lateralClaimCm else 0) < 2147483648
    split
    next => exact r.lateral_range
    next => decide
  · have hrank := r.queueRank_lt
    change -2147483648 ≤ (r.queueRank : ℤ) ∧ (r.queueRank : ℤ) < 2147483648
    omega

lemma ClaimHeld.selfAttested (hcfg : cfg.Sized) (h : ClaimHeld cfg n) (g : Gates) (ann : ArrivalAnnouncement)
    {sign : Bytes → Option Bytes} (hsign : ∀ msg sig, sign msg = some sig → SignatureSized sig) :
    ClaimHeld cfg ⟨n.app, (addLocalSelfAttestation cfg g n.app n.arrival ann sign).1⟩ := by
  rw [addLocalSelfAttestation]
  dsimp only
  split
  next => exact h
  next =>
    split
    next => exact h
    next signature hsig => exact h.collect g ⟨hcfg.publicKey, (hsign _ _ hsig).2⟩

lemma not_collecting (h : ¬collecting s = true) : s.certBroadcast = true ∨ s.myReceivedEchoes = [] := by
  rw [collecting, Bool.and_eq_true, decide_eq_true_eq] at h
  cases hsent : s.certBroadcast with
  | true => exact Or.inl rfl
  | false => exact Or.inr (by simpa [hsent] using h)

lemma ClaimHeld.rewritten (h : ClaimHeld cfg n) {s' : ArrivalState} (hidle : ¬collecting n.arrival = true)
    (hechoes : s'.myReceivedEchoes = n.arrival.myReceivedEchoes) (hsent : s'.certBroadcast = n.arrival.certBroadcast)
    (hstate : ∀ state, ownState cfg s' = some state → state.Fits)
    (hhash : ∀ claimHash, ownHash cfg s' = some claimHash → claimHash.length = claimHashBytes) :
    ClaimHeld cfg ⟨n.app, s'⟩ where
  epoch := h.epoch
  state := hstate
  hash := hhash
  echoes := by
    dsimp only
    rw [hechoes, hsent]
    intro hopen echo hecho
    rcases not_collecting hidle with hsent | hnone
    · rw [hopen] at hsent
      cases hsent
    · rw [hnone] at hecho
      cases hecho
  distinct := hechoes ▸ h.distinct
  count := hechoes ▸ h.count

lemma ClaimHeld.declare (hcfg : cfg.Sized) (h : ClaimHeld cfg n) (g : Gates) (r : OwnReading)
    (hok : collecting n.arrival = true → declaresAnew g n = false) :
    ClaimHeld cfg ⟨n.app, (broadcastArrivalAnnouncement cfg g n.app n.arrival (r.measured cfg) r.sign).1⟩ := by
  rw [broadcastArrivalAnnouncement]
  split
  next => exact h
  next hready =>
    split
    next => exact h
    next hnew =>
      simp only [Bool.or_eq_true, not_or, Bool.not_eq_true, Bool.not_eq_false'] at hready
      have hanew : declaresAnew g n = true := by
        simp only [declaresAnew, hready.1, hready.2, Bool.not_false, Bool.true_and, Option.not_isSome_iff_eq_none.mp hnew,
          Option.isNone_none]
      have hidle : ¬collecting n.arrival = true := fun hheld => by simp [hok hheld] at hanew
      set ann := ownAnnouncement cfg n.app (r.measured cfg) r.sign with hann
      set s : ArrivalState := ({ n.arrival with cachedLocalAnnouncements :=
          (broadcastKey n.app, ann) :: n.arrival.cachedLocalAnnouncements }).store
        (vehicleStateOf ann ann.lane ann.isAmbulance) (arrivalAnnouncementHash cfg ann) with hs
      have hstored : ClaimHeld cfg ⟨n.app, s⟩ := by
        refine h.rewritten hidle rfl rfl (fun state hstate => ?_) fun claimHash hhash => ?_
        · have hown : ownState cfg s = some (vehicleStateOf ann ann.lane ann.isAmbulance) := List.lookup_cons_self
          obtain rfl := Option.some.inj (hown.symm.trans hstate)
          exact r.state_fits cfg n.app
        · have hown : ownHash cfg s = some (arrivalAnnouncementHash cfg ann) := List.lookup_cons_self
          obtain rfl := Option.some.inj (hown.symm.trans hhash)
          exact hcfg.sha256 _
      exact hstored.selfAttested hcfg g ann r.sign_sized

lemma acceptableEcho_known (h : acceptableEcho cfg app s echo = true) :
    ∃ state claimHash, ownState cfg s = some state ∧ ownHash cfg s = some claimHash ∧
      echoMatchesClaim app state claimHash echo = true := by
  simp only [acceptableEcho, Bool.and_eq_true] at h
  obtain ⟨⟨-, hclaim⟩, -⟩ := h
  split at hclaim
  next state claimHash hstate hhash => exact ⟨state, claimHash, hstate, hhash, hclaim⟩
  next => cases hclaim

lemma ClaimHeld.known (h : ClaimHeld cfg n) (hheld : collecting n.arrival = true) :
    ∃ state, ownState cfg n.arrival = some state := by
  rw [collecting, Bool.and_eq_true, Bool.not_eq_true', decide_eq_true_eq] at hheld
  obtain ⟨echo, hecho⟩ := List.exists_mem_of_ne_nil _ hheld.2
  obtain ⟨state, -, hstate, -⟩ := acceptableEcho_known (h.echoes hheld.1 echo hecho).1
  exact ⟨state, hstate⟩

lemma ClaimHeld.taken (h : ClaimHeld cfg n) (hread : ReadCert cert)
    (hok : collecting n.arrival = true → storesCert cfg n.arrival cert = true → cert.carId = myCarId cfg.replicaId →
      ownHash cfg n.arrival = some cert.claimHash) :
    ClaimHeld cfg ⟨n.app, (handleArrivalCert cfg n.app n.arrival cert).1⟩ := by
  rw [handleArrivalCert]
  split
  next => exact h
  next hstore =>
    push Not at hstore
    have hstores : storesCert cfg n.arrival cert = true := by
      simp only [storesCert, Bool.and_eq_true, decide_eq_true_eq]
      exact ⟨⟨hstore.1, by simpa using hstore.2.1⟩,
        Option.isNone_iff_eq_none.mpr (Option.not_isSome_iff_eq_none.mp hstore.2.2)⟩
    by_cases hcar : cert.carId = myCarId cfg.replicaId
    · have hhash : ∀ map : List (Bytes × Bytes), List.lookup (myCarId cfg.replicaId) ((cert.carId, cert.claimHash) :: map) =
          some cert.claimHash := fun map => by rw [hcar, List.lookup_cons_self]
      by_cases hheld : collecting n.arrival = true
      · obtain ⟨state, hstate⟩ := h.known hheld
        refine h.framed rfl ⟨?_, ?_, rfl, rfl⟩
        · rw [ownState] at hstate
          rw [ownState, ownState, hcar, hstate, Option.isSome_some]
          exact hstate
        · rw [hok hheld hstores hcar, ownHash, hhash]
      · refine h.rewritten hheld rfl rfl (fun state hstate => ?_) fun claimHash hclaim => ?_
        · rw [ownState] at hstate
          dsimp only at hstate
          split at hstate
          next => exact h.state state hstate
          next =>
            rw [hcar, List.lookup_cons_self] at hstate
            obtain rfl := Option.some.inj hstate
            exact ⟨hread.lane, hread.lateralClaimCm, hread.positionInLane⟩
        · rw [ownHash, hhash] at hclaim
          obtain rfl := Option.some.inj hclaim
          exact hread.claimHash
    · have hother : myCarId cfg.replicaId ≠ cert.carId := fun heq => hcar heq.symm
      refine h.framed rfl ⟨?_, lookup_cons_other cert.claimHash _ hother, rfl, rfl⟩
      rw [ownState]
      dsimp only
      split
      next => rfl
      next => exact lookup_cons_other (vehicleStateOfCert cert) _ hother

lemma ClaimHeld.finalize (h : ClaimHeld cfg n) :
    ClaimHeld cfg ⟨n.app, (finalizeLocalArrivalCert cfg n.app n.arrival).1⟩ := by
  have hsent : ∀ s', s'.certBroadcast = true → ownState cfg s' = ownState cfg n.arrival →
      ownHash cfg s' = ownHash cfg n.arrival → s'.myReceivedEchoes = n.arrival.myReceivedEchoes → ClaimHeld cfg ⟨n.app, s'⟩ := by
    intro s' hbroadcast hstate hhash hechoes
    refine ⟨h.epoch, hstate ▸ h.state, hhash ▸ h.hash, fun hopen => ?_, hechoes ▸ h.distinct, hechoes ▸ h.count⟩
    rw [hbroadcast] at hopen
    cases hopen
  rw [finalizeLocalArrivalCert_eq]
  split
  next => exact h
  next =>
    split
    · exact hsent _ rfl rfl rfl rfl
    · exact hsent _ rfl rfl rfl rfl

lemma ClaimHeld.step (hcfg : cfg.Sized) (h : ClaimHeld cfg n) {ev : ClaimantEvent} (hok : ClaimKept cfg n ev) :
    ClaimHeld cfg (claimantStep cfg n ev) := by
  cases ev with
  | app ev => exact h.application ev
  | announcement g payload fresh sign => exact h.witness hcfg.replicaId rfl
  | announcementGossip g inner fresh sign => exact h.witness hcfg.replicaId rfl
  | declare g r => exact h.declare hcfg g r hok
  | echo g payload =>
    cases hread : deserializeArrivalEcho payload with
    | none =>
      simp only [claimantStep, ClaimantEvent.arrival, hread, Option.map_none]
      exact h
    | some echo =>
      simp only [claimantStep, ClaimantEvent.arrival, hread, Option.map_some, arrivalStep, handleArrivalEcho]
      split
      next => exact h
      next => exact h.collect g (deserializeArrivalEcho_fits hread)
  | cert payload =>
    cases hread : deserializeArrivalCert payload with
    | none =>
      simp only [claimantStep, ClaimantEvent.arrival, hread, Option.map_none]
      exact h
    | some cert =>
      simp only [claimantStep, ClaimantEvent.arrival, hread, Option.map_some, arrivalStep]
      refine h.taken (deserializeArrivalCert_reads hread) fun hheld hstores hcar => ?_
      have hkept := hok hheld
      simpa [overwritesClaim, hread, hstores, hcar] using hkept
  | finalize => exact h.finalize

lemma certifiableLane_range {physicalLaneIndex lateralClaimCm : ℤ}
    (h : certifiableLane cfg physicalLaneIndex lateralClaimCm = true) :
    -2147483648 ≤ physicalLaneIndex ∧ physicalLaneIndex < 2147483648 := by
  rw [certifiableLane] at h
  split at h
  next hadjacent =>
    simp only [claimSemanticsValid, hadjacent, Bool.not_true, Bool.false_or, Bool.and_eq_true, decide_eq_true_eq] at h
    omega
  next =>
    rw [decide_eq_true_eq] at h
    omega

lemma finalizedCert_some (h : finalizedCert cfg app s = some cert) :
    ∃ state claimHash, ownState cfg s = some state ∧ ownHash cfg s = some claimHash ∧ s.certBroadcast = false ∧
      cfg.faults + 1 ≤ s.myReceivedEchoes.length ∧ localArrivalCert cfg app s state claimHash = cert := by
  rw [finalizedCert] at h
  split at h
  next state claimHash hstate hhash =>
    split at h
    next => cases h
    next hopen =>
      simp only [Bool.or_eq_true, decide_eq_true_eq, not_or, Bool.not_eq_true, not_lt] at hopen
      exact ⟨state, claimHash, hstate, hhash, hopen.1, hopen.2, Option.some.inj h⟩
  next => cases h

lemma acceptable_valid {state : VehicleState} {claimHash : Bytes} (hstate : ownState cfg s = some state)
    (hhash : ownHash cfg s = some claimHash) (h : acceptableEcho cfg app s echo = true) :
    isValidArrivalEchoForCert cfg (localArrivalCert cfg app s state claimHash) echo = true := by
  rw [ownState] at hstate
  rw [ownHash] at hhash
  simp only [acceptableEcho, hstate, hhash, echoMatchesClaim, Bool.and_eq_true, decide_eq_true_eq] at h
  obtain ⟨⟨⟨⟨⟨htarget, heligible⟩, hsigned⟩, hkey⟩, ⟨⟨⟨⟨⟨⟨⟨hepoch, hlane⟩, hphysical⟩, hlateral⟩, hposition⟩, hdirection⟩,
    hambulance⟩, hclaim⟩⟩, hverifies⟩ := h
  simp only [isValidArrivalEchoForCert, echoMatchesCert, Bool.and_eq_true, decide_eq_true_eq]
  exact ⟨⟨⟨⟨heligible, hsigned⟩, ⟨⟨⟨⟨⟨⟨⟨⟨htarget, hepoch⟩, hlane⟩, hphysical⟩, hlateral⟩, hposition⟩, hdirection⟩,
    hambulance⟩, hclaim⟩⟩, hkey⟩, hverifies⟩

lemma certEcho_of_valid (h : isValidArrivalEchoForCert cfg cert echo = true) :
    certEcho cert echo.echoingReplicaId echo.observedCue echo.signerPubKey echo.signature = echo := by
  simp only [isValidArrivalEchoForCert, echoMatchesCert, Bool.and_eq_true, decide_eq_true_eq] at h
  obtain ⟨⟨⟨-, ⟨⟨⟨⟨⟨⟨⟨⟨htarget, hepoch⟩, hlane⟩, hphysical⟩, hlateral⟩, hposition⟩, hdirection⟩, hambulance⟩, hclaim⟩⟩, -⟩, -⟩ := h
  rw [certEcho, ← htarget, ← hepoch, ← hlane, ← hphysical, ← hlateral, ← hposition, ← hdirection, ← hambulance, ← hclaim]

lemma ClaimHeld.finalized (hcfg : cfg.Sized) (h : ClaimHeld cfg n) (hok : ClaimKept cfg n .finalize)
    (hcert : finalizedCert cfg n.app n.arrival = some cert) : cert.Fits ∧ Accepted cfg cert := by
  obtain ⟨state, claimHash, hstate, hhash, hopen, hquorum, rfl⟩ := finalizedCert_some hcert
  have hclaim := hok hopen hquorum
  simp only [certifiableClaim, hstate, Bool.and_eq_true, decide_eq_true_eq] at hclaim
  obtain ⟨hdirection, hlane⟩ := hclaim
  set cert := localArrivalCert cfg n.app n.arrival state claimHash
  have hvalid : ∀ echo ∈ cert.echoes, isValidArrivalEchoForCert cfg cert echo = true := fun echo hecho =>
    acceptable_valid hstate hhash (h.echoes hopen echo hecho).1
  have hstateFits := h.state state hstate
  have htotal := hcfg.totalVehicles
  constructor
  · refine ⟨myCarId_notMem _, hstateFits.lane, certifiableLane_range hlane, hstateFits.lateralClaimCm,
      hstateFits.positionInLane, h.hash claimHash hhash, signed32_range h.epoch,
      fun echo hecho => (h.echoes hopen echo hecho).2, fun echo hecho => ?_, fun echo hecho => ?_,
      fun echo hecho => certEcho_of_valid (hvalid echo hecho)⟩
    · have heligible := eligible_of_valid (hvalid echo hecho)
      rw [isArrivalSignerEligible, decide_eq_true_eq] at heligible
      omega
    · have hsigned := hvalid echo hecho
      simp only [isValidArrivalEchoForCert, Bool.and_eq_true, decide_eq_true_eq] at hsigned
      exact hsigned.1.1.1.2
  · refine ⟨hdirection, ?_, hlane, h.count, ?_, ?_⟩
    · change myCarId cfg.replicaId ≠ []
      simp [myCarId, ascii]
    · exact h.distinct.filter _
    · rw [List.countP_eq_length.mpr hvalid]
      exact hquorum

lemma SameNetwork.validEcho (h : SameNetwork cfg cfg') (cert : ArrivalCert) (echo : ArrivalEcho) :
    isValidArrivalEchoForCert cfg' cert echo = isValidArrivalEchoForCert cfg cert echo := by
  simp only [isValidArrivalEchoForCert, isArrivalSignerEligible, ArrivalConfig.keyMatches, echoSignatureVerifies,
    h.totalVehicles, h.registeredKeys, h.verifyBytes]

lemma Accepted.elsewhere (h : Accepted cfg cert) (hsame : SameNetwork cfg cfg') (hlanes : SameLanes cfg cfg') :
    Accepted cfg' cert where
  direction := h.direction
  carId := h.carId
  lane := by
    rw [certifiableLane, claimSemanticsValid, hlanes.adjacentLateral, hlanes.projectPhysicalLaneIndex]
    exact h.lane
  size := hsame.totalVehicles ▸ h.size
  once := by
    rw [eligibleSigners]
    simp only [isArrivalSignerEligible, hsame.totalVehicles]
    exact h.once
  quorum := by
    rw [ArrivalConfig.faults, hsame.toleratedFaults, hsame.totalVehicles]
    simp only [hsame.validEcho]
    exact h.quorum

theorem ownCerts_accepted (hcfg : cfg.Sized) (events : List ClaimantEvent)
    (h : Guarded (claimantStep cfg) (ClaimKept cfg) .initial events) :
    ∀ cert ∈ collect (claimantStep cfg) (sentCerts cfg) .initial events, AcceptedEverywhere cfg cert := by
  refine Guarded.forall_collect (fun n ev hn hok => hn.step hcfg hok) (fun n ev hn hok cert hcert => ?_)
    (ClaimHeld.restarted cfg (by decide)) h
  cases ev with
  | finalize =>
    obtain ⟨hfits, haccepted⟩ := hn.finalized hcfg hok (Option.mem_toList.mp hcert)
    intro unused cfg' hsame hlanes
    exact ⟨cert, deserialize_serializeCert hfits unused, validateArrivalCert_iff.mpr (haccepted.elsewhere hsame hlanes)⟩
  | _ => exact absurd hcert List.not_mem_nil

def leftFromNorth : OwnReading where
  laneId := ascii "N_0"
  intendedLane := []
  intendedDirection := ascii "L"
  queueRank := 1
  lateralClaimCm := 0
  isAmbulance := false
  ambulanceCertBytes := []
  ambulanceSigBytes := []
  now := 0
  sign := atStopLine.sign
  queueRank_lt := by decide
  lateral_range := by decide
  sign_sized := atStopLine.sign_sized

def echoOfDeclared (epoch : ℕ) : ArrivalEcho :=
  let ann := ownAnnouncement fullSizedCars { AppState.initial with currentEpoch := epoch }
    (leftFromNorth.measured fullSizedCars) leftFromNorth.sign
  let echo := echoOf { fullSizedCars with replicaId := 1, publicKey := fullKey 1 } ann .left
  { echo with signature := checksum (fullKey 1 ++ arrivalEchoSigningPayload echo) }

def declaredAndEchoed (epoch : ℕ) : List ClaimantEvent :=
  [.declare collectingGates leftFromNorth, .echo collectingGates (serializeArrivalEcho [] (echoOfDeclared epoch))]

def certOfEpoch0 : List ArrivalCert :=
  collect (claimantStep fullSizedCars) (sentCerts fullSizedCars) .initial (declaredAndEchoed 0 ++ [.finalize])

def secondRound : List ClaimantEvent :=
  declaredAndEchoed 0 ++ .finalize :: (cancelledWait.map .app ++ declaredAndEchoed 1)

def staleCopies : List ClaimantEvent := certOfEpoch0.map fun cert => .cert (serializeArrivalCert (fun _ => []) cert)

theorem ownCerts_accepted_bothRounds :
    (collect (claimantStep fullSizedCars) (sentCerts fullSizedCars) .initial
        (secondRound ++ .finalize :: staleCopies)).length = 2 ∧
      ∀ cert ∈ collect (claimantStep fullSizedCars) (sentCerts fullSizedCars) .initial
        (secondRound ++ .finalize :: staleCopies), AcceptedEverywhere fullSizedCars cert :=
  ⟨by decide +kernel, ownCerts_accepted fullSizedCars_sized _ (by decide +kernel)⟩

-- its own certificate of epoch 0 comes back while the echoes of epoch 1 are held
theorem staleCopy_breaks_ownCert :
    ¬∀ cert ∈ collect (claimantStep fullSizedCars) (sentCerts fullSizedCars) .initial
      (secondRound ++ (staleCopies ++ [.finalize])), AcceptedEverywhere fullSizedCars cert := by
  intro h
  have hrejected : ∃ cert ∈ collect (claimantStep fullSizedCars) (sentCerts fullSizedCars) .initial
      (secondRound ++ (staleCopies ++ [.finalize])),
      (deserializeArrivalCert (serializeArrivalCert (fun _ => []) cert)).map (validateArrivalCert fullSizedCars) =
        some false := by
    decide +kernel
  obtain ⟨cert, hcert, hfalse⟩ := hrejected
  obtain ⟨read, hread, hvalid⟩ := h cert hcert (fun _ => []) fullSizedCars ⟨rfl, rfl, rfl, rfl, rfl⟩ ⟨rfl, rfl⟩
  rw [hread, Option.map_some, hvalid] at hfalse
  cases hfalse

end V2vBft.Arrival
