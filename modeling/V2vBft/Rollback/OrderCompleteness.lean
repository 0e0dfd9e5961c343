import V2vBft.Rollback.OrderEvidence
import V2vBft.Arrival.PartialView
import V2vBft.Arrival.QueueRanks
import V2vBft.Arrival.WitnessFacts

/-! Which cars an ORDER has entries for: those its proposer had recorded when it froze the candidate. -/

namespace V2vBft.Rollback

open Wire App Arrival Library.GuardedRun

variable {cfg : RollbackConfig} {s s' : RollbackState}

structure VehicleConfig extends RollbackConfig, ArrivalConfig

-- candidateCars: which of the cars of the frozen candidate are ambulances
structure VehicleNode where
  rollback : RollbackState
  arrival : ArrivalState
  collectedDistanceCerts : List (Bytes × StoppedDistanceCert)
  stoppedDistanceCollectionActive : Bool
  crashCommsDisabled : Bool
  candidateCars : AmbulanceCars

def VehicleNode.initial : VehicleNode := ⟨.initial, .initial, [], false, false, ⟨[], []⟩⟩

def VehicleNode.gates (n : VehicleNode) : Gates where
  stoppedDistanceCollectionActive := n.stoppedDistanceCollectionActive
  collecting := decide (n.rollback.discovery.state = .collecting)
  proposeSubmitted := n.rollback.proposeSubmitted
  crashCommsDisabled := n.crashCommsDisabled
  departed := n.rollback.departed

def VehicleNode.arrivalNode (n : VehicleNode) : ArrivalNode := ⟨n.rollback.app, n.arrival⟩

def carsOf {α : Type*} (entries : List (Bytes × α)) : List Bytes := (entries.map Prod.fst).dedup

-- observed_intent_cars_ is inserted into together with local_vehicle_states_
def storesOf (arrival : ArrivalState) (distances : List (Bytes × StoppedDistanceCert)) : DiscoveryStores where
  collectedCerts := carsOf arrival.collectedCerts
  collectedDistanceCerts := carsOf distances
  localVehicleStates := carsOf arrival.localVehicleStates
  observedIntentCars := carsOf arrival.localVehicleStates

def ambulancesOf (arrival : ArrivalState) : AmbulanceCars where
  certified := (carsOf arrival.collectedCerts).filter fun carId =>
    (arrival.collectedCerts.lookup carId).any ArrivalCert.isAmbulance
  observed := (carsOf arrival.localVehicleStates).filter fun carId =>
    (arrival.localVehicleStates.lookup carId).any VehicleState.isAmbulance

def VehicleNode.record (n : VehicleNode) (arrival : ArrivalState) (distances : List (Bytes × StoppedDistanceCert)) :
    VehicleNode :=
  { n with
    rollback := { n.rollback with stores := storesOf arrival distances }
    arrival := arrival
    collectedDistanceCerts := distances }

def holdsCandidate (s : RollbackState) : Bool := s.orderCandidate.any fun c => decide (c.epoch = s.app.currentEpoch)

def VehicleNode.proposalCars (n : VehicleNode) : AmbulanceCars :=
  if holdsCandidate n.rollback then n.candidateCars else ambulancesOf n.arrival

def beginsRound (cfg : RollbackConfig) (s : RollbackState) (ev : EvidenceEvent) : Bool :=
  (takenCancel cfg s ev).any fun dec => !s.app.repeatsCancel (CancelDecisionHdr.read dec).cancelledEpoch

def disablesComms : EvidenceEvent → Bool
  | .rollback .disableCrashComms _ => true
  | _ => false

inductive RadioEvent
  | announcement (payload : Bytes) (fresh : ArrivalPerceptionSample) (sign : Bytes → Option Bytes)
  | announcementGossip (inner : Bytes) (fresh : ArrivalPerceptionSample) (sign : Bytes → Option Bytes)
  | announce (measured : ArrivalAnnouncement) (sign : Bytes → Option Bytes)
  | echo (echo : ArrivalEcho)
  | cert (cert : ArrivalCert)
  | finalizeCert

def RadioEvent.arrival (g : Gates) : RadioEvent → ArrivalEvent
  | .announcement payload fresh sign => .announcement g payload fresh sign
  | .announcementGossip inner fresh sign => .announcementGossip g inner fresh sign
  | .announce measured sign => .announce g measured sign
  | .echo e => .echo g e
  | .cert c => .cert c
  | .finalizeCert => .finalizeCert

-- the state of the round moves by events of its own, also where a handler of the radio moves it
inductive VehicleEvent
  | evidence (ev : EvidenceEvent) (other : movesCandidate ev = false)
  | discovery (round : DiscoveryRound) (collectsDistances deadline settle announcement : Bool)
  | radio (ev : RadioEvent)
  | distanceCert (cert : StoppedDistanceCert)
  | ownDistanceCert (cert : StoppedDistanceCert)
  | orderReadiness (engine : EngineAnswer)

def vehicleStep (cfg : VehicleConfig) (n : VehicleNode) : VehicleEvent → VehicleNode
  | .evidence ev _ =>
    let rollback := evidenceStep cfg.toRollbackConfig n.rollback ev
    if beginsRound cfg.toRollbackConfig n.rollback ev then
      { n with
        rollback := rollback
        arrival := .initial
        collectedDistanceCerts := []
        stoppedDistanceCollectionActive := false }
    else { n with rollback := rollback, crashCommsDisabled := n.crashCommsDisabled || disablesComms ev }
  | .discovery round collectsDistances deadline settle announcement =>
    { n with
      rollback := discoveryStep n.rollback round n.rollback.stores deadline settle announcement
      stoppedDistanceCollectionActive := collectsDistances }
  | .radio ev =>
    n.record (arrivalStep cfg.toArrivalConfig n.arrivalNode (ev.arrival n.gates)).1.arrival n.collectedDistanceCerts
  | .distanceCert cert =>
    n.record n.arrival
      (handleStoppedDistanceCert cfg.toArrivalConfig n.rollback.app n.arrival.collectedCerts n.collectedDistanceCerts cert)
  | .ownDistanceCert cert => n.record n.arrival ((myCarId cfg.replicaId, cert) :: n.collectedDistanceCerts)
  | .orderReadiness engine =>
    { n with
      rollback := (evaluateAndPropose cfg.toRollbackConfig n.rollback engine n.proposalCars).1
      candidateCars := if (readinessGate n.rollback).isNone then n.proposalCars else n.candidateCars }

def submittedIds (cfg : VehicleConfig) (n : VehicleNode) (engine : EngineAnswer) : Option (List ℤ) :=
  (submitted cfg.toRollbackConfig n.rollback engine n.proposalCars).map fun c =>
    packedIds cfg.toRollbackConfig n.rollback c.stores n.proposalCars

-- a claim that the witness looks at: the first one of its car, not decided before, of a car that perception sees
def looksAt (cfg : ArrivalConfig) (s : ArrivalState) (ann : ArrivalAnnouncement) (fresh : ArrivalPerceptionSample) :
    Bool :=
  (admitVariant cfg s ann).2 && (s.cachedArrivalEchoes.lookup (arrivalCacheKey cfg ann)).isNone &&
    decide (arrivalCacheKey cfg ann ∉ s.cachedArrivalRejections) && (sampleFor cfg s ann fresh).detected

-- the car of an authentic announcement that the handler does not drop, and of a validated certificate
def takenIn (cfg : VehicleConfig) (n : VehicleNode) : RadioEvent → Option Bytes
  | .announcement payload fresh sign =>
    ((heard cfg.toArrivalConfig n.arrivalNode (.announcement n.gates payload fresh sign)).filter fun ann =>
      looksAt cfg.toArrivalConfig n.arrival ann fresh).map ArrivalAnnouncement.carId
  | .announcementGossip inner fresh sign =>
    ((heard cfg.toArrivalConfig n.arrivalNode (.announcementGossip n.gates inner fresh sign)).filter fun ann =>
      looksAt cfg.toArrivalConfig n.arrival ann fresh).map ArrivalAnnouncement.carId
  | .cert cert => if validateArrivalCert cfg.toArrivalConfig cert then some cert.carId else none
  | _ => none

structure Steady (s s' : RollbackState) : Prop where
  epoch : s'.app.currentEpoch = s.app.currentEpoch
  stores : s'.stores = s.stores
  candidate : s'.orderCandidate = none ∨ s'.orderCandidate = s.orderCandidate

lemma Kept.steady {order : Option OrderDecision} (h : Kept order s s') : Steady s s' := ⟨h.epoch, h.stores, h.candidate⟩

lemma steady_of_footing (h : s'.footing = s.footing) : Steady s s' :=
  ⟨congrArg Footing.epoch h, congrArg Footing.stores h, Or.inr (congrArg Footing.candidate h)⟩

lemma processOrder_steady (s : RollbackState) (completed : Bool) (clears : List (BlockedIncident × Bytes)) (sense : Sense)
    (hrepeats : ∀ dec, s.app.pendingOrders.head?.filter isCancelDecision = some dec →
      s.app.repeatsCancel (CancelDecisionHdr.read dec).cancelledEpoch = true) :
    Steady s (processOrder cfg s completed clears sense) := by
  rcases @processOrder_kept cfg s completed clears sense with hkept | ⟨dec, htaken, -⟩
  · exact hkept.steady
  · have hrep := hrepeats dec htaken
    cases hpending : s.app.pendingOrders with
    | nil => simp [hpending] at htaken
    | cons first rest =>
      rw [hpending, List.head?_cons, Option.filter_eq_some_iff] at htaken
      obtain ⟨hfirst, hcancel⟩ := htaken
      obtain rfl := Option.some.inj hfirst
      rw [processOrder, hpending]
      dsimp only
      rw [if_pos hcancel, handleCancelCommitDecision_eq,
        beginPostCancelDiscovery_repeated (by rw [repeatsCancel_settleCommitted]; exact hrep), settleCommitted_eq]
      exact steady_of_footing rfl

lemma handleCancelCommitGossip_steady (s : RollbackState) (senderId : ℤ) (inner : Bytes) (sense : Sense)
    (hrepeats : ∀ dec, adoptedAttestation cfg.toAppConfig s.app senderId inner = some dec →
      s.app.repeatsCancel (CancelDecisionHdr.read dec).cancelledEpoch = true) :
    Steady s (handleCancelCommitGossip cfg s senderId inner sense) := by
  rcases @handleCancelCommitGossip_kept cfg s senderId inner sense with hkept | ⟨dec, hadopt, -⟩
  · exact hkept.steady
  · rw [handleCancelCommitGossip_adopted _ hadopt,
      beginPostCancelDiscovery_repeated (by rw [repeatsCancel_settleAdopted]; exact hrepeats dec hadopt), settleAdopted_eq,
      recordCancelVote_eq]
    exact steady_of_footing rfl

lemma repeats_of_taken {ev : EvidenceEvent} {dec : Bytes} (hround : beginsRound cfg s ev = false)
    (htaken : takenCancel cfg s ev = some dec) :
    s.app.repeatsCancel (CancelDecisionHdr.read dec).cancelledEpoch = true := by
  simpa [beginsRound, htaken] using hround

lemma evidenceStep_steady {ev : EvidenceEvent} (hother : movesCandidate ev = false)
    (hround : beginsRound cfg s ev = false) : Steady s (evidenceStep cfg s ev) := by
  have hground := @evidenceStep_ground cfg s ev hother
  generalize evidenceStep cfg s ev = s' at hground ⊢
  cases hground with
  | held hfooting _ => exact steady_of_footing hfooting
  | commit completed clears sense =>
    exact processOrder_steady s completed clears sense fun dec htaken => repeats_of_taken hround htaken
  | adopt senderId inner sense plain =>
    exact handleCancelCommitGossip_steady s senderId inner sense fun dec hadopt =>
      @repeats_of_taken cfg s (.rollback (.cancelCommitGossip senderId inner sense) plain) dec hround hadopt
  | depart plain => exact ⟨rfl, rfl, Or.inr rfl⟩

lemma evaluateAndPropose_freezes (s : RollbackState) (engine : EngineAnswer) (cars : AmbulanceCars) :
    (evaluateAndPropose cfg s engine cars).1.app.currentEpoch = s.app.currentEpoch ∧
      (evaluateAndPropose cfg s engine cars).1.stores = s.stores ∧
      ((evaluateAndPropose cfg s engine cars).1.orderCandidate = s.orderCandidate ∨
        (evaluateAndPropose cfg s engine cars).1.orderCandidate = some (frozenCandidate cfg s)) := by
  have hevaluated : (evaluateOrderReadiness cfg s engine).1.app = s.app ∧
      (evaluateOrderReadiness cfg s engine).1.stores = s.stores ∧
      ((evaluateOrderReadiness cfg s engine).1.orderCandidate = s.orderCandidate ∨
        (evaluateOrderReadiness cfg s engine).1.orderCandidate = some (frozenCandidate cfg s)) := by
    cases hgate : readinessGate s with
    | some outcome =>
      rw [evaluateOrderReadiness_gated engine hgate]
      exact ⟨rfl, rfl, Or.inl rfl⟩
    | none =>
      rw [evaluateOrderReadiness_open engine hgate]
      exact ⟨rfl, rfl, Or.inr rfl⟩
  obtain ⟨happ, hstores, hcandidate⟩ := hevaluated
  rw [evaluateAndPropose]
  dsimp only
  split
  · split
    · have hkept := steady_of_footing (@proposeAll_kept cfg (evaluateOrderReadiness cfg s engine).1 engine cars).1
      have hsame : (proposeAll cfg (evaluateOrderReadiness cfg s engine).1 engine cars).1.orderCandidate =
          (evaluateOrderReadiness cfg s engine).1.orderCandidate :=
        congrArg Footing.candidate (@proposeAll_kept cfg (evaluateOrderReadiness cfg s engine).1 engine cars).1
      exact ⟨hkept.epoch.trans (congrArg AppState.currentEpoch happ), hkept.stores.trans hstores, by rw [hsame]; exact hcandidate⟩
    · exact ⟨congrArg AppState.currentEpoch happ, hstores, hcandidate⟩
  · exact ⟨congrArg AppState.currentEpoch happ, hstores, hcandidate⟩

structure Grows (s s' : ArrivalState) : Prop where
  states : s.localVehicleStates <:+ s'.localVehicleStates
  certs : ∀ entry ∈ s'.collectedCerts, entry ∈ s.collectedCerts ∨ entry.1 ∈ s'.localVehicleStates.map Prod.fst

lemma Grows.of_eq {s s' : ArrivalState} (hstates : s'.localVehicleStates = s.localVehicleStates)
    (hcerts : s'.collectedCerts = s.collectedCerts) : Grows s s' :=
  ⟨by rw [hstates], fun _ hentry => Or.inl (hcerts ▸ hentry)⟩

lemma Grows.store {s s' : ArrivalState} {carId : Bytes} {vs : VehicleState}
    (hstates : s'.localVehicleStates = (carId, vs) :: s.localVehicleStates)
    (hcerts : s'.collectedCerts = s.collectedCerts) : Grows s s' :=
  ⟨by rw [hstates]; exact List.suffix_cons _ _, fun _ hentry => Or.inl (hcerts ▸ hentry)⟩

variable {acfg : ArrivalConfig} {a : ArrivalState} {ann : ArrivalAnnouncement} {fresh : ArrivalPerceptionSample}
  {sign : Bytes → Option Bytes}

lemma sendArrivalEcho_stores (acfg : ArrivalConfig) (a : ArrivalState) (ann : ArrivalAnnouncement)
    (sign : Bytes → Option Bytes) :
    (sendArrivalEcho acfg a ann sign).1.localVehicleStates = a.localVehicleStates ∧
      (sendArrivalEcho acfg a ann sign).1.collectedCerts = a.collectedCerts := by
  have hsent := sendArrivalEcho_sent acfg a ann sign
  generalize sendArrivalEcho acfg a ann sign = r at hsent ⊢
  cases hsent <;> exact ⟨rfl, rfl⟩

lemma admitVariant_stores (acfg : ArrivalConfig) (a : ArrivalState) (ann : ArrivalAnnouncement) :
    (admitVariant acfg a ann).1.localVehicleStates = a.localVehicleStates ∧
      (admitVariant acfg a ann).1.collectedCerts = a.collectedCerts := by
  have hadmitted := admitVariant_admitted acfg a ann
  generalize admitVariant acfg a ann = r at hadmitted ⊢
  cases hadmitted <;> exact ⟨rfl, rfl⟩

lemma perceiveArrival_stores (acfg : ArrivalConfig) (a : ArrivalState) (ann : ArrivalAnnouncement)
    (fresh : ArrivalPerceptionSample) :
    (perceiveArrival acfg a ann fresh).1.localVehicleStates = a.localVehicleStates ∧
      (perceiveArrival acfg a ann fresh).1.collectedCerts = a.collectedCerts := by
  rw [perceiveArrival]
  split <;> exact ⟨rfl, rfl⟩

lemma considerAnnouncement_grows (app : AppState) :
    Grows a (considerAnnouncement acfg app a ann fresh sign).1 := by
  obtain ⟨hstates, hcerts⟩ := admitVariant_stores acfg a ann
  obtain ⟨hseenStates, hseenCerts⟩ := perceiveArrival_stores acfg (admitVariant acfg a ann).1 ann fresh
  have hconsidered := considerAnnouncement_considered acfg app a ann fresh sign
  generalize considerAnnouncement acfg app a ann fresh sign = r at hconsidered ⊢
  cases hconsidered with
  | ignored => exact .of_eq hstates hcerts
  | resent echo hadm hecho => exact .of_eq hstates hcerts
  | refused hadm hnew =>
    rw [refuseAnnouncement]
    dsimp only
    split
    · exact .store (congrArg _ (hseenStates.trans hstates)) (hseenCerts.trans hcerts)
    · exact .of_eq (hseenStates.trans hstates) (hseenCerts.trans hcerts)
  | accepted haccept hadm =>
    rw [acceptAnnouncement]
    have hsent := sendArrivalEcho_stores acfg ((perceiveArrival acfg (admitVariant acfg a ann).1 ann fresh).1.store
      (vehicleStateOf ann ann.lane (gatedIsAmbulance acfg ann)) (arrivalAnnouncementHash acfg ann))
      { ann with isAmbulance := gatedIsAmbulance acfg ann } sign
    exact .store (hsent.1.trans (congrArg _ (hseenStates.trans hstates))) (hsent.2.trans (hseenCerts.trans hcerts))

lemma considerAnnouncement_records (app : AppState) (h : looksAt acfg a ann fresh = true) :
    ann.carId ∈ (considerAnnouncement acfg app a ann fresh sign).1.localVehicleStates.map Prod.fst := by
  obtain ⟨hechoes, hsamples, hrejections⟩ := (admitVariant_admitted acfg a ann).caches
  simp only [looksAt, Bool.and_eq_true, decide_eq_true_eq, Option.isNone_iff_eq_none] at h
  obtain ⟨⟨⟨hadm, hnew⟩, hrej⟩, hdetected⟩ := h
  have hsample : sampleFor acfg (admitVariant acfg a ann).1 ann fresh = sampleFor acfg a ann fresh := by
    rw [sampleFor, sampleFor, hsamples]
  rw [considerAnnouncement]
  simp only [hadm, hechoes, hrejections hadm, hnew, hrej, Bool.not_true, Bool.false_eq_true, if_false,
    Option.isSome_none]
  rw [evaluateAnnouncement]
  simp only [hsample]
  split
  · rw [acceptAnnouncement]
    dsimp only
    rw [(sendArrivalEcho_stores _ _ _ _).1]
    exact List.mem_cons_self
  · rw [refuseAnnouncement]
    simp only [hdetected, if_true]
    exact List.mem_cons_self

lemma collectArrivalEcho_stores (acfg : ArrivalConfig) (g : Gates) (app : AppState) (a : ArrivalState)
    (echo : ArrivalEcho) :
    (collectArrivalEcho acfg g app a echo).localVehicleStates = a.localVehicleStates ∧
      (collectArrivalEcho acfg g app a echo).collectedCerts = a.collectedCerts := by
  rw [collectArrivalEcho]
  repeat' split
  all_goals exact ⟨rfl, rfl⟩

lemma broadcastArrivalAnnouncement_grows (g : Gates) (app : AppState) (measured : ArrivalAnnouncement) :
    Grows a (broadcastArrivalAnnouncement acfg g app a measured sign).1 := by
  rw [broadcastArrivalAnnouncement]
  split_ifs
  · exact .of_eq rfl rfl
  · exact .of_eq rfl rfl
  · dsimp only
    rcases addLocalSelfAttestation_cases acfg g app _ (ownAnnouncement acfg app measured sign) sign with
      hself | ⟨echo, -, hself⟩
    · rw [hself]
      exact .store rfl rfl
    · rw [hself]
      obtain ⟨hstates, hcerts⟩ := collectArrivalEcho_stores acfg g app _ echo
      exact .store hstates hcerts

lemma handleArrivalCert_grows (app : AppState) (cert : ArrivalCert) : Grows a (handleArrivalCert acfg app a cert).1 := by
  rw [handleArrivalCert]
  split_ifs with hdropped
  · exact .of_eq rfl rfl
  · dsimp only
    split_ifs with hknown
    · refine ⟨List.suffix_refl _, fun entry hentry => ?_⟩
      rcases List.mem_cons.mp hentry with rfl | hold
      · exact Or.inr (lookup_isSome_iff.mp hknown)
      · exact Or.inl hold
    · refine ⟨List.suffix_cons _ _, fun entry hentry => ?_⟩
      rcases List.mem_cons.mp hentry with rfl | hold
      · exact Or.inr List.mem_cons_self
      · exact Or.inl hold

lemma finalizeLocalArrivalCert_grows (app : AppState) : Grows a (finalizeLocalArrivalCert acfg app a).1 := by
  rw [finalizeLocalArrivalCert]
  split
  next state claimHash hstate _ =>
    split_ifs
    · exact .of_eq rfl rfl
    · dsimp only
      split_ifs
      · exact .of_eq rfl rfl
      · refine ⟨List.suffix_refl _, fun entry hentry => ?_⟩
        rcases List.mem_cons.mp hentry with rfl | hold
        · exact Or.inr (lookup_isSome_iff.mp (Option.isSome_of_eq_some hstate))
        · exact Or.inl hold
  · exact .of_eq rfl rfl

lemma RadioEvent.grows (n : ArrivalNode) (g : Gates) (ev : RadioEvent) :
    Grows n.arrival (arrivalStep acfg n (ev.arrival g)).1.arrival := by
  have hwitness : ∀ (ev : ArrivalEvent) (fresh : ArrivalPerceptionSample) (sign : Bytes → Option Bytes),
      ev.witness = some (fresh, sign) → Grows n.arrival (arrivalStep acfg n ev).1.arrival := by
    intro ev fresh sign hev
    rw [arrivalStep_witness acfg n hev]
    cases heard acfg n ev with
    | none => exact .of_eq rfl rfl
    | some ann => exact considerAnnouncement_grows n.app
  cases ev with
  | announcement payload fresh sign => exact hwitness _ fresh sign rfl
  | announcementGossip inner fresh sign => exact hwitness _ fresh sign rfl
  | announce measured sign => exact broadcastArrivalAnnouncement_grows g n.app measured
  | echo e =>
    rw [RadioEvent.arrival, arrivalStep, handleArrivalEcho]
    split
    · exact .of_eq rfl rfl
    · obtain ⟨hstates, hcerts⟩ := collectArrivalEcho_stores acfg g n.app n.arrival e
      exact .of_eq hstates hcerts
  | cert c => exact handleArrivalCert_grows n.app c
  | finalizeCert => exact finalizeLocalArrivalCert_grows n.app

def CertsRecorded (a : ArrivalState) : Prop := ∀ entry ∈ a.collectedCerts, entry.1 ∈ a.localVehicleStates.map Prod.fst

lemma CertsRecorded.grows {a' : ArrivalState} (h : CertsRecorded a) (hgrows : Grows a a') : CertsRecorded a' := by
  intro entry hentry
  rcases hgrows.certs entry hentry with hold | hnew
  · exact (hgrows.states.map Prod.fst).subset (h entry hold)
  · exact hnew

lemma handleArrivalCert_records {cert : ArrivalCert} (app : AppState) (hcerts : CertsRecorded a)
    (hvalid : validateArrivalCert acfg cert = true) :
    cert.carId ∈ (handleArrivalCert acfg app a cert).1.localVehicleStates.map Prod.fst := by
  rw [handleArrivalCert]
  split_ifs with hdropped
  · rcases hdropped with hempty | hinvalid | hcollected
    · rw [validateArrivalCert, if_pos (Or.inr (Or.inl hempty))] at hvalid
      exact absurd hvalid Bool.false_ne_true
    · exact absurd (hinvalid.symm.trans hvalid) Bool.false_ne_true
    · obtain ⟨entry, hentry, hcar⟩ := List.mem_map.mp (lookup_isSome_iff.mp hcollected)
      exact hcar ▸ hcerts entry hentry
  · dsimp only
    split_ifs with hknown
    · exact lookup_isSome_iff.mp hknown
    · exact List.mem_cons_self

variable {vcfg : VehicleConfig} {n : VehicleNode} {carId : Bytes}

lemma CertsRecorded.step (n : VehicleNode) (ev : VehicleEvent) (h : CertsRecorded n.arrival) :
    CertsRecorded (vehicleStep vcfg n ev).arrival := by
  cases ev with
  | evidence ev other =>
    rw [vehicleStep]
    split
    · exact fun entry hentry => absurd hentry List.not_mem_nil
    · exact h
  | radio ev => exact h.grows (ev.grows n.arrivalNode n.gates)
  | _ => exact h

lemma certsRecorded_run (events : List VehicleEvent) : CertsRecorded (run (vehicleStep vcfg) .initial events).arrival :=
  @run_invariant _ _ (vehicleStep vcfg) (fun n => CertsRecorded n.arrival) CertsRecorded.step _ events
    fun _ hentry => absurd hentry List.not_mem_nil

structure Recorded (carId : Bytes) (n : VehicleNode) : Prop where
  state : carId ∈ n.arrival.localVehicleStates.map Prod.fst
  store : carId ∈ n.rollback.stores.localVehicleStates

def CandidateLists (carId : Bytes) (s : RollbackState) : Prop :=
  ∀ c, s.orderCandidate = some c → c.epoch = s.app.currentEpoch → carId ∈ c.stores.localVehicleStates

lemma mem_carsOf {α : Type*} {entries : List (Bytes × α)} : carId ∈ carsOf entries ↔ carId ∈ entries.map Prod.fst :=
  List.mem_dedup

lemma recorded_record {arrival : ArrivalState} {distances : List (Bytes × StoppedDistanceCert)}
    (h : carId ∈ arrival.localVehicleStates.map Prod.fst) : Recorded carId (n.record arrival distances) :=
  ⟨h, mem_carsOf.mpr h⟩

lemma takenIn_recorded {ev : RadioEvent} (hcerts : CertsRecorded n.arrival) (h : takenIn vcfg n ev = some carId) :
    Recorded carId (vehicleStep vcfg n (.radio ev)) := by
  refine recorded_record ?_
  have hannounced : ∀ (ev : ArrivalEvent) (fresh : ArrivalPerceptionSample) (sign : Bytes → Option Bytes),
      ev.witness = some (fresh, sign) →
      ((heard vcfg.toArrivalConfig n.arrivalNode ev).filter fun ann =>
        looksAt vcfg.toArrivalConfig n.arrival ann fresh).map ArrivalAnnouncement.carId = some carId →
      carId ∈ (arrivalStep vcfg.toArrivalConfig n.arrivalNode ev).1.arrival.localVehicleStates.map Prod.fst := by
    intro ev fresh sign hev htaken
    obtain ⟨ann, hann, rfl⟩ := Option.map_eq_some_iff.mp htaken
    obtain ⟨hheard, hlooks⟩ := Option.filter_eq_some_iff.mp hann
    rw [arrivalStep_witness vcfg.toArrivalConfig n.arrivalNode hev, hheard]
    exact considerAnnouncement_records n.rollback.app hlooks
  cases ev with
  | announcement payload fresh sign => exact hannounced _ fresh sign rfl h
  | announcementGossip inner fresh sign => exact hannounced _ fresh sign rfl h
  | cert c =>
    rw [takenIn] at h
    split at h
    next hvalid =>
      obtain rfl := Option.some.inj h
      exact handleArrivalCert_records n.rollback.app hcerts hvalid
    · exact absurd h (by simp)
  | announce measured sign => exact absurd h (by simp [takenIn])
  | echo e => exact absurd h (by simp [takenIn])
  | finalizeCert => exact absurd h (by simp [takenIn])

def staysInRound (cfg : VehicleConfig) (n : VehicleNode) : VehicleEvent → Bool
  | .evidence ev _ => !beginsRound cfg.toRollbackConfig n.rollback ev
  | _ => true

lemma Recorded.step (h : Recorded carId n) {ev : VehicleEvent} (hstays : staysInRound vcfg n ev = true) :
    Recorded carId (vehicleStep vcfg n ev) := by
  cases ev with
  | evidence ev other =>
    have hround : beginsRound vcfg.toRollbackConfig n.rollback ev = false := by simpa [staysInRound] using hstays
    rw [vehicleStep, if_neg (by rw [hround]; exact Bool.false_ne_true)]
    exact ⟨h.state, (evidenceStep_steady other hround).stores ▸ h.store⟩
  | discovery round collectsDistances deadline settle announcement =>
    refine ⟨h.state, ?_⟩
    rw [vehicleStep, discoveryStep]
    split <;> exact h.store
  | radio ev =>
    exact recorded_record (((ev.grows n.arrivalNode n.gates).states.map Prod.fst).subset h.state)
  | distanceCert cert => exact recorded_record h.state
  | ownDistanceCert cert => exact recorded_record h.state
  | orderReadiness engine =>
    refine ⟨h.state, ?_⟩
    rw [vehicleStep, (evaluateAndPropose_freezes n.rollback engine n.proposalCars).2.1]
    exact h.store

lemma frozenCandidate_lists (hstore : carId ∈ s.stores.localVehicleStates) (hlists : CandidateLists carId s) :
    carId ∈ (frozenCandidate cfg s).stores.localVehicleStates := by
  rw [frozenCandidate]
  split
  next c hc =>
    split
    next hepoch => exact hlists c hc hepoch
    · exact hstore
  · exact hstore

lemma CandidateLists.steady (h : CandidateLists carId s) (hsteady : Steady s s') : CandidateLists carId s' := by
  intro c hc hepoch
  rcases hsteady.candidate with hnone | hsame
  · exact absurd (hnone.symm.trans hc) (by simp)
  · exact h c (hsame.symm.trans hc) (hepoch.trans hsteady.epoch)

lemma CandidateLists.step (hrecorded : Recorded carId n) (h : CandidateLists carId n.rollback) {ev : VehicleEvent}
    (hstays : staysInRound vcfg n ev = true) : CandidateLists carId (vehicleStep vcfg n ev).rollback := by
  cases ev with
  | evidence ev other =>
    have hround : beginsRound vcfg.toRollbackConfig n.rollback ev = false := by simpa [staysInRound] using hstays
    rw [vehicleStep, if_neg (by rw [hround]; exact Bool.false_ne_true)]
    exact h.steady (evidenceStep_steady other hround)
  | discovery round collectsDistances deadline settle announcement =>
    rw [vehicleStep, discoveryStep]
    split
    · exact fun c hc => absurd hc (by simp [RollbackState.resetOrderCandidate])
    · exact h
  | orderReadiness engine =>
    obtain ⟨hepoch, -, hcandidate⟩ := @evaluateAndPropose_freezes vcfg.toRollbackConfig n.rollback engine n.proposalCars
    intro c hc hcurrent
    rw [vehicleStep] at hc hcurrent
    rcases hcandidate with hsame | hfrozen
    · exact h c (hsame.symm.trans hc) (hcurrent.trans hepoch)
    · obtain rfl := Option.some.inj (hfrozen.symm.trans hc)
      exact frozenCandidate_lists hrecorded.store h
  | _ => exact h

lemma Recorded.run {events : List VehicleEvent} (h : Recorded carId n)
    (hstays : Guarded (vehicleStep vcfg) (fun n ev => staysInRound vcfg n ev = true) n events) :
    Recorded carId (run (vehicleStep vcfg) n events) :=
  @Guarded.invariant _ _ _ _ (Recorded carId) (fun _ _ hn hok => hn.step hok) _ _ h hstays

lemma candidateLists_of_none (h : holdsCandidate s = false) : CandidateLists carId s := by
  intro c hc hepoch
  rw [holdsCandidate, hc, Option.any_some, hepoch] at h
  simp at h

lemma mem_packedIds {stores : DiscoveryStores} {cars : AmbulanceCars} (hlisted : carId ∈ stores.localVehicleStates)
    (heligible : packsCar cfg s cars.observed carId = true) : extractReplicaId carId ∈ packedIds cfg s stores cars := by
  rw [packedIds, List.mem_append]
  by_cases hsigned : extractReplicaId carId ∈ (stores.collectedCerts.filter fun carId =>
      packsCar cfg s cars.certified carId && decide (carId ∈ stores.collectedDistanceCerts)).map extractReplicaId
  · exact Or.inl hsigned
  · refine Or.inr (List.mem_filter.mpr ⟨?_, decide_eq_true hsigned⟩)
    exact List.mem_map_of_mem (List.mem_filter.mpr ⟨hlisted, heligible⟩)

theorem submittedIds_complete (cfg : VehicleConfig) (pre untilFreeze rest : List VehicleEvent) (ev : RadioEvent)
    (carId : Bytes) (engine : EngineAnswer) (ids : List ℤ)
    (htaken : takenIn cfg (run (vehicleStep cfg) .initial pre) ev = some carId)
    (hround : Guarded (vehicleStep cfg) (fun n ev => staysInRound cfg n ev = true)
      (run (vehicleStep cfg) .initial (pre ++ [.radio ev])) (untilFreeze ++ rest))
    (hopen : holdsCandidate (run (vehicleStep cfg) .initial (pre ++ [.radio ev] ++ untilFreeze)).rollback = false)
    (hids : submittedIds cfg (run (vehicleStep cfg) .initial (pre ++ [.radio ev] ++ untilFreeze ++ rest)) engine =
      some ids)
    (heligible : packsCar cfg.toRollbackConfig
      (run (vehicleStep cfg) .initial (pre ++ [.radio ev] ++ untilFreeze ++ rest)).rollback
      (run (vehicleStep cfg) .initial (pre ++ [.radio ev] ++ untilFreeze ++ rest)).proposalCars.observed carId = true) :
    extractReplicaId carId ∈ ids := by
  have hrecorded : Recorded carId (run (vehicleStep cfg) .initial (pre ++ [.radio ev])) := by
    rw [run_append]
    exact takenIn_recorded (certsRecorded_run pre) htaken
  obtain ⟨huntil, hrest⟩ := guarded_append.mp hround
  have hfreeze := hrecorded.run huntil
  rw [← run_append] at hrest hfreeze
  have hlists : ∀ n, Recorded carId n ∧ CandidateLists carId n.rollback → ∀ events,
      Guarded (vehicleStep cfg) (fun n ev => staysInRound cfg n ev = true) n events →
        Recorded carId (run (vehicleStep cfg) n events) ∧ CandidateLists carId (run (vehicleStep cfg) n events).rollback :=
    fun n hn events hstays => Guarded.invariant
      (fun n ev (h : Recorded carId n ∧ CandidateLists carId n.rollback) hok => ⟨h.1.step hok, h.2.step h.1 hok⟩) hn hstays
  obtain ⟨hend, hcandidate⟩ := hlists _ ⟨hfreeze, candidateLists_of_none hopen⟩ rest hrest
  rw [← run_append] at hend hcandidate
  obtain ⟨c, hsubmitted, rfl⟩ := Option.map_eq_some_iff.mp hids
  obtain ⟨-, rfl⟩ := submitted_some hsubmitted
  exact mem_packedIds (frozenCandidate_lists hend.store hcandidate) heligible

def fourVehicles : VehicleConfig :=
  { fourWitnesses with
    gossipEnabled := true
    hasPrivateKey := true
    cancelCertRetryMax := 10
    enableCancelLeaderFailover := true
    rollbackFaultModePerEpoch := true }

def vehicleRun (events : List VehicleEvent) : VehicleNode := run (vehicleStep fourVehicles) .initial events

def ownEvidence : List VehicleEvent :=
  [.discovery ⟨.collecting, 0, 0⟩ false false false false, .radio (.cert (stoppedCert "veh2" "N")),
    .distanceCert (stoppedAt "veh2" [12] 200)]

def roundComplete : VehicleEvent := .discovery ⟨.complete, 0, 0⟩ false false false false

def claimOfOne : RadioEvent :=
  .announcement (serializeArrivalAnnouncement fourWitnesses (signedWith [11] (northCar "veh1" 0 .left))) seenNorth
    fun toSign => some (checksum (fourWitnesses.publicKey ++ toSign))

theorem submittedIds_complete_claim :
    submittedIds fourVehicles (vehicleRun (ownEvidence ++ [.radio claimOfOne] ++ [] ++ [roundComplete])) ⟨true, 2⟩ =
        some [2, 1] ∧
      extractReplicaId (ascii "veh1") ∈ ([2, 1] : List ℤ) := by
  have hids : submittedIds fourVehicles (vehicleRun (ownEvidence ++ [.radio claimOfOne] ++ [] ++ [roundComplete]))
      ⟨true, 2⟩ = some [2, 1] := by decide +kernel
  refine ⟨hids, submittedIds_complete fourVehicles ownEvidence [] [roundComplete] claimOfOne (ascii "veh1") ⟨true, 2⟩
    [2, 1] (by decide +kernel) ?_ (by decide +kernel) hids (by decide +kernel)⟩
  exact ⟨rfl, trivial⟩

def roundDrains : VehicleEvent := .discovery ⟨.drainingCerts, 0, 0⟩ false false false false

def viewChangeSeen (requested authoritative : Bool) : VehicleEvent :=
  .evidence (.rollback (.viewChange requested authoritative) rfl) rfl

def following : List VehicleEvent :=
  ownEvidence ++ [.radio (.cert (stoppedCert "veh0" "S")), .distanceCert (stoppedAt "veh0" [10] 100), roundComplete,
    .orderReadiness ⟨true, 0⟩]

-- car 1 announces itself to the primary 2 while the certificates drain, and has its certificate at the follower 2
-- before a view change makes that the primary
theorem lateCar_unlisted :
    ((authenticAnnouncement fourVehicles.toArrivalConfig
        (serializeArrivalAnnouncement fourWitnesses (signedWith [11] (northCar "veh1" 0 .left)))).isSome = true ∧
      submittedIds fourVehicles (vehicleRun (ownEvidence ++ [roundDrains, .radio claimOfOne, roundComplete])) ⟨true, 2⟩ =
        some [2]) ∧
    (takenIn fourVehicles (vehicleRun following) (.cert (stoppedCert "veh1" "N")) = some (ascii "veh1") ∧
      submittedIds fourVehicles (vehicleRun (following ++ [.radio (.cert (stoppedCert "veh1" "N")),
        viewChangeSeen true false, viewChangeSeen true true])) ⟨true, 2⟩ = some [0, 2]) ∧
    packsCar fourVehicles.toRollbackConfig (vehicleRun following).rollback [] (ascii "veh1") = true := by
  decide +kernel

end V2vBft.Rollback
