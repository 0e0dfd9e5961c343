import V2vBft.Rollback.Redelivery
import V2vBft.Rollback.SignedPacket
import V2vBft.App.DecisionCodec
import V2vBft.App.ClearCertText

namespace V2vBft.Rollback

open Wire App Arrival Library.GuardedRun

variable {cfg : RollbackConfig} {s : RollbackState} {registry : List (BlockedIncident × IncidentRecord)}

def clearPropagationMembers (cfg : RollbackConfig) (s : RollbackState) : List ℤ :=
  let certified := (s.stores.collectedCerts.map extractReplicaId).filter (shouldIncludeInRollbackMembership cfg s)
  let members := (certified.insertionSort (· ≤ ·)).dedup
  if members = [] then
    ((List.range cfg.totalVehicles.toNat).map Nat.cast).filter (shouldIncludeInRollbackMembership cfg s)
  else members

def carriedClear (cfg : RollbackConfig) (s : RollbackState) (carrier : ℤ) (packet : Bytes) : Option (ClearCert × Bytes) :=
  (unpackSignedPacket packet).bind fun view =>
    if decide (carrier ∈ clearPropagationMembers cfg s) &&
        (s.app.witnessContext cfg.toAppConfig).keyMatches carrier view.pubKey &&
        cfg.verifyBytes view.pubKey view.content view.sig then
      ((deserializeClearCert view.content).filter fun cert =>
        !cert.echoes.isEmpty && validateClearCert (s.app.witnessContext cfg.toAppConfig) cert).map fun cert =>
          (cert, view.content)
    else none

def clearedIncident (cert : ClearCert) : BlockedIncident := ⟨cert.cancelledEpoch, cert.executingBatch⟩

-- the readiness evaluation behind onIncidentCleared is an event of its own
def handleClearCert (cfg : RollbackConfig) (s : RollbackState) (carrier : ℤ) (packet : Bytes) : RollbackState :=
  if !cfg.enableRollback then s
  else
    match carriedClear cfg s carrier packet with
    | none => s
    | some (cert, rawCert) => onIncidentCleared s (clearedIncident cert) rawCert

def broadcastClearCert (cfg : RollbackConfig) (s : RollbackState) (cert : ClearCert) : RollbackState :=
  if validateClearCert (s.app.witnessContext cfg.toAppConfig) cert then
    onIncidentCleared s (clearedIncident cert) (serializeClearCert cert)
  else s

def parsedCerts (certs : List Bytes) : Option (List (ClearCert × Bytes)) :=
  certs.mapM fun bytes => (deserializeClearCert bytes).map fun cert => (cert, bytes)

def validClears (ctx : WitnessContext) (certs : List (ClearCert × Bytes)) : List (BlockedIncident × Bytes) :=
  (certs.filter fun c => !c.1.echoes.isEmpty && validateClearCert ctx c.1).map fun c => (clearedIncident c.1, c.2)

def OrderDecision.vehicles (order : OrderDecision) : List ℤ := order.decisions.map VehicleDecision.replicaId

-- the committed view is the new ORDER's when its trailer is looked at
def newView (cfg : RollbackConfig) (s : RollbackState) (vehicles : List ℤ) : WitnessContext :=
  { s.app.witnessContext cfg.toAppConfig with committedOrderVehicleIds := vehicles }

def admitted (s : RollbackState) (completed : Bool) : Option (Bytes × OrderDecision) :=
  match s.app.pendingOrders with
  | [] => none
  | dec :: rest =>
    if isCancelDecision dec then none
    else (admittedOrder { s.app with pendingOrders := rest } dec completed).map fun order => (dec, order)

def processTrailedOrder (cfg : RollbackConfig) (s : RollbackState) (completed : Bool) (sense : Sense) :
    Option RollbackState :=
  match admitted s completed with
  | none => some (processOrder cfg s completed [] sense)
  | some (dec, order) =>
    (parsedCerts (decisionClearCerts dec)).map fun certs =>
      processOrder cfg s completed (validClears (newView cfg s (OrderDecision.vehicles order)) certs) sense

def bringsClears : RollbackEvent → Bool
  | .clearCert _ _ => true
  | .processOrder _ _ _ => true
  | _ => false

inductive EvidenceEvent
  | rollback (ev : RollbackEvent) (plain : bringsClears ev = false)
  | order (completed : Bool) (sense : Sense)
  | clearCert (carrier : ℤ) (packet : Bytes)
  | clearCertFormed (cert : ClearCert)

-- an exception ends the simulation
def evidenceStep (cfg : RollbackConfig) (s : RollbackState) : EvidenceEvent → RollbackState
  | .rollback ev _ => rollbackStep cfg s ev
  | .order completed sense => (processTrailedOrder cfg s completed sense).getD s
  | .clearCert carrier packet => handleClearCert cfg s carrier packet
  | .clearCertFormed cert => broadcastClearCert cfg s cert

inductive EvidenceOutcome (cfg : RollbackConfig) (s : RollbackState) : EvidenceEvent → RollbackState → Prop
  | rollback (ev : RollbackEvent) (plain : bringsClears ev = false) :
      EvidenceOutcome cfg s (.rollback ev plain) (rollbackStep cfg s ev)
  | order (completed : Bool) (clears : List (BlockedIncident × Bytes)) (sense : Sense) :
      EvidenceOutcome cfg s (.order completed sense) (processOrder cfg s completed clears sense)
  | recorded (ev : EvidenceEvent) (registry : List (BlockedIncident × IncidentRecord)) :
      EvidenceOutcome cfg s ev { s with incidentRegistry := registry }

lemma evidenceStep_outcome (cfg : RollbackConfig) (s : RollbackState) (ev : EvidenceEvent) :
    EvidenceOutcome cfg s ev (evidenceStep cfg s ev) := by
  have hsame : EvidenceOutcome cfg s ev s := .recorded ev s.incidentRegistry
  cases ev with
  | rollback ev plain => exact .rollback ev plain
  | order completed sense =>
    rw [evidenceStep, processTrailedOrder]
    split
    · exact .order completed [] sense
    next dec order _ =>
      cases parsedCerts (decisionClearCerts dec) with
      | none => exact hsame
      | some certs => exact .order completed _ sense
  | clearCert carrier packet =>
    rw [evidenceStep, handleClearCert]
    split
    · exact hsame
    · split
      · exact hsame
      · exact .recorded _ _
  | clearCertFormed cert =>
    rw [evidenceStep, broadcastClearCert]
    split
    · exact .recorded _ _
    · exact hsame

inductive Evidence
  | blocked (incident : BlockedIncident)
  | clear (incident : BlockedIncident) (clearCertBytes : Bytes)
  deriving DecidableEq

abbrev IncidentRegistry := List (BlockedIncident × IncidentRecord)

def absorb (registry : IncidentRegistry) : Evidence → IncidentRegistry
  | .blocked incident => if incident ∈ registry.map Prod.fst then registry else registry ++ [(incident, ⟨false, []⟩)]
  | .clear incident clearCertBytes =>
    registry.map fun entry =>
      if entry.1 = incident ∧ entry.2.cleared = false then (entry.1, ⟨true, clearCertBytes⟩) else entry

def blockedBy (ctx : WitnessContext) (cert : CancelCert) : List Evidence :=
  if validateCancelCert ctx cert && decide (cert.reason = cancelCrash) then
    ((parseBlockedBatchRef cert.reasonRef).map Evidence.blocked).toList
  else []

def rollbackEvidence (cfg : RollbackConfig) (s : RollbackState) : RollbackEvent → List Evidence
  | .cancelCert _ payload _ =>
    if cfg.enableRollback then
      (deserializeCancelCert payload).toList.flatMap (blockedBy (s.app.witnessContext cfg.toAppConfig))
    else []
  | .cancelCertFormed cert _ _ => blockedBy (s.app.witnessContext cfg.toAppConfig) cert
  | .clearancePoll formed _ _ =>
    if s.app.pollScheduled && cfg.enableRollback then
      formed.flatMap fun c => blockedBy (s.app.witnessContext cfg.toAppConfig) c.1
    else []
  | _ => []

def clearedBy (clears : List (BlockedIncident × Bytes)) : List Evidence := clears.map fun clear => .clear clear.1 clear.2

def trailerEvidence (cfg : RollbackConfig) (s : RollbackState) (completed : Bool) : List Evidence :=
  match admitted s completed with
  | none => []
  | some (dec, order) =>
    ((parsedCerts (decisionClearCerts dec)).map fun certs =>
      clearedBy (validClears (newView cfg s (OrderDecision.vehicles order)) certs)).getD []

def evidence (cfg : RollbackConfig) (s : RollbackState) : EvidenceEvent → List Evidence
  | .rollback ev _ => rollbackEvidence cfg s ev
  | .order completed _ => trailerEvidence cfg s completed
  | .clearCert carrier packet =>
    if cfg.enableRollback then
      (carriedClear cfg s carrier packet).toList.map fun c => .clear (clearedIncident c.1) c.2
    else []
  | .clearCertFormed cert =>
    if validateClearCert (s.app.witnessContext cfg.toAppConfig) cert then
      [.clear (clearedIncident cert) (serializeClearCert cert)]
    else []

def received (cfg : RollbackConfig) (s : RollbackState) (events : List EvidenceEvent) : List Evidence :=
  collect (evidenceStep cfg) (evidence cfg) s events

inductive IncidentState
  | unknown
  | blocking
  | cleared
  deriving DecidableEq

def IncidentRecord.state (record : IncidentRecord) : IncidentState := if record.cleared then .cleared else .blocking

def stateIn (registry : IncidentRegistry) (incident : BlockedIncident) : IncidentState :=
  ((registry.lookup incident).map IncidentRecord.state).getD .unknown

def incidentState (s : RollbackState) (incident : BlockedIncident) : IncidentState := stateIn s.incidentRegistry incident

def advance (incident : BlockedIncident) (state : IncidentState) : Evidence → IncidentState
  | .blocked i => if i = incident ∧ state = .unknown then .blocking else state
  | .clear i _ => if i = incident ∧ state = .blocking then .cleared else state

def BlockedThenClear (incident : BlockedIncident) (es : List Evidence) : Prop :=
  ∃ clearCertBytes, [Evidence.blocked incident, .clear incident clearCertBytes].Sublist es

def ClearThenBlocked (incident : BlockedIncident) (es : List Evidence) : Prop :=
  ∃ clearCertBytes, [Evidence.clear incident clearCertBytes, .blocked incident].Sublist es

lemma carriedClear_valid {carrier : ℤ} {packet clearCertBytes : Bytes} {cert : ClearCert}
    (h : carriedClear cfg s carrier packet = some (cert, clearCertBytes)) :
    deserializeClearCert clearCertBytes = some cert ∧ cert.echoes.isEmpty = false ∧
      validateClearCert (s.app.witnessContext cfg.toAppConfig) cert = true := by
  rw [carriedClear] at h
  obtain ⟨view, -, hview⟩ := Option.bind_eq_some_iff.mp h
  split at hview
  · obtain ⟨cert', hfilter, hpair⟩ := Option.map_eq_some_iff.mp hview
    obtain ⟨rfl, rfl⟩ := Prod.mk.inj hpair
    obtain ⟨hparse, hvalid⟩ := Option.filter_eq_some_iff.mp hfilter
    rw [Bool.and_eq_true, Bool.not_eq_true'] at hvalid
    exact ⟨hparse, hvalid⟩
  · exact absurd hview (by simp)

lemma parsedCerts_mem {certs : List Bytes} {parsed : List (ClearCert × Bytes)} (h : parsedCerts certs = some parsed)
    {cert : ClearCert × Bytes} (hmem : cert ∈ parsed) : deserializeClearCert cert.2 = some cert.1 := by
  obtain ⟨bytes, -, hread⟩ := mapM_some_mem h hmem
  obtain ⟨read, hparse, rfl⟩ := Option.map_eq_some_iff.mp hread
  exact hparse

lemma handleValidCancelJustification_registry (s : RollbackState) (cert : CancelCert) (justification : Bytes)
    (sense : Sense) :
    (handleValidCancelJustification cfg s cert justification sense).incidentRegistry = s.incidentRegistry := by
  rw [handleValidCancelJustification]
  split
  · rw [beginCancelDrain]
    repeat' split
    all_goals rfl
  · rfl

lemma registerBlockedIncidentIfCrash_registry (s : RollbackState) (cert : CancelCert) (ctx : WitnessContext)
    (hvalid : validateCancelCert ctx cert = true) :
    (registerBlockedIncidentIfCrash s cert).incidentRegistry = (blockedBy ctx cert).foldl absorb s.incidentRegistry := by
  rw [registerBlockedIncidentIfCrash, blockedBy, hvalid, Bool.true_and]
  by_cases hcrash : cert.reason = cancelCrash
  · rw [if_neg (not_not.mpr hcrash), if_pos (decide_eq_true hcrash)]
    cases parseBlockedBatchRef cert.reasonRef with
    | none => rfl
    | some incident =>
      dsimp only [Option.map_some, Option.toList_some, List.foldl_cons, List.foldl_nil, absorb]
      split <;> rfl
  · rw [if_pos hcrash, if_neg (by simpa using hcrash)]
    rfl

lemma broadcastCancelCert_registry (s : RollbackState) (cert : CancelCert) (payload : Bytes) (sense : Sense) :
    (broadcastCancelCert cfg s cert payload sense).incidentRegistry =
      (blockedBy (s.app.witnessContext cfg.toAppConfig) cert).foldl absorb s.incidentRegistry := by
  rw [broadcastCancelCert]
  split
  next hvalid =>
    rw [handleValidCancelJustification_registry, scheduleNextCancelCertRetry_eq]
    exact registerBlockedIncidentIfCrash_registry s cert _ hvalid
  next hinvalid =>
    rw [blockedBy, Bool.and_eq_false_imp.mpr fun h => absurd h hinvalid]
    rfl

lemma handleCancelCert_registry (s : RollbackState) (senderId : ℤ) (payload : Bytes) (sense : Sense) :
    (handleCancelCert cfg s senderId payload sense).incidentRegistry =
      (rollbackEvidence cfg s (.cancelCert senderId payload sense)).foldl absorb s.incidentRegistry := by
  rw [handleCancelCert, rollbackEvidence]
  cases hcert : deserializeCancelCert payload with
  | none => simp
  | some cert =>
    cases henable : cfg.enableRollback with
    | false => simp
    | true =>
      dsimp only [Bool.not_true, Bool.false_or, Option.toList_some]
      rw [if_pos rfl, List.flatMap_singleton]
      split
      next href =>
        have hnone : parseBlockedBatchRef cert.reasonRef = none := by rw [of_decide_eq_true href]; rfl
        rw [blockedBy, hnone]
        split <;> rfl
      next =>
        split
        next hvalid =>
          have hregister := registerBlockedIncidentIfCrash_registry s cert _ hvalid
          split
          · rw [handleValidCancelJustification_registry]
            exact hregister
          · exact hregister
        next hinvalid =>
          rw [blockedBy, Bool.and_eq_false_imp.mpr fun h => absurd h hinvalid]
          rfl

lemma broadcastCancelCert_view (s : RollbackState) (cert : CancelCert) (payload : Bytes) (sense : Sense) :
    (broadcastCancelCert cfg s cert payload sense).app.witnessContext cfg.toAppConfig =
      s.app.witnessContext cfg.toAppConfig := by
  rw [(broadcastCancelCert_app cfg s cert payload sense).1, App.broadcastCancelCert]
  split
  · rw [App.handleValidCancelJustification]
    repeat' split
    all_goals rfl
  · rfl

lemma perceiveCrashes_registry (formed : List (CancelCert × Bytes)) (s : RollbackState) (sense : Sense) :
    (perceiveCrashes cfg s formed sense).incidentRegistry =
      (formed.flatMap fun c => blockedBy (s.app.witnessContext cfg.toAppConfig) c.1).foldl absorb s.incidentRegistry := by
  induction formed generalizing s with
  | nil => rfl
  | cons c formed ih =>
    have htail := ih (broadcastCancelCert cfg s c.1 c.2 sense)
    rw [broadcastCancelCert_view, broadcastCancelCert_registry] at htail
    rw [List.flatMap_cons, List.foldl_append, ← htail]
    rfl

lemma foldl_onIncidentCleared_registry (clears : List (BlockedIncident × Bytes)) (s : RollbackState) :
    (clears.foldl (fun s clear => onIncidentCleared s clear.1 clear.2) s).incidentRegistry =
      (clearedBy clears).foldl absorb s.incidentRegistry := by
  induction clears generalizing s with
  | nil => rfl
  | cons clear clears ih => exact ih _

lemma completeRollback_registry (s : RollbackState) (order : OrderDecision) :
    (completeRollback s order).incidentRegistry = s.incidentRegistry := by
  rw [completeRollback]
  split <;> rfl

lemma applyOrder_registry (s : RollbackState) (order : OrderDecision) (clears : List (BlockedIncident × Bytes))
    (now : ℤ) :
    (applyOrder cfg s order clears now).incidentRegistry =
      (clearedBy clears).foldl absorb s.incidentRegistry := by
  have hfold := foldl_onIncidentCleared_registry clears s.clearConsensusRetries
  rw [applyOrder]
  dsimp only
  split
  · exact (completeRollback_registry _ order).trans hfold
  · exact (completeRollback_registry _ order).trans hfold

lemma beginPostCancelDiscovery_registry (s : RollbackState) (e : ℕ) (reason : ℤ) (ref justification : Bytes)
    (sense : Sense) :
    (beginPostCancelDiscovery cfg s e reason ref justification sense).incidentRegistry = s.incidentRegistry := by
  rw [beginPostCancelDiscovery]
  split
  · rfl
  · rw [armDiscoveryTimers_eq, startDiscoveryRound]
    split
    · rfl
    · dsimp only
      split
      · rw [armDiscoveryTimers_eq]
        rfl
      · rfl

lemma processOrder_registry (s : RollbackState) (completed : Bool) (clears : List (BlockedIncident × Bytes))
    (sense : Sense) :
    (processOrder cfg s completed clears sense).incidentRegistry =
      (match admitted s completed with
        | none => []
        | some _ => clearedBy clears).foldl absorb s.incidentRegistry := by
  rw [processOrder, admitted]
  cases s.app.pendingOrders with
  | nil => rfl
  | cons dec rest =>
    dsimp only
    cases isCancelDecision dec with
    | true =>
      rw [if_pos rfl, if_pos rfl, handleCancelCommitDecision_eq, beginPostCancelDiscovery_registry, settleCommitted_eq]
      rfl
    | false =>
      rw [if_neg (by simp), if_neg (by simp)]
      cases admittedOrder { s.app with pendingOrders := rest } dec completed with
      | none => rfl
      | some order => exact applyOrder_registry _ order clears sense.now

lemma trailedOrder_registry (s : RollbackState) (completed : Bool) (sense : Sense) :
    ((processTrailedOrder cfg s completed sense).getD s).incidentRegistry =
      (trailerEvidence cfg s completed).foldl absorb s.incidentRegistry := by
  rw [processTrailedOrder, trailerEvidence]
  cases hadmit : admitted s completed with
  | none =>
    dsimp only
    rw [Option.getD_some, processOrder_registry, hadmit]
  | some taken =>
    obtain ⟨dec, order⟩ := taken
    dsimp only
    cases parsedCerts (decisionClearCerts dec) with
    | none => rfl
    | some certs =>
      rw [Option.map_some, Option.map_some, Option.getD_some, Option.getD_some, processOrder_registry, hadmit]

lemma handleCancelCommitGossip_registry (s : RollbackState) (senderId : ℤ) (inner : Bytes) (sense : Sense) :
    (handleCancelCommitGossip cfg s senderId inner sense).incidentRegistry = s.incidentRegistry := by
  cases hadopt : adoptedAttestation cfg.toAppConfig s.app senderId inner with
  | none => simp only [handleCancelCommitGossip, hadopt]
  | some dec =>
    rw [handleCancelCommitGossip_adopted _ hadopt, beginPostCancelDiscovery_registry, settleAdopted_eq]

structure Undisturbed (s s' : RollbackState) : Prop where
  view : s'.app.committedOrderVehicleIds = s.app.committedOrderVehicleIds
  epoch : s'.app.currentEpoch = s.app.currentEpoch
  cancelled : s'.app.cancelledEpoch = s.app.cancelledEpoch
  pending : s'.app.cancelPending = s.app.cancelPending
  newEpoch : s'.app.rollbackNewEpoch = s.app.rollbackNewEpoch
  departed : s'.departed = s.departed
  recallable : s'.rollbackLocalRecallable = s.rollbackLocalRecallable
  discovery : s'.discovery = s.discovery
  stores : s'.stores = s.stores
  expected : s'.rollbackExpectedMembershipSize = s.rollbackExpectedMembershipSize
  candidate : s'.orderCandidate = s.orderCandidate
  registry : s'.incidentRegistry = s.incidentRegistry

lemma Undisturbed.trans {s t u : RollbackState} (h : Undisturbed s t) (h' : Undisturbed t u) : Undisturbed s u where
  view := h'.view.trans h.view
  epoch := h'.epoch.trans h.epoch
  cancelled := h'.cancelled.trans h.cancelled
  pending := h'.pending.trans h.pending
  newEpoch := h'.newEpoch.trans h.newEpoch
  departed := h'.departed.trans h.departed
  recallable := h'.recallable.trans h.recallable
  discovery := h'.discovery.trans h.discovery
  stores := h'.stores.trans h.stores
  expected := h'.expected.trans h.expected
  candidate := h'.candidate.trans h.candidate
  registry := h'.registry.trans h.registry

lemma proposeCancel_undisturbed (s : RollbackState) : Undisturbed s (proposeCancel cfg s) := by
  rw [proposeCancel]
  repeat' split
  all_goals constructor <;> rfl

lemma trySubmitCancelProposal_undisturbed (s : RollbackState) : Undisturbed s (trySubmitCancelProposal cfg s) := by
  rw [trySubmitCancelProposal]
  dsimp only
  repeat' split
  all_goals first
    | constructor <;> rfl
    | refine Undisturbed.trans ?_ (proposeCancel_undisturbed _)
      constructor <;> rfl

lemma sendCancelEcho_undisturbed (s : RollbackState) (fresh : Bool) : Undisturbed s (sendCancelEcho cfg s fresh) := by
  rw [sendCancelEcho]
  repeat' split
  all_goals constructor <;> rfl

def standsAside : RollbackEvent → Bool
  | .cancelCert _ _ _ | .cancelCertFormed _ _ _ | .clearancePoll _ _ _ | .cancelCommitGossip _ _ _ | .depart
  | .processOrder _ _ _ | .clearCert _ _ | .orderReadiness _ | .discovery _ _ _ _ _ => false
  | _ => true

lemma rollbackStep_undisturbed (s : RollbackState) {ev : RollbackEvent} (haside : standsAside ev = true) :
    Undisturbed s (rollbackStep cfg s ev) := by
  cases ev with
  | cancelCert _ _ _ | cancelCertFormed _ _ _ | clearancePoll _ _ _ | cancelCommitGossip _ _ _ | depart
  | processOrder _ _ _ | clearCert _ _ | orderReadiness _ | discovery _ _ _ _ _ =>
    exact absurd haside Bool.false_ne_true
  | decisionGossip senderId inner completed =>
    rw [rollbackStep, handleDecisionGossip]
    split
    · rw [recordOrderVote]
      repeat' split
      all_goals constructor <;> rfl
    · constructor <;> rfl
  | resumeTimer =>
    rw [rollbackStep, resumeTimer]
    dsimp only
    repeat' split
    all_goals constructor <;> rfl
  | orderTimeout =>
    rw [rollbackStep, orderTimeout]
    split <;> constructor <;> rfl
  | crashSeen fresh => exact sendCancelEcho_undisturbed s fresh
  | emergencySeen rid fresh =>
    rw [rollbackStep, maybeTriggerEmergencyRollback]
    repeat' split
    all_goals first
      | constructor <;> rfl
      | refine Undisturbed.trans ?_ (sendCancelEcho_undisturbed _ fresh)
        constructor <;> rfl
  | cancelDrainTimer =>
    rw [rollbackStep, cancelDrainTimer]
    dsimp only
    repeat' split
    all_goals first
      | constructor <;> rfl
      | refine Undisturbed.trans ?_ (trySubmitCancelProposal_undisturbed _)
        constructor <;> rfl
  | cancelVcTimer =>
    rw [rollbackStep, cancelVcTimer]
    split
    · constructor <;> rfl
    · refine Undisturbed.trans ?_ (trySubmitCancelProposal_undisturbed _)
      constructor <;> rfl
  | cancelCertRetryTimer =>
    rw [rollbackStep, cancelCertRetryTimer]
    dsimp only
    repeat' split
    all_goals first
      | constructor <;> rfl
      | rw [scheduleNextCancelCertRetry_eq]; constructor <;> rfl
  | cancelGossipTimer =>
    simp only [rollbackStep, cancelGossipTimer]
    repeat' split
    all_goals constructor <;> rfl
  | orderDecided _ | disableCrashComms | consensus _ _ | viewChange _ _ | enterStopZone => constructor <;> rfl

lemma clearancePoll_registry (s : RollbackState) (formed : List (CancelCert × Bytes)) (cleared : List ℤ) (sense : Sense) :
    (clearancePoll cfg s formed cleared sense).incidentRegistry =
      (rollbackEvidence cfg s (.clearancePoll formed cleared sense)).foldl absorb s.incidentRegistry := by
  rw [clearancePoll, rollbackEvidence]
  cases s.app.pollScheduled with
  | false => rfl
  | true =>
    cases cfg.enableRollback with
    | false => rfl
    | true => exact perceiveCrashes_registry formed { s with app := { s.app with pollScheduled := false } } sense

lemma rollbackEvidence_aside {ev : RollbackEvent} (haside : standsAside ev = true) : rollbackEvidence cfg s ev = [] := by
  cases ev <;> first | rfl | exact absurd haside Bool.false_ne_true

lemma rollbackStep_registry (s : RollbackState) (ev : RollbackEvent) (hplain : bringsClears ev = false) :
    (rollbackStep cfg s ev).incidentRegistry = (rollbackEvidence cfg s ev).foldl absorb s.incidentRegistry := by
  cases haside : standsAside ev with
  | true =>
    rw [rollbackEvidence_aside haside]
    exact (rollbackStep_undisturbed s haside).registry
  | false =>
    cases ev with
    | processOrder _ _ _ | clearCert _ _ => exact absurd hplain (by simp [bringsClears])
    | cancelCert senderId payload sense => exact handleCancelCert_registry s senderId payload sense
    | cancelCertFormed cert payload sense => exact broadcastCancelCert_registry s cert payload sense
    | cancelCommitGossip senderId inner sense => exact handleCancelCommitGossip_registry s senderId inner sense
    | clearancePoll formed cleared sense => exact clearancePoll_registry s formed cleared sense
    | orderReadiness engine =>
      rw [rollbackStep, evaluateOrderReadiness]
      split <;> rfl
    | discovery _ _ _ _ _ | depart => rfl
    | _ => exact absurd haside (by simp [standsAside])

lemma evidenceStep_registry (s : RollbackState) (ev : EvidenceEvent) :
    (evidenceStep cfg s ev).incidentRegistry = (evidence cfg s ev).foldl absorb s.incidentRegistry := by
  cases ev with
  | rollback ev hplain => exact rollbackStep_registry s ev hplain
  | order completed sense => exact trailedOrder_registry s completed sense
  | clearCert carrier packet =>
    rw [evidenceStep, handleClearCert, evidence]
    cases cfg.enableRollback with
    | false => rfl
    | true => cases carriedClear cfg s carrier packet <;> rfl
  | clearCertFormed cert =>
    rw [evidenceStep, broadcastClearCert, evidence]
    split <;> rfl

lemma lookup_eq_none {incident : BlockedIncident} :
    registry.lookup incident = none ↔ incident ∉ registry.map Prod.fst := by
  simp only [List.lookup_eq_none_iff, List.mem_map, not_exists, not_and, bne_iff_ne]
  exact forall₂_congr fun _ _ => ne_comm

lemma lookup_cleared (i incident : BlockedIncident) (clearCertBytes : Bytes) :
    (absorb registry (.clear i clearCertBytes)).lookup incident = (registry.lookup incident).map fun record =>
      if incident = i ∧ record.cleared = false then ⟨true, clearCertBytes⟩ else record := by
  induction registry with
  | nil => rfl
  | cons entry registry ih =>
    obtain ⟨key, record⟩ := entry
    have hkey : ∀ r : IncidentRecord, (if key = i ∧ record.cleared = false then (key, r) else (key, record)) =
        (key, if key = i ∧ record.cleared = false then r else record) := by
      intro r
      split <;> rfl
    rw [absorb] at ih ⊢
    rw [List.map_cons, hkey, List.lookup_cons, List.lookup_cons, ih]
    by_cases heq : incident = key
    · have hfound : (incident == key) = true := beq_iff_eq.mpr heq
      simp only [hfound, Option.map_some]
      rw [heq]
    · have hother : (incident == key) = false := beq_false_of_ne heq
      simp only [hother]

lemma IncidentRecord.state_known (record : IncidentRecord) : record.state ≠ .unknown := by
  rw [IncidentRecord.state]
  split <;> simp

lemma stateIn_unknown {incident : BlockedIncident} :
    stateIn registry incident = .unknown ↔ incident ∉ registry.map Prod.fst := by
  rw [← lookup_eq_none, stateIn]
  cases registry.lookup incident with
  | none => exact iff_of_true rfl rfl
  | some record => exact iff_of_false record.state_known (by simp)

lemma stateIn_absorb (registry : IncidentRegistry) (e : Evidence) (incident : BlockedIncident) :
    stateIn (absorb registry e) incident = advance incident (stateIn registry incident) e := by
  cases e with
  | blocked i =>
    rw [absorb, advance]
    split
    next hmem =>
      rw [if_neg]
      rintro ⟨rfl, hunknown⟩
      exact stateIn_unknown.mp hunknown hmem
    next hnew =>
      rw [stateIn, List.lookup_append, List.lookup_cons, List.lookup_nil]
      by_cases heq : incident = i
      · subst heq
        rw [if_pos ⟨rfl, stateIn_unknown.mpr hnew⟩, lookup_eq_none.mpr hnew]
        simp [IncidentRecord.state]
      · rw [if_neg fun h => heq h.1.symm, beq_false_of_ne heq]
        simp [stateIn]
  | clear i clearCertBytes =>
    rw [stateIn, lookup_cleared, advance, stateIn]
    cases registry.lookup incident with
    | none => simp
    | some record =>
      by_cases heq : incident = i
      · subst heq
        cases hcleared : record.cleared <;> simp [IncidentRecord.state, hcleared]
      · simp [heq, Ne.symm heq]

lemma stateIn_foldl_absorb (es : List Evidence) (registry : IncidentRegistry) (incident : BlockedIncident) :
    stateIn (es.foldl absorb registry) incident = es.foldl (advance incident) (stateIn registry incident) := by
  induction es generalizing registry with
  | nil => rfl
  | cons e es ih => rw [List.foldl_cons, List.foldl_cons, ih, stateIn_absorb]

lemma foldl_advance_cleared (incident : BlockedIncident) (es : List Evidence) :
    es.foldl (advance incident) .cleared = .cleared := by
  induction es with
  | nil => rfl
  | cons e es ih =>
    have hstays : advance incident .cleared e = .cleared := by cases e <;> simp [advance]
    rw [List.foldl_cons, hstays, ih]

lemma foldl_advance_blocking (incident : BlockedIncident) (es : List Evidence) :
    es.foldl (advance incident) .blocking = .cleared ↔ ∃ clearCertBytes, Evidence.clear incident clearCertBytes ∈ es := by
  induction es with
  | nil => simp
  | cons e es ih =>
    rw [List.foldl_cons]
    by_cases hclear : ∃ clearCertBytes, e = .clear incident clearCertBytes
    · obtain ⟨clearCertBytes, rfl⟩ := hclear
      have hcleared : advance incident .blocking (.clear incident clearCertBytes) = .cleared := by simp [advance]
      rw [hcleared]
      exact iff_of_true (foldl_advance_cleared incident es) ⟨clearCertBytes, List.mem_cons_self⟩
    · have hstays : advance incident .blocking e = .blocking := by
        cases e with
        | blocked i => simp [advance]
        | clear i clearCertBytes =>
          have hother : i ≠ incident := fun h => hclear ⟨clearCertBytes, by rw [h]⟩
          simp [advance, hother]
      rw [hstays, ih]
      refine exists_congr fun clearCertBytes => ?_
      rw [List.mem_cons, or_iff_right fun h => hclear ⟨clearCertBytes, h.symm⟩]

lemma blockedThenClear_cons {incident : BlockedIncident} {e : Evidence} {es : List Evidence} :
    BlockedThenClear incident (e :: es) ↔ BlockedThenClear incident es ∨
      e = .blocked incident ∧ ∃ clearCertBytes, Evidence.clear incident clearCertBytes ∈ es := by
  simp only [BlockedThenClear, List.sublist_cons_iff, List.cons.injEq]
  constructor
  · rintro ⟨clearCertBytes, hold | ⟨rest, ⟨rfl, rfl⟩, hsub⟩⟩
    · exact Or.inl ⟨clearCertBytes, hold⟩
    · exact Or.inr ⟨rfl, clearCertBytes, List.singleton_sublist.mp hsub⟩
  · rintro (⟨clearCertBytes, hold⟩ | ⟨rfl, clearCertBytes, hmem⟩)
    · exact ⟨clearCertBytes, Or.inl hold⟩
    · exact ⟨clearCertBytes, Or.inr ⟨_, ⟨rfl, rfl⟩, List.singleton_sublist.mpr hmem⟩⟩

lemma BlockedThenClear.clear_mem {incident : BlockedIncident} {es : List Evidence} (h : BlockedThenClear incident es) :
    ∃ clearCertBytes, Evidence.clear incident clearCertBytes ∈ es := by
  obtain ⟨clearCertBytes, hsub⟩ := h
  exact ⟨clearCertBytes, hsub.subset (by simp)⟩

lemma foldl_advance_unknown (incident : BlockedIncident) (es : List Evidence) :
    es.foldl (advance incident) .unknown = .cleared ↔ BlockedThenClear incident es := by
  induction es with
  | nil => simp [BlockedThenClear]
  | cons e es ih =>
    rw [List.foldl_cons, blockedThenClear_cons]
    by_cases hblocked : e = .blocked incident
    · subst hblocked
      have hblocking : advance incident .unknown (.blocked incident) = .blocking := by simp [advance]
      rw [hblocking, foldl_advance_blocking]
      exact ⟨fun h => Or.inr ⟨rfl, h⟩, fun h => h.elim BlockedThenClear.clear_mem And.right⟩
    · have hstays : advance incident .unknown e = .unknown := by
        cases e with
        | blocked i =>
          have hother : i ≠ incident := fun h => hblocked (by rw [h])
          simp [advance, hother]
        | clear i clearCertBytes => simp [advance]
      rw [hstays, ih, or_iff_left fun h => hblocked h.1]

theorem incidentState_of_run (cfg : RollbackConfig) (s : RollbackState) (events : List EvidenceEvent)
    (incident : BlockedIncident) :
    incidentState (run (evidenceStep cfg) s events) incident =
      (received cfg s events).foldl (advance incident) (incidentState s incident) := by
  refine run_view (fun s => incidentState s incident) (fun s ev => ?_) s events
  rw [incidentState, evidenceStep_registry, stateIn_foldl_absorb, incidentState]

lemma clear_known {es : List Evidence} {incident : BlockedIncident} {clearCertBytes : Bytes}
    (h : Evidence.clear incident clearCertBytes ∈ es) {state : IncidentState} (hknown : state ≠ .unknown) :
    es.foldl (advance incident) state = .cleared := by
  cases state with
  | unknown => exact absurd rfl hknown
  | blocking => exact (foldl_advance_blocking incident es).mpr ⟨clearCertBytes, h⟩
  | cleared => exact foldl_advance_cleared incident es

theorem orderIndependent_iff (cfg : RollbackConfig) (s : RollbackState) (incident : BlockedIncident)
    (first second : List EvidenceEvent) (hfirst : BlockedThenClear incident (received cfg s first))
    (hsecond : ClearThenBlocked incident (received cfg s second)) :
    incidentState (run (evidenceStep cfg) s first) incident = incidentState (run (evidenceStep cfg) s second) incident ↔
      incidentState s incident ≠ .unknown ∨ BlockedThenClear incident (received cfg s second) := by
  obtain ⟨clearCertBytes, hsub⟩ := hsecond
  have hclear : Evidence.clear incident clearCertBytes ∈ received cfg s second := hsub.subset (by simp)
  obtain ⟨_, hmem⟩ := hfirst.clear_mem
  rw [incidentState_of_run, incidentState_of_run]
  by_cases hknown : incidentState s incident = .unknown
  · rw [hknown, (foldl_advance_unknown incident _).mpr hfirst, ← foldl_advance_unknown, eq_comm]
    exact ⟨Or.inr, fun h => h.resolve_left fun hno => hno rfl⟩
  · rw [clear_known hmem hknown, clear_known hclear hknown]
    exact iff_of_true rfl (Or.inl hknown)

def echoesText : Bytes :=
  ascii "|0:" ++ toHex (zeros 33) ++ ascii ",07|1:" ++ toHex (zeros 33) ++ ascii ",07"

def batchBlockedCert : Bytes := ascii "CANCEL_CERT|0|0|blocked_batch:0:1" ++ echoesText

def batchClearCert : Bytes := ascii "CLEAR_CERT|0|1" ++ echoesText

lemma crashCancel_plain : bringsClears (.orderDecided (crashCancelBytes 0)) = false := rfl

lemma viewChange_plain : bringsClears (.viewChange true true) = false := rfl

def blockedReceived : EvidenceEvent := .rollback (.cancelCert 0 batchBlockedCert (stopped 6)) rfl

def clearReceived : EvidenceEvent := .clearCert 0 (zeros 33 ++ [1, 7] ++ batchClearCert)

def afterOrder (events : List EvidenceEvent) : List EvidenceEvent :=
  [.rollback (.decisionGossip 0 (gossipSerialize 0 (orderDecisionBytes 0 [(0, 0), (1, 0), (2, 1), (3, 1)])) false) rfl,
    .rollback (.decisionGossip 1 (gossipSerialize 0 (orderDecisionBytes 0 [(0, 0), (1, 0), (2, 1), (3, 1)])) false) rfl,
    .order false (stopped 5)] ++ events

theorem orderIndependent_iff_resent :
    incidentState (run (evidenceStep fourRollbackCars) .initial (afterOrder [blockedReceived, clearReceived])) ⟨0, 1⟩ =
      incidentState (run (evidenceStep fourRollbackCars) .initial
        (afterOrder [clearReceived, blockedReceived, clearReceived])) ⟨0, 1⟩ :=
  (orderIndependent_iff fourRollbackCars .initial ⟨0, 1⟩ (afterOrder [blockedReceived, clearReceived])
      (afterOrder [clearReceived, blockedReceived, clearReceived]) ⟨batchClearCert, by decide +kernel⟩
      ⟨batchClearCert, by decide +kernel⟩).mpr (Or.inr ⟨batchClearCert, by decide +kernel⟩)

-- the incident that the CLEAR came too early for stays BLOCKING
theorem clear_before_blocked_lost :
    BlockedThenClear ⟨0, 1⟩ (received fourRollbackCars .initial (afterOrder [blockedReceived, clearReceived])) ∧
      ClearThenBlocked ⟨0, 1⟩ (received fourRollbackCars .initial (afterOrder [clearReceived, blockedReceived])) ∧
      incidentState (run (evidenceStep fourRollbackCars) .initial (afterOrder [blockedReceived, clearReceived])) ⟨0, 1⟩ =
        .cleared ∧
      incidentState (run (evidenceStep fourRollbackCars) .initial (afterOrder [clearReceived, blockedReceived])) ⟨0, 1⟩ =
        .blocking :=
  ⟨⟨batchClearCert, by decide +kernel⟩, ⟨batchClearCert, by decide +kernel⟩, by decide +kernel, by decide +kernel⟩

end V2vBft.Rollback
