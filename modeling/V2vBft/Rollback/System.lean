import V2vBft.Rollback.Handlers

namespace V2vBft.Rollback

open Wire App Arrival

def kMinPerEpochRollbackVoteN : ℤ := 4

def minRollbackVoteN (cfg : RollbackConfig) : ℤ :=
  if cfg.rollbackFaultModePerEpoch then kMinPerEpochRollbackVoteN else max 1 (3 * cfg.faults + 1)

def minRollbackMembershipSize (cfg : RollbackConfig) (s : RollbackState) : ℤ :=
  if 0 < s.rollbackExpectedMembershipSize then max (minRollbackVoteN cfg) s.rollbackExpectedMembershipSize
  else minRollbackVoteN cfg

def shouldIncludeInRollbackMembership (cfg : RollbackConfig) (s : RollbackState) (replicaId : ℤ) : Bool :=
  if replicaId < 0 then false
  else if replicaId = cfg.replicaId then s.rollbackLocalRecallable && !s.departed
  else true

def RollbackState.recovery (s : RollbackState) : Bool :=
  s.app.cancelPending && decide (s.app.currentEpoch = s.app.rollbackNewEpoch)

-- both stages of a car's evidence are needed for a vote
def voterIds (cfg : RollbackConfig) (s : RollbackState) : List ℤ :=
  let certified := s.stores.collectedCerts.filter fun carId => decide (carId ∈ s.stores.collectedDistanceCerts)
  let eligible := (certified.map extractReplicaId).filter fun rid =>
    if s.recovery then shouldIncludeInRollbackMembership cfg s rid
    else decide (0 ≤ rid) && decide (rid < cfg.totalVehicles)
  (eligible.insertionSort (· ≤ ·)).dedup

-- the CLEAR certificates for an epoch's incidents, in the registry's key order
def registeredClears (s : RollbackState) (cancelledEpoch : ℕ) : List Bytes :=
  ((s.incidentRegistry.filter fun entry =>
    decide (entry.1.cancelledEpoch = cancelledEpoch) && entry.2.cleared &&
      decide (entry.2.clearCertBytes ≠ [])).insertionSort fun a b => a.1.executingBatch ≤ b.1.executingBatch).map
    fun entry => entry.2.clearCertBytes

def buildOrderCandidate (cfg : RollbackConfig) (s : RollbackState) : OrderCandidate where
  epoch := s.app.currentEpoch
  recovery := s.recovery
  cancelledEpoch := if s.recovery then s.app.cancelledEpoch else 0
  rollbackReason := s.rollbackReason
  initialPrimary := (voterIds cfg s).head?.getD (-1)
  stores := s.stores
  cancelJustification := if s.recovery then s.rollbackJustification else []
  clearCerts := if s.recovery then registeredClears s s.app.cancelledEpoch else []
  voterIds := voterIds cfg s

inductive Blocking
  | cancelConsensusPending
  | cancelWitnessPending
  | discoveryNotComplete
  | recoveryEpochMismatch
  | cancelNotCommitted
  | incidentBlocking
  | membershipTooSmall
  | certPrimaryInstallFailed
  | noPrimary
  deriving DecidableEq, Repr

inductive Readiness
  | ignored
  | blocked (why : Blocking)
  | ready (primary : ℤ)
  deriving DecidableEq, Repr

-- what the PBFT engine answers: whether it takes the certified primary, and the primary it follows
structure EngineAnswer where
  installed : Bool
  primary : ℤ
  deriving DecidableEq, Repr

def frozenCandidate (cfg : RollbackConfig) (s : RollbackState) : OrderCandidate :=
  match s.orderCandidate with
  | some candidate => if candidate.epoch = s.app.currentEpoch then candidate else buildOrderCandidate cfg s
  | none => buildOrderCandidate cfg s

def candidateReadiness (cfg : RollbackConfig) (s : RollbackState) (candidate : OrderCandidate) (engine : EngineAnswer) :
    Readiness :=
  let primary := if s.orderVcAuthoritative then engine.primary else candidate.initialPrimary
  if s.recovery && decide ((candidate.voterIds.length : ℤ) < minRollbackMembershipSize cfg s) then
    .blocked .membershipTooSmall
  else if !s.orderVcAuthoritative && !engine.installed then .blocked .certPrimaryInstallFailed
  else if primary < 0 then .blocked .noPrimary
  else .ready primary

-- none: no gate before the candidate stops the round
def readinessGate (s : RollbackState) : Option Readiness :=
  if s.app.orderApplied || s.departed then some .ignored
  else if s.app.cancelConsensusPending then some (.blocked .cancelConsensusPending)
  else if s.rollbackCancelInitiated then some (.blocked .cancelWitnessPending)
  else if s.discovery.state ≠ .complete ∨ s.discovery.epoch ≠ s.app.currentEpoch then
    some (.blocked .discoveryNotComplete)
  else if s.app.cancelPending && !s.recovery then some (.blocked .recoveryEpochMismatch)
  else if s.recovery && !s.app.hasCommittedCancel s.app.cancelledEpoch then some (.blocked .cancelNotCommitted)
  else if s.recovery && hasBlockingIncidentForEpoch s s.app.cancelledEpoch then some (.blocked .incidentBlocking)
  else none

def evaluateOrderReadiness (cfg : RollbackConfig) (s : RollbackState) (engine : EngineAnswer) :
    RollbackState × Readiness :=
  match readinessGate s with
  | some outcome => (s, outcome)
  | none =>
    let candidate := frozenCandidate cfg s
    ({ s with orderCandidate := some candidate }, candidateReadiness cfg s candidate engine)

def sendCancelEcho (cfg : RollbackConfig) (s : RollbackState) (fresh : Bool) : RollbackState :=
  if !cfg.enableRollback || !cfg.hasPrivateKey || !fresh then s
  else if s.cancelState = .inactive then { s with cancelState := .witnessing }
  else s

-- an ambulance outside the committed view; `fresh`: its echo was not sent before
def maybeTriggerEmergencyRollback (cfg : RollbackConfig) (s : RollbackState) (rid : ℤ) (fresh : Bool) : RollbackState :=
  let epoch := s.app.lastCommittedEpoch
  if !cfg.enableRollback || !s.app.hasCommittedOrder || decide (rid ∈ s.app.committedOrderVehicleIds) then s
  else if s.app.isEpochTombstoned epoch || s.app.repeatsCancel epoch then s
  else sendCancelEcho cfg { s with rollbackCancelInitiated := true } fresh

def cancelGossipTimer (cfg : RollbackConfig) (s : RollbackState) : RollbackState :=
  let send := s.cancelGossipSend
  if !send.scheduled then s
  else if send.bytes = [] then { s with cancelGossipSend := { send with scheduled := false } }
  else if cfg.faults + 1 ≤ s.app.cancelGossip.count send.epoch send.bytes then
    { s with cancelGossipSend := { send with scheduled := false, bytes := [] } }
  else if 0 < cfg.cancelCertRetryMax ∧ cfg.cancelCertRetryMax ≤ send.retryCount + 1 then
    { s with cancelGossipSend := ⟨false, send.epoch, [], send.retryCount + 1⟩ }
  else { s with cancelGossipSend := { send with retryCount := send.retryCount + 1 } }

def deactivateDiscovery (s : RollbackState) : RollbackState :=
  { s with
    discovery := { s.discovery with state := .inactive }
    discoveryDeadline := false
    discoverySettle := false }

def completeRollback (s : RollbackState) (order : OrderDecision) : RollbackState :=
  if s.app.cancelPending && decide (order.epoch = s.app.rollbackNewEpoch) then
    { s.stopCancelCertRetries.resetOrderCandidate with
      cancelState := .inactive
      cancelActiveBatch := -1
      cancelPrimary := -1
      cancelLeaderCandidates := []
      rollbackCancelInitiated := false }
  else s

-- `clears`: the valid certificates of the ORDER's CLEAR trailer
def applyOrder (cfg : RollbackConfig) (s : RollbackState) (order : OrderDecision)
    (clears : List (BlockedIncident × Bytes)) (now : ℤ) : RollbackState :=
  let applied := App.applyOrder cfg.toAppConfig s.app order now
  let s := clears.foldl (fun s clear => onIncidentCleared s clear.1 clear.2) s.clearConsensusRetries
  let s := completeRollback s order
  let s := if applied.2.applied.isSome then deactivateDiscovery s else s
  { s with app := applied.1 }

def processOrder (cfg : RollbackConfig) (s : RollbackState) (completed : Bool) (clears : List (BlockedIncident × Bytes))
    (sense : Sense) : RollbackState :=
  match s.app.pendingOrders with
  | [] => s
  | dec :: rest =>
    let s := { s with app := { s.app with pendingOrders := rest } }
    if isCancelDecision dec then handleCancelCommitDecision cfg s dec sense
    else
      match admittedOrder s.app dec completed with
      | none => s
      | some order => applyOrder cfg s order clears sense.now

def perceiveCrashes (cfg : RollbackConfig) (s : RollbackState) (formed : List (CancelCert × Bytes)) (sense : Sense) :
    RollbackState :=
  formed.foldl (fun s cert => broadcastCancelCert cfg s cert.1 cert.2 sense) s

def clearancePoll (cfg : RollbackConfig) (s : RollbackState) (formed : List (CancelCert × Bytes)) (cleared : List ℤ)
    (sense : Sense) : RollbackState :=
  if s.app.pollScheduled then
    let s := { s with app := { s.app with pollScheduled := false } }
    let s := if cfg.enableRollback then perceiveCrashes cfg s formed sense else s
    { s with app := (releaseWaiting cfg.toAppConfig s.app cleared sense.now).1 }
  else s

-- discovery, proposals and packets move by protocols of their own: their events carry the outcome
inductive RollbackEvent
  | orderDecided (dec : Bytes)
  | decisionGossip (senderId : ℤ) (inner : Bytes) (completed : Bool)
  | processOrder (completed : Bool) (clears : List (BlockedIncident × Bytes)) (sense : Sense)
  | cancelCert (senderId : ℤ) (payload : Bytes) (sense : Sense)
  | cancelCertFormed (cert : CancelCert) (payload : Bytes) (sense : Sense)
  | cancelCommitGossip (senderId : ℤ) (inner : Bytes) (sense : Sense)
  | clearancePoll (formed : List (CancelCert × Bytes)) (cleared : List ℤ) (sense : Sense)
  | resumeTimer
  | orderTimeout
  | disableCrashComms
  | crashSeen (fresh : Bool)
  | emergencySeen (rid : ℤ) (fresh : Bool)
  | cancelDrainTimer
  | cancelVcTimer
  | cancelCertRetryTimer
  | cancelGossipTimer
  | clearCert (incident : BlockedIncident) (clearCertBytes : Bytes)
  | discovery (round : DiscoveryRound) (stores : DiscoveryStores) (deadline settle announcement : Bool)
  | consensus (proposed : Bool) (retries : List Bytes)
  | viewChange (requested authoritative : Bool)
  | orderReadiness (engine : EngineAnswer)
  | enterStopZone
  | depart
  deriving DecidableEq, Repr

def rollbackStep (cfg : RollbackConfig) (s : RollbackState) : RollbackEvent → RollbackState
  | .orderDecided dec => { s with app := (appStep cfg.toAppConfig s.app (.orderDecided dec)).1 }
  | .decisionGossip senderId inner completed =>
    { s with app := handleDecisionGossip cfg.toAppConfig s.app senderId inner completed }
  | .processOrder completed clears sense => processOrder cfg s completed clears sense
  | .cancelCert senderId payload sense => handleCancelCert cfg s senderId payload sense
  | .cancelCertFormed cert payload sense => broadcastCancelCert cfg s cert payload sense
  | .cancelCommitGossip senderId inner sense => handleCancelCommitGossip cfg s senderId inner sense
  | .clearancePoll formed cleared sense => clearancePoll cfg s formed cleared sense
  | .resumeTimer => { s with app := (resumeTimer s.app).1 }
  | .orderTimeout => { s with app := (orderTimeout cfg.toAppConfig s.app).1 }
  | .disableCrashComms =>
    { s.stopCancelCertRetries.clearConsensusRetries with
      app := s.app.cancelTimers true
      cancelGossipSend := { s.cancelGossipSend with scheduled := false }
      announcementTimer := false }
  | .crashSeen fresh => sendCancelEcho cfg s fresh
  | .emergencySeen rid fresh => maybeTriggerEmergencyRollback cfg s rid fresh
  | .cancelDrainTimer => cancelDrainTimer cfg s
  | .cancelVcTimer => cancelVcTimer cfg s
  | .cancelCertRetryTimer => cancelCertRetryTimer cfg s
  | .cancelGossipTimer => cancelGossipTimer cfg s
  | .clearCert incident clearCertBytes => onIncidentCleared s incident clearCertBytes
  | .discovery round stores deadline settle announcement =>
    { s with
      discovery := round
      stores := stores
      discoveryDeadline := deadline
      discoverySettle := settle
      announcementTimer := announcement }
  | .consensus proposed retries => { s with proposeSubmitted := proposed, consensusRetries := retries }
  | .viewChange requested authoritative => { s with orderVcRequested := requested, orderVcAuthoritative := authoritative }
  | .orderReadiness engine => (evaluateOrderReadiness cfg s engine).1
  | .enterStopZone => { s with enteredStopZone := true }
  | .depart => { s with departed := true }

end V2vBft.Rollback
