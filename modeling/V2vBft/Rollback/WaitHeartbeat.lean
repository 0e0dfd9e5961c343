import V2vBft.Rollback.ClearEchoes

/-! The WAIT heartbeat: the leases that the next epoch's primary signs while the box is blocked, and the replicas that
defer on them. -/

namespace V2vBft.Rollback

open Wire App Arrival Library.GuardedRun

-- simulation time runs in picoseconds, a heartbeat names microseconds
def ticksPerUs : ℤ := 1000000

-- packSignedPacket: the signed packet, [] if signing fails
structure WaitConfig extends RollbackConfig where
  packSignedPacket : Bytes → Bytes
  waitHeartbeatInterval : ℤ
  waitHeartbeatMaxDeferral : ℤ
  waitClockSkew : ℤ

structure WaitHeartbeatPayload where
  magic : ℕ
  version : ℕ
  cancelledEpoch : ℕ
  executingBatch : ℕ
  leaderId : ℤ
  heartbeatIndex : ℕ
  sentAtSimUs : ℕ
  validUntilSimUs : ℕ
  deriving DecidableEq, Repr

def kWaitHeartbeatMagic : ℕ := 0x57414954

def WaitHeartbeatPayload.size : ℕ := 40

def WaitHeartbeatPayload.read (bs : Bytes) : WaitHeartbeatPayload where
  magic := readU32 bs 0
  version := readU16 bs 4
  cancelledEpoch := readU32 bs 8
  executingBatch := readU32 bs 12
  leaderId := readI32 bs 16
  heartbeatIndex := readU32 bs 20
  sentAtSimUs := readU64 bs 24
  validUntilSimUs := readU64 bs 32

def WaitHeartbeatPayload.bytes (p : WaitHeartbeatPayload) : Bytes :=
  putU32 p.magic ++ putU16 p.version ++ putU16 0 ++ putU32 p.cancelledEpoch ++ putU32 p.executingBatch ++
    putI32 p.leaderId ++ putU32 p.heartbeatIndex ++ putU64 p.sentAtSimUs ++ putU64 p.validUntilSimUs

def WaitHeartbeatPayload.incident (p : WaitHeartbeatPayload) : BlockedIncident := ⟨p.cancelledEpoch, p.executingBatch⟩

def signed64 (v : ℕ) : ℤ := if v < 9223372036854775808 then v else (v : ℤ) - 18446744073709551616

def inSimUs (t : ℤ) : ℕ := (t.tdiv ticksPerUs % 18446744073709551616).toNat

def WaitHeartbeatPayload.sentAt (p : WaitHeartbeatPayload) : ℤ := signed64 p.sentAtSimUs * ticksPerUs

def WaitHeartbeatPayload.validUntil (p : WaitHeartbeatPayload) : ℤ := signed64 p.validUntilSimUs * ticksPerUs

structure WaitHeartbeatState where
  cancelledEpoch : ℕ
  executingBatch : ℕ
  leaderId : ℤ
  lastHeartbeatIndex : ℕ
  validUntil : ℤ
  active : Bool
  deriving DecidableEq, Repr

def WaitHeartbeatState.none : WaitHeartbeatState := ⟨0, 0, -1, 0, 0, false⟩

-- a timer is the time it is scheduled for
structure WaitNode where
  rollback : RollbackState
  leaderActive : Bool
  leaderHeartbeatIndex : ℕ
  leaderSendTimer : Option ℤ
  follower : WaitHeartbeatState
  followerExpiryTimer : Option ℤ
  deriving DecidableEq, Repr

-- `s` may be a state in the middle of a handler
def waitConditionsHold (cfg : WaitConfig) (s : RollbackState) : Option BlockedIncident :=
  if !cfg.enableRollback || !s.app.cancelPending then none
  else if s.discovery.state ≠ .complete ∨ s.discovery.epoch ≠ s.app.rollbackNewEpoch then none
  else
    (((s.incidentRegistry.filter fun entry =>
      decide (entry.1.cancelledEpoch = s.app.cancelledEpoch) && !entry.2.cleared).insertionSort
        fun a b => a.1.executingBatch ≤ b.1.executingBatch).map Prod.fst).head?

-- currentOrderPrimary, before and after a candidate is frozen
def expectedLeader (cfg : WaitConfig) (s : RollbackState) (engine : EngineAnswer) : ℤ :=
  if s.orderVcAuthoritative then engine.primary
  else
    match s.orderCandidate with
    | some candidate => candidate.initialPrimary
    | none => certPrimary cfg.toRollbackConfig s

def nextHeartbeat (cfg : WaitConfig) (n : WaitNode) (incident : BlockedIncident) (now : ℤ) : WaitHeartbeatPayload where
  magic := kWaitHeartbeatMagic
  version := 1
  cancelledEpoch := incident.cancelledEpoch
  executingBatch := incident.executingBatch
  leaderId := cfg.replicaId
  heartbeatIndex := n.leaderHeartbeatIndex
  sentAtSimUs := inSimUs now
  validUntilSimUs := inSimUs (now + cfg.waitHeartbeatMaxDeferral)

def sendWaitHeartbeat (cfg : WaitConfig) (n : WaitNode) (incident : BlockedIncident) (now : ℤ) :
    WaitNode × Option WaitHeartbeatPayload :=
  if !cfg.hasPrivateKey then (n, none)
  else
    let p := nextHeartbeat cfg n incident now
    ({ n with leaderHeartbeatIndex := (n.leaderHeartbeatIndex + 1) % uint32Modulus },
      if cfg.packSignedPacket p.bytes = [] then none else some p)

def ledIncident (cfg : WaitConfig) (s : RollbackState) (engine : EngineAnswer) : Option BlockedIncident :=
  (waitConditionsHold cfg s).filter fun _ => decide (expectedLeader cfg s engine = cfg.replicaId)

def WaitNode.activate (n : WaitNode) : WaitNode :=
  if n.leaderActive then n else { n with leaderHeartbeatIndex := 0, leaderActive := true }

def maybeSendWaitHeartbeat (cfg : WaitConfig) (n : WaitNode) (s : RollbackState) (engine : EngineAnswer) (now : ℤ) :
    WaitNode × Option WaitHeartbeatPayload :=
  match ledIncident cfg s engine with
  | none => ({ n with leaderSendTimer := none, leaderActive := false }, none)
  | some incident =>
    let sent := sendWaitHeartbeat cfg n.activate incident now
    ({ sent.1 with leaderSendTimer := some (now + cfg.waitHeartbeatInterval) }, sent.2)

def WaitNode.stopWait (n : WaitNode) : WaitNode :=
  { n with leaderSendTimer := none, followerExpiryTimer := none, follower := .none, leaderActive := false }

def readWaitHeartbeat (cfg : WaitConfig) (s : RollbackState) (packet : Bytes) : Option WaitHeartbeatPayload :=
  (unpackSignedPacket packet).bind fun view =>
    let p := WaitHeartbeatPayload.read view.content
    if view.content.length ≠ WaitHeartbeatPayload.size ∨ p.magic ≠ kWaitHeartbeatMagic ∨ p.version ≠ 1 then none
    else if !(s.app.witnessContext cfg.toAppConfig).keyMatches p.leaderId view.pubKey then none
    else if !cfg.verifyBytes view.pubKey view.content view.sig then none
    else some p

def nextEpoch (epoch : ℕ) : ℕ := (epoch + 1) % uint32Modulus

-- checks 2 to 6: what the replica knows of the incident and of the recovery
def awaitsRecovery (cfg : WaitConfig) (s : RollbackState) (engine : EngineAnswer) (p : WaitHeartbeatPayload) : Bool :=
  s.app.isEpochTombstoned p.cancelledEpoch && decide (incidentState s p.incident = .blocking) &&
    !(s.app.orderApplied && decide (s.app.currentEpoch = nextEpoch p.cancelledEpoch)) &&
    decide (s.discovery.state = .complete) && decide (s.discovery.epoch = nextEpoch p.cancelledEpoch) &&
    decide (p.leaderId = expectedLeader cfg s engine)

def WaitHeartbeatState.sameLeaderIncident (f : WaitHeartbeatState) (p : WaitHeartbeatPayload) : Bool :=
  f.active && decide (f.cancelledEpoch = p.cancelledEpoch) && decide (f.executingBatch = p.executingBatch) &&
    decide (f.leaderId = p.leaderId)

-- checks 8 to 10, with a microsecond of tolerance on the length of the lease
def leaseHolds (cfg : WaitConfig) (p : WaitHeartbeatPayload) (now : ℤ) : Bool :=
  decide (p.sentAt ≤ now + cfg.waitClockSkew) && decide (p.sentAt < p.validUntil) &&
    decide (p.validUntil - p.sentAt ≤ cfg.waitHeartbeatMaxDeferral + ticksPerUs) && decide (now < p.validUntil)

def admissible (cfg : WaitConfig) (n : WaitNode) (packet : Bytes) (engine : EngineAnswer) (now : ℤ) :
    Option WaitHeartbeatPayload :=
  if !cfg.enableRollback then none
  else
    (readWaitHeartbeat cfg n.rollback packet).filter fun p =>
      awaitsRecovery cfg n.rollback engine p && leaseHolds cfg p now

-- a refused heartbeat leaves nothing behind, so check 7 may come last
def acceptable (cfg : WaitConfig) (n : WaitNode) (packet : Bytes) (engine : EngineAnswer) (now : ℤ) :
    Option WaitHeartbeatPayload :=
  (admissible cfg n packet engine now).filter fun p =>
    !(n.follower.sameLeaderIncident p && decide (p.heartbeatIndex ≤ n.follower.lastHeartbeatIndex))

def handleWaitHeartbeat (cfg : WaitConfig) (n : WaitNode) (packet : Bytes) (engine : EngineAnswer) (now : ℤ) : WaitNode :=
  match acceptable cfg n packet engine now with
  | none => n
  | some p =>
    { n with
      follower := ⟨p.cancelledEpoch, p.executingBatch, p.leaderId, p.heartbeatIndex, p.validUntil, true⟩
      followerExpiryTimer := some p.validUntil }

def waitFollowerExpiry (n : WaitNode) (now : ℤ) : WaitNode :=
  if n.followerExpiryTimer = some now then
    { n with
      followerExpiryTimer := none
      follower := { n.follower with active := false }
      rollback := { n.rollback with orderVcRequested := true } }
  else n

-- what the handlers of other messages and timers call; `s` is the state of the replica at the call
inductive WaitCall
  | maybeSend (s : RollbackState) (engine : EngineAnswer) (now : ℤ)
  | stop

def waitCall (cfg : WaitConfig) (n : WaitNode) : WaitCall → WaitNode × Option WaitHeartbeatPayload
  | .maybeSend s engine now => maybeSendWaitHeartbeat cfg n s engine now
  | .stop => (n.stopWait, none)

def readinessCalls (cfg : WaitConfig) (s : RollbackState) (engine : EngineAnswer) (now : ℤ) : List WaitCall :=
  match (evaluateOrderReadiness cfg.toRollbackConfig s engine).2 with
  | .blocked .incidentBlocking => [.maybeSend s engine now]
  | .ready _ => [.stop]
  | _ => []

def trailerCalls (cfg : WaitConfig) (engine : EngineAnswer) (now : ℤ) :
    RollbackState → List (BlockedIncident × Bytes) → List WaitCall
  | _, [] => []
  | s, (incident, clearCertBytes) :: clears =>
    let s' := onIncidentCleared s incident clearCertBytes
    let calls :=
      if incidentState s incident ≠ .blocking then []
      else if s.app.cancelPending && decide (s.app.cancelledEpoch = incident.cancelledEpoch) then
        .stop :: readinessCalls cfg s' engine now
      else [.stop]
    calls ++ trailerCalls cfg engine now s' clears

def orderCalls (cfg : WaitConfig) (s : RollbackState) (completed : Bool) (engine : EngineAnswer) (now : ℤ) :
    List WaitCall :=
  match admitted s completed with
  | none => []
  | some (dec, order) =>
    match parsedCerts (decisionClearCerts dec) with
    | none => []
    | some certs =>
      let vehicles := OrderDecision.vehicles order
      trailerCalls cfg engine now { s with app := { s.app with committedOrderVehicleIds := vehicles } }
          (validClears (newView cfg.toRollbackConfig s vehicles) certs) ++
        if s.app.cancelPending && decide (order.epoch = s.app.rollbackNewEpoch) then [.stop] else []

def clearsIncident (s s' : RollbackState) : Bool :=
  s.incidentRegistry.any fun entry =>
    decide (incidentState s entry.1 = .blocking) && decide (incidentState s' entry.1 = .cleared)

-- the evaluation behind the onIncidentCleared of a single certificate is an event of its own
def evidenceCalls (cfg : WaitConfig) (s : RollbackState) (engine : EngineAnswer) (now : ℤ) : EvidenceEvent → List WaitCall
  | .rollback (.orderReadiness answer) _ => readinessCalls cfg s answer now
  | .rollback _ _ => []
  | .order completed _ => orderCalls cfg s completed engine now
  | .clearCert carrier packet =>
    if clearsIncident s (handleClearCert cfg.toRollbackConfig s carrier packet) then [.stop] else []
  | .clearCertFormed cert => if clearsIncident s (broadcastClearCert cfg.toRollbackConfig s cert) then [.stop] else []

-- a round stays with its epoch, and only a new one makes discovery active again
def discoveryFollows (s : RollbackState) : EvidenceEvent → Bool
  | .rollback (.discovery round _ _ _ _) _ =>
    decide (round.epoch = s.discovery.epoch) &&
      (decide (s.discovery.state ≠ .inactive) || decide (round.state = .inactive))
  | _ => true

inductive WaitEvent
  | evidence (ev : EvidenceEvent) (engine : EngineAnswer) (now : ℤ)
  | orderSuspicion (engine : EngineAnswer) (now : ℤ)
  | leaderSend (engine : EngineAnswer) (now : ℤ)
  | followerExpiry (now : ℤ)
  | heartbeat (packet : Bytes) (engine : EngineAnswer) (now : ℤ)

-- the suspicion timer, behind its call of processOrders; `true`: an incident defers it
def suspicionDeferred (s : RollbackState) : Option Bool :=
  if s.app.orderApplied || s.app.cancelConsensusPending then none
  else some (s.app.cancelPending && hasBlockingIncidentForEpoch s s.app.cancelledEpoch)

def waitCalls (cfg : WaitConfig) (n : WaitNode) : WaitEvent → List WaitCall
  | .evidence ev engine now => if discoveryFollows n.rollback ev then evidenceCalls cfg n.rollback engine now ev else []
  | .orderSuspicion engine now =>
    if suspicionDeferred n.rollback = some true then [.maybeSend n.rollback engine now] else []
  | .leaderSend engine now => if n.leaderSendTimer = some now then [.maybeSend n.rollback engine now] else []
  | .followerExpiry _ | .heartbeat _ _ _ => []

def waitOwn (cfg : WaitConfig) (n : WaitNode) : WaitEvent → WaitNode
  | .evidence ev _ _ =>
    if discoveryFollows n.rollback ev then { n with rollback := evidenceStep cfg.toRollbackConfig n.rollback ev } else n
  | .orderSuspicion _ _ =>
    if suspicionDeferred n.rollback = some false then { n with rollback := { n.rollback with orderVcRequested := true } }
    else n
  | .leaderSend _ _ => n
  | .followerExpiry now => waitFollowerExpiry n now
  | .heartbeat packet engine now => handleWaitHeartbeat cfg n packet engine now

def WaitNode.start (now : ℤ) : WaitNode where
  rollback := startDiscoveryRound .initial ⟨now, false, -1, []⟩
  leaderActive := false
  leaderHeartbeatIndex := 0
  leaderSendTimer := none
  follower := .none
  followerExpiryTimer := none

end V2vBft.Rollback
