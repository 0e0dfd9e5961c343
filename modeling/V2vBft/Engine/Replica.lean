import V2vBft.Bridge.PreVerify
import V2vBft.Engine.Collector

/-! One replica: `MessageManager`, `Commitment`, `TransactionExecutor` and the commit states of `CheckPointManager`. -/

namespace V2vBft.Engine

open Wire Pbft Bridge

structure EngineConfig where
  selfId : ℤ
  replicas : ℕ
  maxProcessTxn : ℕ
  enableViewchange : Bool
  deriving DecidableEq, Repr

def EngineConfig.getMinDataReceiveNum (cfg : EngineConfig) : ℕ := max (2 * ((cfg.replicas - 1) / 3) + 1) 1

-- a uint64 as an int, and an int as a uint64
def toInt32 (v : ℕ) : ℤ := signed32 (v % uint32Modulus)

def toUint64 (i : ℤ) : ℕ := (i % (uint64Max + 1)).toNat

def nextUint64 (v : ℕ) : ℕ := (v + 1) % (uint64Max + 1)

def int32Bound : ℕ := 2147483648

lemma toInt32_of_lt {v : ℕ} (h : v < int32Bound) : toInt32 v = v := by
  rw [int32Bound] at h
  rw [toInt32, Nat.mod_eq_of_lt (by rw [uint32Modulus]; omega), signed32, if_pos h]

lemma toUint64_of_le {v : ℕ} (h : v ≤ uint64Max) : toUint64 v = v := by
  rw [toUint64, ← Int.natCast_succ, ← Int.natCast_mod, Int.toNat_natCast, Nat.mod_eq_of_lt (Nat.lt_succ_of_le h)]

structure Replica where
  consensus : ConsensusState
  nextSeq : ℕ
  proposed : List Bytes
  executedHashes : List Bytes
  pendingRecovery : List Request
  pool : LockFreeCollectorPool
  committedStatus : Finset ℕ
  lastSeq : ℕ
  dataQueue : List ℕ
  commitQueue : List Request
  candidates : List Request
  executeQueue : List Request
  nextExecuteSeq : ℕ
  executorLastSeq : ℤ

def Replica.initial (cfg : EngineConfig) (primaryId : ℤ) : Replica where
  consensus := ⟨.empty, ⟨primaryId, 1⟩⟩
  nextSeq := 1
  proposed := []
  executedHashes := []
  pendingRecovery := []
  pool := .create cfg.maxProcessTxn
  committedStatus := ∅
  lastSeq := 0
  dataQueue := []
  commitQueue := []
  candidates := []
  executeQueue := []
  nextExecuteSeq := 1
  executorLastSeq := 0

structure Execution where
  seq : ℕ
  view : ℕ
  hash : Bytes
  data : BatchData
  deriving DecidableEq, Repr

-- sent leaves through BroadCast and SendMessage; verified passed pre_verify_func_; executed ran in ExecuteBatch
structure Output where
  sent : List Request
  verified : List Request
  executed : List Execution
  deriving DecidableEq, Repr

def Output.none : Output := ⟨[], [], []⟩

def Replica.maxPendingExecutedSeq (s : Replica) : ℕ := if s.nextExecuteSeq = 0 then uint64Max else s.nextExecuteSeq - 1

def Replica.lastRun (s : Replica) : ℕ := toUint64 s.executorLastSeq

def Replica.isValidMsg (s : Replica) (request : Request) : Bool :=
  decide (request.currentView = s.consensus.info.currentView) && decide (s.maxPendingExecutedSeq ≤ request.seq)

def Replica.isCommitted (s : Replica) (seq : ℕ) : Bool :=
  decide (seq < s.lastSeq) || decide (seq ∈ s.committedStatus)

def Replica.forcedView (s : Replica) (request : Request) : Option OmnetForcedView :=
  (s.consensus.registry.findForRequest request).1

-- FindForRequest copies a pending view to the sequence number it is asked for; asked again, it answers the same
def Replica.lookedUp (s : Replica) (request : Request) : Replica :=
  { s with consensus := { s.consensus with registry := (s.consensus.registry.findForRequest request).2 } }

def Replica.quorumForRequest (cfg : EngineConfig) (s : Replica) (request : Request) : ℕ :=
  match s.forcedView request with
  | some view => view.quorum
  | none => cfg.getMinDataReceiveNum

def Replica.isActiveForRequest (s : Replica) (request : Request) (id : ℤ) : Bool :=
  match s.forcedView request with
  | some view => view.isActiveResdbSender id
  | none => true

inductive CollectorResultCode
  | invalid
  | ok
  | stateChanged
  deriving DecidableEq, Repr

def Replica.collect (cfg : EngineConfig) (s : Replica) (request : Request) : AddResult :=
  (s.pool.getCollector request.seq).addRequest cfg.enableViewchange (s.quorumForRequest cfg request) request

def Replica.collected (s : Replica) (request : Request) (r : AddResult) : Replica :=
  { s with
    pool := s.pool.setCollector request.seq r.collector
    commitQueue := s.commitQueue ++ r.committed.toList
    committedStatus :=
      if r.changed ∧ request.type = .commit then insert request.seq s.committedStatus else s.committedStatus }

def addConsensusMsg (cfg : EngineConfig) (s : Replica) (request : Request) : CollectorResultCode × Replica :=
  if !s.isValidMsg request then (.invalid, s)
  else if !s.isActiveForRequest request request.senderId then (.ok, s.lookedUp request)
  else if s.isCommitted request.seq then (.stateChanged, s.lookedUp request)
  else
    let r := s.collect cfg request
    (if r.ret ≠ 0 ∧ r.ret ≠ 1 then .invalid else if r.changed then .stateChanged else .ok,
      (s.lookedUp request).collected request r)

def drainRecovery (cfg : EngineConfig) : List Request → Replica → Replica
  | [], s => { s with pendingRecovery := [] }
  | r :: rest, s =>
    if r.seq ≤ s.nextSeq then
      drainRecovery cfg rest
        (if r.seq = s.nextSeq then (addConsensusMsg cfg { s with nextSeq := r.seq + 1 } r).2 else s)
    else { s with pendingRecovery := r :: rest }

def putRecovery (request : Request) (pending : List Request) : List Request :=
  (pending.filter fun r => r.seq ≠ request.seq).orderedInsert (fun a b => a.seq ≤ b.seq) request

def processRecoveryPropose (cfg : EngineConfig) (s : Replica) (request : Request) : Replica :=
  let admitted := { request with forceRecovery := false }
  if s.nextSeq = 0 ∨ request.seq = s.nextSeq then
    (addConsensusMsg cfg (drainRecovery cfg s.pendingRecovery { s with nextSeq := request.seq + 1 }) admitted).2
  else if s.nextSeq < request.seq then { s with pendingRecovery := putRecovery request s.pendingRecovery }
  else if request.forceRecovery then (addConsensusMsg cfg s admitted).2
  else s

def prepareFor (cfg : EngineConfig) (request : Request) : Request :=
  { request with type := .prepare, senderId := cfg.selfId, data := .batch [] }

def commitFor (cfg : EngineConfig) (request : Request) : Request :=
  { request with type := .commit, senderId := cfg.selfId }

def voteOn (cfg : EngineConfig) (s : Replica) (request answer : Request) : List Request × Replica :=
  let r := addConsensusMsg cfg s request
  (if r.1 = .stateChanged then [answer] else [], r.2)

def acceptPropose (cfg : EngineConfig) (s : Replica) (request : Request) : List Request × Replica :=
  if request.senderId ≠ s.consensus.info.primaryId then ([], s)
  else if !s.isActiveForRequest request cfg.selfId then ([], s.lookedUp request)
  else if request.senderId = cfg.selfId then voteOn cfg (s.lookedUp request) request (prepareFor cfg request)
  else if request.hash ∈ s.proposed then ([], s.lookedUp request)
  else
    voteOn cfg { s.lookedUp request with proposed := request.hash :: s.proposed } request (prepareFor cfg request)

-- a replica's own PRE_PREPARE comes back to it over the loopback and is not checked again
def processProposeMsg (cfg : EngineConfig) (env : BridgeEnv) (s : Replica) (request : Request) : Output × Replica :=
  if request.isRecovery then (.none, processRecoveryPropose cfg s request)
  else if request.senderId = cfg.selfId then
    let r := acceptPropose cfg s request
    (⟨r.1, [], []⟩, r.2)
  else
    let verdict := preVerify env s.consensus request
    let checked := { s with consensus := verdict.2 }
    if verdict.1 then
      let r := acceptPropose cfg (checked.lookedUp request) request
      (⟨r.1, [request], []⟩, r.2)
    else (.none, checked)

def processPrepareMsg (cfg : EngineConfig) (s : Replica) (request : Request) : List Request × Replica :=
  if request.isRecovery then ([], (addConsensusMsg cfg s request).2)
  else if !s.isActiveForRequest request cfg.selfId then ([], s.lookedUp request)
  else voteOn cfg (s.lookedUp request) request (commitFor cfg request)

def processCommitMsg (cfg : EngineConfig) (s : Replica) (request : Request) : Replica :=
  if request.isRecovery then (addConsensusMsg cfg s request).2
  else if !s.isActiveForRequest request cfg.selfId then s.lookedUp request
  else (addConsensusMsg cfg (s.lookedUp request) request).2

-- AssignNextSeq holds the executor's number in a uint32, and the subtraction is unsigned
def Replica.seqUsedUp (cfg : EngineConfig) (s : Replica) : Bool :=
  let maxExecutedSeq := s.maxPendingExecutedSeq % uint32Modulus
  decide (s.nextSeq < maxExecutedSeq) || decide (cfg.maxProcessTxn < s.nextSeq - maxExecutedSeq)

def propose (cfg : EngineConfig) (s : Replica) (request : Request) : List Request × Replica :=
  if request.hash ∈ s.proposed then ([], s)
  else if s.seqUsedUp cfg then ([], s)
  else
    ([{ request with
        type := .prePrepare
        currentView := s.consensus.info.currentView
        seq := s.nextSeq
        senderId := cfg.selfId }],
      { s with nextSeq := s.nextSeq + 1, proposed := request.hash :: s.proposed })

def processNewRequest (cfg : EngineConfig) (env : BridgeEnv) (s : Replica) (request : Request) : Output × Replica :=
  if request.hash ∈ s.executedHashes then (.none, s)
  else if cfg.selfId ≠ s.consensus.info.primaryId then (⟨[request], [], []⟩, s)
  else
    let verdict := preVerify env s.consensus request
    let checked := { s with consensus := verdict.2 }
    if verdict.1 then
      let r := propose cfg (checked.lookedUp request) request
      (⟨r.1, [request], []⟩, r.2)
    else (.none, checked)

def internalConsensusCommit (cfg : EngineConfig) (env : BridgeEnv) (s : Replica) (request : Request) :
    Output × Replica :=
  match request.type with
  | .newTxns => processNewRequest cfg env s request
  | .prePrepare => processProposeMsg cfg env s request
  | .prepare => (⟨(processPrepareMsg cfg s request).1, [], []⟩, (processPrepareMsg cfg s request).2)
  | .commit => (.none, processCommitMsg cfg s request)

-- a map insert keeps the request that is there
def addNewData (request : Request) : List Request → List Request
  | [] => [request]
  | r :: rest =>
    if request.seq < r.seq then request :: r :: rest
    else if request.seq = r.seq then r :: rest
    else r :: addNewData request rest

def drainCandidates : List Request → Replica → Replica
  | [], s => { s with candidates := [] }
  | r :: rest, s =>
    if r.seq = s.nextExecuteSeq then
      drainCandidates rest
        { s with
          executeQueue := s.executeQueue ++ [r]
          nextExecuteSeq := s.nextExecuteSeq + 1
          pool := s.pool.update s.nextExecuteSeq }
    else { s with candidates := r :: rest }

def orderMessage (s : Replica) : Replica :=
  match s.commitQueue with
  | [] => drainCandidates s.candidates s
  | r :: rest =>
    if r.seq < s.nextExecuteSeq then { s with commitQueue := rest }
    else drainCandidates (addNewData r s.candidates) { s with commitQueue := rest }

-- WaitForExecute lets the execution threads run batches in the order of the queue
def executeMessage (s : Replica) : List Execution × Replica :=
  match s.executeQueue with
  | [] => ([], s)
  | r :: rest =>
    if s.executorLastSeq ≠ 0 ∧ r.seq ≤ s.lastRun then ([], { s with executeQueue := rest })
    else
      ([⟨r.seq, r.currentView, r.hash, r.data⟩],
        { s with
          executeQueue := rest
          executorLastSeq := if s.executorLastSeq = 0 then toInt32 r.seq else s.executorLastSeq + 1
          executedHashes := r.hash :: s.executedHashes
          dataQueue := s.dataQueue ++ [r.seq] })

-- requests that come early wait in a map until their turn
def updateCheckPointStatus (s : Replica) : Replica :=
  let current := nextUint64 s.lastSeq
  if current ∈ s.dataQueue then
    { s with
      lastSeq := current
      dataQueue := s.dataQueue.erase current
      committedStatus := s.committedStatus.filter fun seq => current < seq }
  else s

def advanceExecuteSeq (s : Replica) (target : ℕ) : Replica :=
  if target ≤ s.nextExecuteSeq then
    { s with
      executorLastSeq := max s.executorLastSeq (toInt32 (target - 1))
      candidates := s.candidates.filter fun r => s.nextExecuteSeq ≤ r.seq }
  else
    { s with
      executorLastSeq := max s.executorLastSeq (toInt32 (target - 1))
      candidates := s.candidates.filter fun r => target ≤ r.seq
      nextExecuteSeq := target
      pool := s.pool.update (target - 1) }

def advanceExecutorAfterGossipCancel (s : Replica) (cancelledEpoch : ℕ) : Replica :=
  let target := max s.nextExecuteSeq (2 * (cancelledEpoch + 1) + 1)
  let advanced := advanceExecuteSeq s target
  { advanced with pool := advanced.pool.update (target - 1), nextSeq := max s.nextSeq target }

def ensureNextSeqAheadOfExecuted (s : Replica) : Replica :=
  { s with nextSeq := max s.nextSeq (max (nextUint64 s.maxPendingExecutedSeq) (nextUint64 s.lastSeq)) }

def promotePrimaryFromCert (cfg : EngineConfig) (s : Replica) (primaryOmnet : ℤ) : Replica :=
  if primaryOmnet < 0 ∨ (cfg.replicas : ℤ) ≤ primaryOmnet then s
  else
    ensureNextSeqAheadOfExecuted
      { s with consensus := { s.consensus with info := { s.consensus.info with primaryId := primaryOmnet + 1 } } }

-- the pool is counted on from an int
def LockFreeCollectorPool.reset (p : LockFreeCollectorPool) (start : ℤ) : LockFreeCollectorPool :=
  { p with collector := fun i => .fresh (toUint64 (start + ((i : ℤ) - start) % (2 * p.capacity))) }

-- the argument is an int; last_seq_ of the executor and its queues stay
def Replica.setNextCommitSeq (s : Replica) (seq : ℕ) : Replica :=
  let next := toInt32 seq
  { s with
    nextSeq := toUint64 next
    pool := s.pool.reset next
    lastSeq := toUint64 (next - 1)
    committedStatus := ∅
    nextExecuteSeq := toUint64 next }

def Replica.setCurrentViewAndNewPrimary (cfg : EngineConfig) (s : Replica) (viewNumber : ℕ) : Replica :=
  { s with consensus := { s.consensus with info := ⟨newPrimary cfg.replicas viewNumber, viewNumber⟩ } }

inductive EngineEvent
  | receive (env : BridgeEnv) (request : Request)
  | orderMessage
  | executeMessage
  | updateCheckPointStatus
  | expireProposed (hash : Bytes)
  | expireExecuted (hash : Bytes)
  | gossipCancel (cancelledEpoch : ℕ)
  | prepareLocalSubmission
  | promotePrimaryFromCert (primaryOmnet : ℤ)
  | setPrimary (primary : ℤ) (version : ℕ)
  | installPending (view : OmnetForcedView)
  | getVerifiedVoteProgress (request : Request)

def engineStep (cfg : EngineConfig) (s : Replica) : EngineEvent → Output × Replica
  | .receive env request => internalConsensusCommit cfg env s request
  | .orderMessage => (.none, orderMessage s)
  | .executeMessage => (⟨[], [], (executeMessage s).1⟩, (executeMessage s).2)
  | .updateCheckPointStatus => (.none, updateCheckPointStatus s)
  | .expireProposed hash => (.none, { s with proposed := s.proposed.filter (· ≠ hash) })
  | .expireExecuted hash => (.none, { s with executedHashes := s.executedHashes.filter (· ≠ hash) })
  | .gossipCancel cancelledEpoch => (.none, advanceExecutorAfterGossipCancel s cancelledEpoch)
  | .prepareLocalSubmission => (.none, ensureNextSeqAheadOfExecuted s)
  | .promotePrimaryFromCert primaryOmnet => (.none, promotePrimaryFromCert cfg s primaryOmnet)
  | .setPrimary primary version =>
    (.none, { s with consensus := { s.consensus with info := s.consensus.info.setPrimary primary version } })
  | .installPending view =>
    (.none, { s with consensus := (s.consensus.installOmnetPendingForcedView view).getD s.consensus })
  | .getVerifiedVoteProgress request =>
    (.none, if (s.pool.getCollector request.seq).seq = request.seq then s.lookedUp request else s)

end V2vBft.Engine
