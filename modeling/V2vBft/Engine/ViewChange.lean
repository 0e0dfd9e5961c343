import V2vBft.Engine.RegistryGrowth
import V2vBft.Engine.ViewPurity
import V2vBft.Wire.Text

/-! VIEWCHANGE and NEWVIEW next to forced views: `ConsensusCommit` with its queues, over `ViewChangeManager`. -/

namespace V2vBft.Engine

open Wire Pbft Bridge Library.GuardedRun

variable {cfg : EngineConfig}

inductive ViewChangeStatus
  | none
  | readyViewChange
  | readyNewView
  | viewChangeFail
  deriving DecidableEq, Repr

-- of the prepared messages only the sequence numbers are read
structure ViewChangeMessage where
  viewNumber : ℕ
  stableCkpt : ℕ
  preparedMsg : List ℕ
  deriving DecidableEq, Repr

inductive MessageType
  | consensus (type : RequestType)
  | viewChange
  | newView
  | recoveryDataResp
  | other
  deriving DecidableEq, Repr

structure RedoRequest where
  type : MessageType
  seq : ℕ
  currentView : ℕ
  senderId : ℤ
  hash : Bytes
  data : Bytes
  isRecovery : Bool
  forceRecovery : Bool
  deriving DecidableEq, Repr

structure NewViewMessage where
  viewNumber : ℕ
  request : List RedoRequest
  viewchangeMessages : List ViewChangeMessage
  deriving DecidableEq, Repr

inductive ViewPacket
  | viewChange (senderId : ℤ) (data : Option ViewChangeMessage)
  | newView (senderId : ℤ) (isRecovery : Bool) (data : Option NewViewMessage)
  deriving DecidableEq, Repr

mutual

-- the types that bring the engine no request are one; a response that does not parse is nil
inductive ConsensusMessage
  | request (request : Request)
  | view (packet : ViewPacket)
  | recoveryDataResp (response : RecoveryResponse)
  | other

inductive RecoveryResponse
  | nil
  | cons (seq currentView : ℕ) (message : ConsensusMessage) (rest : RecoveryResponse)

end

deriving instance DecidableEq for ConsensusMessage, RecoveryResponse

structure ViewReplica where
  engine : Replica
  started : Bool
  status : ViewChangeStatus
  viewChangeCounter : ℕ
  newViewIsSent : Bool
  viewchangeRequest : List (ℤ × ViewChangeMessage)
  highestPreparedSeq : ℕ
  requestPending : List Request
  requestComplained : List Request
  recoveryQueue : List RecoveryResponse
  recovering : RecoveryResponse

def ViewReplica.initial (cfg : EngineConfig) (primaryId : ℤ) : ViewReplica :=
  ⟨.initial cfg primaryId, false, .none, 1, false, [], 0, [], [], [], .nil⟩

-- ret is the dispatcher's answer to a VIEWCHANGE or NEWVIEW; redo leaves for the replica itself or for all
structure ViewOutput where
  ret : ℤ
  sent : List ViewPacket
  redo : List RedoRequest
  engine : List Output
  deriving DecidableEq, Repr

def ViewOutput.answer (ret : ℤ) : ViewOutput := ⟨ret, [], [], []⟩

def ViewOutput.before (first second : ViewOutput) : ViewOutput :=
  ⟨second.ret, first.sent ++ second.sent, first.redo ++ second.redo, first.engine ++ second.engine⟩

def ViewReplica.currentView (s : ViewReplica) : ℕ := s.engine.consensus.info.currentView

def ViewReplica.forced (s : ViewReplica) : Bool := s.engine.consensus.registry.hasAny

def ViewReplica.isInViewChange (s : ViewReplica) : Bool := decide (s.status ≠ .none)

def ViewReplica.setCurrentViewAndNewPrimary (cfg : EngineConfig) (s : ViewReplica) (viewNumber : ℕ) : ViewReplica :=
  { s with engine := s.engine.setCurrentViewAndNewPrimary cfg viewNumber }

def minStable (messages : List ViewChangeMessage) : ℕ :=
  (messages.map ViewChangeMessage.stableCkpt).foldl min uint64Max

def maxStable (messages : List ViewChangeMessage) (least : ℕ) : ℕ :=
  (messages.map ViewChangeMessage.stableCkpt).foldl max least

-- without a message the first number wraps around to 0
def seqsUpTo (messages : List ViewChangeMessage) (last : ℕ) : List ℕ :=
  let first := (minStable messages + 1) % (uint64Max + 1)
  List.range' first (last + 1 - first)

def redoSeqs (messages : List ViewChangeMessage) : List ℕ :=
  let prepared := messages.flatMap ViewChangeMessage.preparedMsg
  seqsUpTo messages (if prepared = [] then maxStable messages 1 else prepared.foldl max 0)

-- GetPrepareMsg: every request is sent again empty
def getPrepareMsg (selfId : ℤ) (viewNumber : ℕ) (messages : List ViewChangeMessage) : List RedoRequest :=
  (redoSeqs messages).map fun seq =>
    ⟨.consensus .prePrepare, seq, viewNumber, selfId, ascii "null" ++ decimalNat seq, [], false, false⟩

def ViewReplica.setNextCommitSeq (s : ViewReplica) (seq : ℕ) : ViewReplica :=
  { s with highestPreparedSeq := toUint64 (toInt32 seq), engine := s.engine.setNextCommitSeq seq }

def ViewReplica.isValidViewChangeMsg (s : ViewReplica) (message : ViewChangeMessage) : Bool :=
  decide (s.currentView < message.viewNumber)

def newViewValid (s : ViewReplica) (message : NewViewMessage) : Bool :=
  decide (message.viewNumber = s.currentView + s.viewChangeCounter) &&
    message.viewchangeMessages.all s.isValidViewChangeMsg &&
    decide ((redoSeqs message.viewchangeMessages).length = message.request.length) &&
    message.request.all (fun r => decide (r.data = [])) &&
    (seqsUpTo message.viewchangeMessages (maxStable message.viewchangeMessages 0)).all fun seq =>
      decide (seq ∈ redoSeqs message.viewchangeMessages)

def processNewView (cfg : EngineConfig) (s : ViewReplica) (isRecovery : Bool) (data : Option NewViewMessage) :
    ViewOutput × ViewReplica :=
  match data with
  | none => (.answer (-2), s)
  | some message =>
    if isRecovery then (.answer 0, s.setCurrentViewAndNewPrimary cfg message.viewNumber)
    else if !newViewValid s message then (.answer (-2), s)
    else
      let maxSeq := (redoSeqs message.viewchangeMessages).getLast?.getD (maxStable message.viewchangeMessages 0)
      let entered := (s.setCurrentViewAndNewPrimary cfg message.viewNumber).setNextCommitSeq (maxSeq + 1)
      let others := message.request.filter fun r => decide (r.type ≠ .consensus .prePrepare)
      let done := { entered with
        highestPreparedSeq := (others.map RedoRequest.seq).foldl max entered.highestPreparedSeq
        status := .none }
      (⟨if cfg.selfId = done.engine.consensus.info.primaryId then -4 else 0, [], message.request, []⟩, done)

-- viewchange_request_ holds one message for each view and sender
def ViewReplica.addRequest (s : ViewReplica) (senderId : ℤ) (message : ViewChangeMessage) : ViewReplica :=
  { s with
    viewchangeRequest := (senderId, message) :: s.viewchangeRequest.filter fun r =>
      !(decide (r.1 = senderId) && decide (r.2.viewNumber = message.viewNumber)) }

def ViewReplica.requestsOf (s : ViewReplica) (viewNumber : ℕ) : List ViewChangeMessage :=
  ((s.viewchangeRequest.filter fun r => decide (r.2.viewNumber = viewNumber)).insertionSort fun a b => a.1 ≤ b.1).map
    Prod.snd

def sendNewViewMsg (cfg : EngineConfig) (s : ViewReplica) (viewNumber : ℕ) : List ViewPacket × ViewReplica :=
  if s.newViewIsSent then ([], s)
  else
    let messages := s.requestsOf viewNumber
    ([.newView cfg.selfId false (some ⟨viewNumber, getPrepareMsg cfg.selfId viewNumber messages, messages⟩)],
      { s with newViewIsSent := true })

def processViewChange (cfg : EngineConfig) (s : ViewReplica) (senderId : ℤ) (data : Option ViewChangeMessage) :
    ViewOutput × ViewReplica :=
  match data with
  | none => (.answer (-2), s)
  | some message =>
    if !s.isValidViewChangeMsg message then (.answer (-2), s)
    else
      let added := s.addRequest senderId message
      if (added.requestsOf message.viewNumber).length < cfg.getMinDataReceiveNum then (.answer 0, added)
      else if newPrimary cfg.replicas message.viewNumber = cfg.selfId then
        let r := sendNewViewMsg cfg added message.viewNumber
        (⟨0, r.1, [], []⟩, { r.2 with status := .readyNewView })
      else (.answer 0, { added with status := .readyNewView })

def processViewPacket (cfg : EngineConfig) (s : ViewReplica) : ViewPacket → ViewOutput × ViewReplica
  | .viewChange senderId data => processViewChange cfg s senderId data
  | .newView _ isRecovery data => processNewView cfg s isRecovery data

def dispatchViewPacket (cfg : EngineConfig) (s : ViewReplica) (packet : ViewPacket) : ViewOutput × ViewReplica :=
  if s.forced then (.answer (-2), s) else processViewPacket cfg s packet

def preparedBy (cfg : EngineConfig) (s : Replica) (request : Request) : ℕ :=
  if request.type ≠ .prepare then 0
  else if !request.isRecovery && !s.isActiveForRequest request cfg.selfId then 0
  else if (addConsensusMsg cfg (if request.isRecovery then s else s.lookedUp request) request).1 = .stateChanged then
    request.seq
  else 0

-- ProcessNewRequest answers -3
def complains (cfg : EngineConfig) (s : Replica) (request : Request) : Bool :=
  decide (request.type = .newTxns) && decide (request.hash ∉ s.executedHashes) &&
    decide (cfg.selfId ≠ s.consensus.info.primaryId)

def commitRequest (cfg : EngineConfig) (env : BridgeEnv) (s : ViewReplica) (request : Request) :
    ViewOutput × ViewReplica :=
  let r := internalConsensusCommit cfg env s.engine request
  (⟨0, [], [], [r.1]⟩,
    { s with
      engine := r.2
      highestPreparedSeq := max s.highestPreparedSeq (preparedBy cfg s.engine request)
      requestComplained := s.requestComplained ++ if complains cfg s.engine request then [request] else [] })

def commitAll (cfg : EngineConfig) (env : BridgeEnv) : List Request → ViewReplica → ViewOutput × ViewReplica
  | [], s => (.answer 0, s)
  | request :: rest, s =>
    let first := commitRequest cfg env s request
    let others := commitAll cfg env rest first.2
    (first.1.before others.1, others.2)

def popPending (cfg : EngineConfig) (env : BridgeEnv) (s : ViewReplica) : ViewOutput × ViewReplica :=
  commitAll cfg env s.requestPending { s with requestPending := [] }

def popComplained (cfg : EngineConfig) (env : BridgeEnv) (s : ViewReplica) : ViewOutput × ViewReplica :=
  commitAll cfg env s.requestComplained { s with requestComplained := [] }

def drained (cfg : EngineConfig) (env : BridgeEnv) (s : ViewReplica) : ViewOutput × ViewReplica :=
  if s.isInViewChange then (.answer 0, s) else popPending cfg env s

-- -4: this replica leads the new view, and takes up what waited for it
def takeUp (cfg : EngineConfig) (env : BridgeEnv) (r : ViewOutput × ViewReplica) : ViewOutput × ViewReplica :=
  if r.1.ret = -4 then
    let pending := popPending cfg env r.2
    let complained := popComplained cfg env pending.2
    ({ (r.1.before pending.1).before complained.1 with ret := r.1.ret }, complained.2)
  else r

def internalCommit (cfg : EngineConfig) (env : BridgeEnv) (s : ViewReplica) : ConsensusMessage → ViewOutput × ViewReplica
  | .request request => commitRequest cfg env s request
  | .view packet => dispatchViewPacket cfg s packet
  | .recoveryDataResp response => (.answer 0, { s with recoveryQueue := s.recoveryQueue ++ [response] })
  | .other => (.answer 0, s)

def consensusCommit (cfg : EngineConfig) (env : BridgeEnv) (s : ViewReplica) (message : ConsensusMessage) :
    ViewOutput × ViewReplica :=
  if !cfg.enableViewchange then internalCommit cfg env s message
  else
    let s := { s with started := true }
    match s.isInViewChange, message with
    | true, .request request => (.answer 0, { s with requestPending := s.requestPending ++ [request] })
    | _, _ =>
      let waited := drained cfg env s
      let r := takeUp cfg env (internalCommit cfg env waited.2 message)
      (waited.1.before r.1, r.2)

def ConsensusMessage.forced : ConsensusMessage → ConsensusMessage
  | .request r => .request { r with forceRecovery := true }
  | message => message

-- the difference is unsigned
def recoverRequest (cfg : EngineConfig) (env : BridgeEnv) (s : ViewReplica) (seq currentView : ℕ)
    (message : ConsensusMessage) : ViewOutput × ViewReplica :=
  if s.engine.isCommitted seq then (.answer 0, s)
  else if 1000 < toUint64 (seq - s.engine.lastSeq) then (.answer 0, s)
  else internalCommit cfg env (s.setCurrentViewAndNewPrimary cfg currentView) message.forced

-- a response is taken from the queue, or the next request of the one that was taken
def remoteRecoveryProcess (cfg : EngineConfig) (env : BridgeEnv) (s : ViewReplica) : ViewOutput × ViewReplica :=
  match s.recovering with
  | .cons seq currentView message rest => recoverRequest cfg env { s with recovering := rest } seq currentView message
  | .nil =>
    match s.recoveryQueue with
    | [] => (.answer 0, s)
    | response :: queue => (.answer 0, { s with recoveryQueue := queue, recovering := response })

structure Checkpoints where
  stable : ℕ
  unstable : ℕ
  deriving DecidableEq, Repr

def sendViewChangeMsg (cfg : EngineConfig) (s : ViewReplica) (ckpt : Checkpoints) : ViewPacket :=
  let minSeq := max ckpt.stable ckpt.unstable
  .viewChange cfg.selfId (some ⟨s.currentView + s.viewChangeCounter, minSeq,
    (List.range' (minSeq + 1) (s.highestPreparedSeq - minSeq)).filter s.engine.isCommitted⟩)

def startViewChange (cfg : EngineConfig) (s : ViewReplica) (ckpt : Checkpoints) : ViewOutput × ViewReplica :=
  (⟨0, [sendViewChangeMsg cfg s ckpt], [], []⟩, { s with status := .readyViewChange })

def triggerViewChangeNow (cfg : EngineConfig) (s : ViewReplica) (ckpt : Checkpoints) : ViewOutput × ViewReplica :=
  startViewChange cfg { s with started := true } ckpt

def timeoutHandler (cfg : EngineConfig) (s : ViewReplica) (replicaId : ℤ) (ckpt : Checkpoints) :
    ViewOutput × ViewReplica :=
  if !s.started || decide (s.engine.consensus.info.primaryId ≠ replicaId) then (.answer 0, s)
  else
    match s.status with
    | .none => startViewChange cfg { s with viewChangeCounter := 1 } ckpt
    | .readyNewView => startViewChange cfg { s with viewChangeCounter := s.viewChangeCounter + 1 } ckpt
    | _ => startViewChange cfg s ckpt

def checkSysStatus (s : ViewReplica) (primary : ℤ) (view : ℕ) : ViewReplica :=
  if 0 < primary ∧ primary ≠ s.engine.consensus.info.primaryId ∧ s.currentView < view then
    { s with engine := { s.engine with consensus := { s.engine.consensus with info := ⟨primary, view⟩ } } }
  else s

inductive ViewEvent
  | commit (env : BridgeEnv) (message : ConsensusMessage)
  | engine (ev : EngineEvent) (quiet : ev.messages = [])
  | triggerViewChangeNow (ckpt : Checkpoints)
  | replicaTimeout (replicaId : ℤ) (ckpt : Checkpoints)
  | committableSeqChanged
  | checkSysStatus (primary : ℤ) (view : ℕ)
  | checkStatus (lastSeq : ℕ)
  | remoteRecovery (env : BridgeEnv)

def viewStep (cfg : EngineConfig) (s : ViewReplica) : ViewEvent → ViewOutput × ViewReplica
  | .commit env message => consensusCommit cfg env s message
  | .engine ev _ =>
    let r := engineStep cfg s.engine ev
    (⟨0, [], [], [r.1]⟩, { s with engine := r.2 })
  | .triggerViewChangeNow ckpt => triggerViewChangeNow cfg s ckpt
  | .replicaTimeout replicaId ckpt => timeoutHandler cfg s replicaId ckpt
  | .committableSeqChanged => (.answer 0, { s with status := .none })
  | .checkSysStatus primary view => (.answer 0, checkSysStatus s primary view)
  | .checkStatus lastSeq => (.answer 0, s.setNextCommitSeq (lastSeq + 1))
  | .remoteRecovery env => remoteRecoveryProcess cfg env s

def viewNext (cfg : EngineConfig) (s : ViewReplica) (ev : ViewEvent) : ViewReplica := (viewStep cfg s ev).2

def ViewReplica.withRegistry (s : ViewReplica) (registry : Registry) : ViewReplica :=
  { s with engine := { s.engine with consensus := { s.engine.consensus with registry := registry } } }

def AsNeverForced (cfg : EngineConfig) (s : ViewReplica) (packet : ViewPacket) : Prop :=
  dispatchViewPacket cfg s packet =
    ((dispatchViewPacket cfg (s.withRegistry .empty) packet).1,
      (dispatchViewPacket cfg (s.withRegistry .empty) packet).2.withRegistry s.engine.consensus.registry)

structure HandledUntilInstall (cfg : EngineConfig) (before after : ViewReplica) (packet : ViewPacket) : Prop where
  handled : before.forced = false → AsNeverForced cfg before packet
  refused : before.forced = true → dispatchViewPacket cfg after packet = (.answer (-2), after)
  recorded : before.forced = true → after.viewchangeRequest = before.viewchangeRequest
  announced : before.forced = true → after.newViewIsSent = before.newViewIsSent

structure Deafens (s s' : ViewReplica) : Prop where
  registry : Grows s.engine.consensus.registry s'.engine.consensus.registry
  recorded : s.forced = true → s'.viewchangeRequest = s.viewchangeRequest
  announced : s.forced = true → s'.newViewIsSent = s.newViewIsSent

variable {s s' : ViewReplica}

lemma Deafens.refl (s : ViewReplica) : Deafens s s := ⟨.refl _, fun _ => rfl, fun _ => rfl⟩

lemma Deafens.forced (h : Deafens s s') (hs : s.forced = true) : s'.forced = true := h.registry.hasAny hs

lemma Deafens.trans {s'' : ViewReplica} (h : Deafens s s') (h' : Deafens s' s'') : Deafens s s'' where
  registry := h.registry.trans h'.registry
  recorded := fun hs => (h'.recorded (h.forced hs)).trans (h.recorded hs)
  announced := fun hs => (h'.announced (h.forced hs)).trans (h.announced hs)

lemma deafens_of_engine {engine : Replica} (h : Grows s.engine.consensus.registry engine.consensus.registry)
    (hengine : s'.engine = engine) (hrecorded : s'.viewchangeRequest = s.viewchangeRequest)
    (hannounced : s'.newViewIsSent = s.newViewIsSent) : Deafens s s' :=
  ⟨hengine ▸ h, fun _ => hrecorded, fun _ => hannounced⟩

lemma processNewView_registry (s : ViewReplica) (isRecovery : Bool) (data : Option NewViewMessage) :
    (processNewView cfg s isRecovery data).2.engine.consensus.registry = s.engine.consensus.registry := by
  cases data with
  | none => rfl
  | some message =>
    rw [processNewView]
    repeat' split
    all_goals rfl

lemma processViewChange_registry (s : ViewReplica) (senderId : ℤ) (data : Option ViewChangeMessage) :
    (processViewChange cfg s senderId data).2.engine.consensus.registry = s.engine.consensus.registry := by
  cases data with
  | none => rfl
  | some message =>
    rw [processViewChange]
    dsimp only [sendNewViewMsg]
    repeat' split
    all_goals rfl

lemma dispatchViewPacket_forced (h : s.forced = true) (packet : ViewPacket) :
    dispatchViewPacket cfg s packet = (.answer (-2), s) := by
  rw [dispatchViewPacket, if_pos h]

lemma dispatchViewPacket_registry (s : ViewReplica) (packet : ViewPacket) :
    (dispatchViewPacket cfg s packet).2.engine.consensus.registry = s.engine.consensus.registry := by
  rw [dispatchViewPacket]
  split
  · rfl
  · cases packet with
    | viewChange senderId data => exact processViewChange_registry s senderId data
    | newView senderId isRecovery data => exact processNewView_registry s isRecovery data

lemma dispatchViewPacket_deafens (s : ViewReplica) (packet : ViewPacket) :
    Deafens s (dispatchViewPacket cfg s packet).2 := by
  cases hforced : s.forced with
  | true =>
    rw [dispatchViewPacket_forced hforced]
    exact .refl s
  | false =>
    refine ⟨Or.inl (dispatchViewPacket_registry s packet), fun h => ?_, fun h => ?_⟩
    all_goals exact absurd (hforced.symm.trans h) (by simp)

lemma commitRequest_deafens (env : BridgeEnv) (s : ViewReplica) (request : Request) :
    Deafens s (commitRequest cfg env s request).2 :=
  deafens_of_engine (receive_grows cfg env s.engine request) rfl rfl rfl

lemma commitAll_deafens (env : BridgeEnv) (requests : List Request) (s : ViewReplica) :
    Deafens s (commitAll cfg env requests s).2 := by
  induction requests generalizing s with
  | nil => exact .refl s
  | cons request rest ih => exact (commitRequest_deafens env s request).trans (ih _)

lemma popPending_deafens (env : BridgeEnv) (s : ViewReplica) : Deafens s (popPending cfg env s).2 :=
  have hcleared : Deafens s { s with requestPending := [] } := ⟨.refl _, fun _ => rfl, fun _ => rfl⟩
  hcleared.trans (commitAll_deafens env s.requestPending _)

lemma popComplained_deafens (env : BridgeEnv) (s : ViewReplica) : Deafens s (popComplained cfg env s).2 :=
  have hcleared : Deafens s { s with requestComplained := [] } := ⟨.refl _, fun _ => rfl, fun _ => rfl⟩
  hcleared.trans (commitAll_deafens env s.requestComplained _)

lemma started_deafens (s : ViewReplica) : Deafens s { s with started := true } :=
  ⟨.refl _, fun _ => rfl, fun _ => rfl⟩

lemma drained_deafens (env : BridgeEnv) (s : ViewReplica) : Deafens s (drained cfg env s).2 := by
  rw [drained]
  split
  · exact .refl s
  · exact popPending_deafens env s

lemma takeUp_deafens (env : BridgeEnv) (r : ViewOutput × ViewReplica) : Deafens r.2 (takeUp cfg env r).2 := by
  rw [takeUp]
  split
  · exact (popPending_deafens env r.2).trans (popComplained_deafens env _)
  · exact .refl r.2

lemma internalCommit_deafens (env : BridgeEnv) (s : ViewReplica) (message : ConsensusMessage) :
    Deafens s (internalCommit cfg env s message).2 := by
  cases message with
  | request request => exact commitRequest_deafens env s request
  | view packet => exact dispatchViewPacket_deafens s packet
  | recoveryDataResp response => exact ⟨.refl _, fun _ => rfl, fun _ => rfl⟩
  | other => exact .refl s

lemma consensusCommit_deafens (env : BridgeEnv) (s : ViewReplica) (message : ConsensusMessage) :
    Deafens s (consensusCommit cfg env s message).2 := by
  rw [consensusCommit]
  split
  · exact internalCommit_deafens env s message
  · dsimp only
    split
    · exact ⟨.refl _, fun _ => rfl, fun _ => rfl⟩
    · have hwaited := (started_deafens s).trans (@drained_deafens cfg env _)
      exact (hwaited.trans (@internalCommit_deafens cfg env _ _)).trans (takeUp_deafens env _)

lemma recoverRequest_deafens (env : BridgeEnv) (s : ViewReplica) (seq currentView : ℕ) (message : ConsensusMessage) :
    Deafens s (recoverRequest cfg env s seq currentView message).2 := by
  rw [recoverRequest]
  repeat' split
  · exact .refl s
  · exact .refl s
  · have hview : Deafens s (s.setCurrentViewAndNewPrimary cfg currentView) := ⟨.refl _, fun _ => rfl, fun _ => rfl⟩
    exact hview.trans (internalCommit_deafens env _ _)

lemma remoteRecoveryProcess_deafens (env : BridgeEnv) (s : ViewReplica) :
    Deafens s (remoteRecoveryProcess cfg env s).2 := by
  rw [remoteRecoveryProcess]
  split
  next seq currentView message rest _ =>
    have htaken : Deafens s { s with recovering := rest } := ⟨.refl _, fun _ => rfl, fun _ => rfl⟩
    exact htaken.trans (recoverRequest_deafens env _ seq currentView message)
  next => split <;> exact ⟨.refl _, fun _ => rfl, fun _ => rfl⟩

lemma startViewChange_deafens (s : ViewReplica) (ckpt : Checkpoints) : Deafens s (startViewChange cfg s ckpt).2 :=
  ⟨.refl _, fun _ => rfl, fun _ => rfl⟩

lemma viewNext_deafens (s : ViewReplica) (ev : ViewEvent) : Deafens s (viewNext cfg s ev) := by
  cases ev with
  | commit env message => exact consensusCommit_deafens env s message
  | engine ev quiet => exact deafens_of_engine (engineStep_grows cfg s.engine ev) rfl rfl rfl
  | triggerViewChangeNow ckpt => exact (started_deafens s).trans (startViewChange_deafens _ ckpt)
  | replicaTimeout replicaId ckpt =>
    rw [viewNext, viewStep, timeoutHandler]
    repeat' split
    all_goals exact ⟨.refl _, fun _ => rfl, fun _ => rfl⟩
  | committableSeqChanged => exact ⟨.refl _, fun _ => rfl, fun _ => rfl⟩
  | checkSysStatus primary view =>
    rw [viewNext, viewStep, checkSysStatus]
    dsimp only
    split <;> exact ⟨.refl _, fun _ => rfl, fun _ => rfl⟩
  | checkStatus lastSeq => exact ⟨.refl _, fun _ => rfl, fun _ => rfl⟩
  | remoteRecovery env => exact remoteRecoveryProcess_deafens env s

lemma run_deafens (events : List ViewEvent) (s : ViewReplica) : Deafens s (run (viewNext cfg) s events) :=
  @run_invariant _ _ (viewNext cfg) (Deafens s) (fun _ ev h => h.trans (viewNext_deafens _ ev)) s events (.refl s)

lemma withRegistry_self {registry : Registry} (h : s.engine.consensus.registry = registry) :
    s.withRegistry registry = s := by
  subst h
  rfl

lemma reachable_registry (cfg : EngineConfig) (primaryId : ℤ) (events : List ViewEvent) :
    (run (viewNext cfg) (.initial cfg primaryId) events).engine.consensus.registry = .empty ∨
      (run (viewNext cfg) (.initial cfg primaryId) events).forced = true :=
  (run_deafens events (.initial cfg primaryId)).registry

theorem viewPackets_handledUntilInstall (cfg : EngineConfig) (primaryId : ℤ) (before after : List ViewEvent)
    (packet : ViewPacket) :
    HandledUntilInstall cfg (run (viewNext cfg) (.initial cfg primaryId) before)
      (run (viewNext cfg) (.initial cfg primaryId) (before ++ after)) packet := by
  have hreachable := reachable_registry cfg primaryId before
  rw [run_append]
  generalize run (viewNext cfg) (.initial cfg primaryId) before = s at hreachable ⊢
  have hdeaf := @run_deafens cfg after s
  refine ⟨fun hnever => ?_, fun hforced => ?_, hdeaf.recorded, hdeaf.announced⟩
  · have hempty := hreachable.resolve_right (by simp [hnever])
    rw [AsNeverForced, withRegistry_self hempty, withRegistry_self (dispatchViewPacket_registry s packet)]
  · exact dispatchViewPacket_forced (hdeaf.forced hforced) packet

def votingReplicas : EngineConfig := { eightReplicas with enableViewchange := true }

def committed (request : Request) : ViewEvent := .commit eightCarEnv (.request request)

def executedListing : List ViewEvent :=
  [.engine (.gossipCancel 0) rfl, committed (listingRequest 0 [0, 1, 2, 3]), committed (listingVote .prepare 1),
    committed (listingVote .prepare 2), committed (listingVote .prepare 3), committed (listingVote .commit 1),
    committed (listingVote .commit 2), committed (listingVote .commit 3), .engine .orderMessage rfl,
    .engine .executeMessage rfl]

def viewTwoWanted : ViewPacket := .viewChange 4 (some ⟨2, 0, []⟩)

-- nothing is in flight any more, and the first VIEWCHANGE of the next epoch is refused
theorem decidedView_blocksViewChange :
    (run (viewNext votingReplicas) (.initial votingReplicas 1) executedListing).engine.executedHashes =
        [(listingRequest 0 [0, 1, 2, 3]).hash] ∧
      (run (viewNext votingReplicas) (.initial votingReplicas 1) executedListing).engine.executeQueue = [] ∧
      (run (viewNext votingReplicas) (.initial votingReplicas 1) executedListing).engine.commitQueue = [] ∧
      ¬AsNeverForced votingReplicas (run (viewNext votingReplicas) (.initial votingReplicas 1) executedListing)
        viewTwoWanted := by
  refine ⟨by decide +kernel, by decide +kernel, by decide +kernel, fun h => ?_⟩
  have hret := congrArg (fun r => r.1.ret) h
  exact absurd hret (by decide +kernel)

end V2vBft.Engine
