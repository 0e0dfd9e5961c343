import V2vBft.Engine.ExecutorOrder
import V2vBft.Engine.ViewChange

/-! The steps of the consensus manager, as what they do one after the other to the engine. -/

namespace V2vBft.Engine

open Wire Pbft Bridge Library.GuardedRun

inductive ManagerEvent
  | engine (ev : EngineEvent)
  | setInfo (info : SystemInfo)
  | setNextCommitSeq (seq : ℕ)

def ManagerEvent.requests : ManagerEvent → List Request
  | .engine ev => ev.messages
  | .setInfo _ | .setNextCommitSeq _ => []

def managerStep (cfg : EngineConfig) (s : Replica) : ManagerEvent → List Output × Replica
  | .engine ev => ([(engineStep cfg s ev).1], (engineStep cfg s ev).2)
  | .setInfo info => ([], { s with consensus := { s.consensus with info := info } })
  | .setNextCommitSeq seq => ([], s.setNextCommitSeq seq)

def managerRun (cfg : EngineConfig) : Replica → List ManagerEvent → List Output × Replica
  | s, [] => ([], s)
  | s, ev :: rest =>
    let first := managerStep cfg s ev
    let others := managerRun cfg first.2 rest
    (first.1 ++ others.1, others.2)

def enteringMoves (cfg : EngineConfig) (message : NewViewMessage) : List ManagerEvent :=
  let maxSeq := (redoSeqs message.viewchangeMessages).getLast?.getD (maxStable message.viewchangeMessages 0)
  [.setInfo ⟨newPrimary cfg.replicas message.viewNumber, message.viewNumber⟩, .setNextCommitSeq (maxSeq + 1)]

def RedoRequest.asRequest (r : RedoRequest) (type : RequestType) : Request :=
  ⟨type, r.seq, r.currentView, r.senderId, r.hash, .batch [], r.isRecovery, r.forceRecovery⟩

-- without data: a VIEWCHANGE or NEWVIEW of the default message, a response without requests
def RedoRequest.message (r : RedoRequest) : ConsensusMessage :=
  match r.type with
  | .consensus type => .request (r.asRequest type)
  | .viewChange => .view (.viewChange r.senderId (some ⟨0, 0, []⟩))
  | .newView => .view (.newView r.senderId r.isRecovery (some ⟨0, [], []⟩))
  | .recoveryDataResp => .recoveryDataResp .nil
  | .other => .other

-- a PRE_PREPARE to send again goes to the replica itself, and the communicator drops it
def RedoRequest.broadcast (r : RedoRequest) : List ConsensusMessage :=
  if r.type = .consensus .prePrepare then [] else [r.message]

def RedoRequest.requests (r : RedoRequest) : List Request :=
  match r.type with
  | .consensus type => if type = .prePrepare then [] else [r.asRequest type]
  | _ => []

def ViewPacket.requests : ViewPacket → List Request
  | .viewChange _ _ => []
  | .newView _ isRecovery data =>
    if isRecovery then [] else data.toList.flatMap fun message => message.request.flatMap RedoRequest.requests

mutual

def ConsensusMessage.requests : ConsensusMessage → List Request
  | .request r => [r]
  | .view packet => packet.requests
  | .recoveryDataResp response => response.requests
  | .other => []

def RecoveryResponse.requests : RecoveryResponse → List Request
  | .nil => []
  | .cons _ _ (.request r) rest => { r with forceRecovery := true } :: rest.requests
  | .cons _ _ message rest => message.requests ++ rest.requests

end

def ViewEvent.requests : ViewEvent → List Request
  | .commit _ message => message.requests
  | _ => []

def ViewReplica.waiting (v : ViewReplica) : List Request :=
  v.requestPending ++ v.requestComplained ++ v.recoveryQueue.flatMap RecoveryResponse.requests ++ v.recovering.requests

def ViewOutput.repeated (out : ViewOutput) : List Request :=
  out.sent.flatMap ViewPacket.requests ++ out.redo.flatMap RedoRequest.requests

-- a step with requests of a kind leaves such requests waiting, and no others reach the engine or go out again
structure Carries (cfg : EngineConfig) (K : Request → Prop) (s : Replica) (v : ViewReplica) (out : ViewOutput) :
    Prop where
  waiting : ∀ m ∈ v.waiting, K m
  moves : ∃ moves, managerRun cfg s moves = (out.engine, v.engine) ∧ ∀ ev ∈ moves, ∀ m ∈ ev.requests, K m
  again : ∀ m ∈ out.repeated, K m

def viewOutputs (cfg : EngineConfig) : ViewReplica → List ViewEvent → List Output
  | _, [] => []
  | v, ev :: rest => (viewStep cfg v ev).1.engine ++ viewOutputs cfg (viewNext cfg v ev) rest

variable {cfg : EngineConfig} {s : Replica} {request : Request} {K : Request → Prop} {v v' : ViewReplica}
  {out out' : ViewOutput} {env : BridgeEnv}

lemma managerRun_append (first second : List ManagerEvent) :
    managerRun cfg s (first ++ second) =
      ((managerRun cfg s first).1 ++ (managerRun cfg (managerRun cfg s first).2 second).1,
        (managerRun cfg (managerRun cfg s first).2 second).2) := by
  induction first generalizing s with
  | nil => rfl
  | cons ev rest ih => rw [List.cons_append, managerRun, ih, managerRun, List.append_assoc]

lemma managerRun_singleton (ev : ManagerEvent) : managerRun cfg s [ev] = managerStep cfg s ev := by
  rw [managerRun, managerRun, List.append_nil]

lemma requests_cons (seq currentView : ℕ) (message : ConsensusMessage) (rest : RecoveryResponse) :
    (RecoveryResponse.cons seq currentView message rest).requests = message.forced.requests ++ rest.requests := by
  cases message <;> simp [RecoveryResponse.requests, ConsensusMessage.forced, ConsensusMessage.requests]

lemma forall_waiting :
    (∀ m ∈ v.waiting, K m) ↔ (∀ m ∈ v.requestPending, K m) ∧ (∀ m ∈ v.requestComplained, K m) ∧
      (∀ response ∈ v.recoveryQueue, ∀ m ∈ response.requests, K m) ∧ ∀ m ∈ v.recovering.requests, K m := by
  simp only [ViewReplica.waiting, List.forall_mem_append, List.forall_mem_flatMap, and_assoc]

lemma Carries.of_moves (moves : List ManagerEvent) (hwaiting : ∀ m ∈ v.waiting, K m)
    (hrun : managerRun cfg s moves = (out.engine, v.engine)) (hk : ∀ ev ∈ moves, ∀ m ∈ ev.requests, K m)
    (hagain : ∀ m ∈ out.repeated, K m) : Carries cfg K s v out :=
  ⟨hwaiting, ⟨moves, hrun, hk⟩, hagain⟩

lemma Carries.quiet (hwaiting : ∀ m ∈ v.waiting, K m) (hout : out.engine = []) (hengine : v.engine = s)
    (hagain : out.repeated = []) : Carries cfg K s v out :=
  .of_moves [] hwaiting (by rw [hout, hengine, managerRun]) (fun _ h => absurd h List.not_mem_nil)
    fun m hm => absurd (hagain ▸ hm) List.not_mem_nil

lemma Carries.moved (ev : ManagerEvent) (hwaiting : ∀ m ∈ v.waiting, K m)
    (hstep : managerStep cfg s ev = (out.engine, v.engine)) (hquiet : ev.requests = []) (hagain : out.repeated = []) :
    Carries cfg K s v out := by
  refine .of_moves [ev] hwaiting (by rw [managerRun_singleton, hstep]) (fun e he m hm => ?_)
    fun m hm => absurd (hagain ▸ hm) List.not_mem_nil
  rw [List.mem_singleton.mp he, hquiet] at hm
  exact absurd hm List.not_mem_nil

lemma mem_repeated_before {m : Request} : m ∈ (out.before out').repeated ↔ m ∈ out.repeated ∨ m ∈ out'.repeated := by
  simp only [ViewOutput.repeated, ViewOutput.before, List.flatMap_append, List.mem_append]
  tauto

lemma Carries.before (h : Carries cfg K s v out) (h' : Carries cfg K v.engine v' out') :
    Carries cfg K s v' (out.before out') where
  waiting := h'.waiting
  moves := by
    obtain ⟨first, hfirst, hkfirst⟩ := h.moves
    obtain ⟨second, hsecond, hksecond⟩ := h'.moves
    refine ⟨first ++ second, ?_, fun ev hev => ?_⟩
    · rw [managerRun_append, hfirst, hsecond]
      rfl
    · exact (List.mem_append.mp hev).elim (hkfirst ev) (hksecond ev)
  again := by
    intro m hm
    exact (mem_repeated_before.mp hm).elim (h.again m) (h'.again m)

lemma commitRequest_carries (hwaiting : ∀ m ∈ v.waiting, K m) (hk : K request) :
    Carries cfg K v.engine (commitRequest cfg env v request).2 (commitRequest cfg env v request).1 := by
  obtain ⟨hpending, hcomplained, hqueued, hrest⟩ := forall_waiting.mp hwaiting
  refine .of_moves [.engine (.receive env request)] (forall_waiting.mpr ⟨hpending, fun m hm => ?_, hqueued, hrest⟩)
    (managerRun_singleton _) (fun ev hev m hm => ?_) fun m hm => absurd hm List.not_mem_nil
  · rcases List.mem_append.mp hm with hold | hnew
    · exact hcomplained m hold
    · split at hnew
      · rw [List.mem_singleton.mp hnew]
        exact hk
      · exact absurd hnew List.not_mem_nil
  · rw [List.mem_singleton.mp hev] at hm
    rw [List.mem_singleton.mp hm]
    exact hk

lemma commitAll_carries {requests : List Request} (hwaiting : ∀ m ∈ v.waiting, K m) (hk : ∀ m ∈ requests, K m) :
    Carries cfg K v.engine (commitAll cfg env requests v).2 (commitAll cfg env requests v).1 := by
  induction requests generalizing v with
  | nil => exact .quiet hwaiting rfl rfl rfl
  | cons request rest ih =>
    have hfirst := @commitRequest_carries cfg request K v env hwaiting (hk request List.mem_cons_self)
    exact hfirst.before (ih hfirst.waiting fun m hm => hk m (List.mem_cons_of_mem _ hm))

lemma popPending_carries (hwaiting : ∀ m ∈ v.waiting, K m) :
    Carries cfg K v.engine (popPending cfg env v).2 (popPending cfg env v).1 := by
  obtain ⟨hpending, hothers⟩ := forall_waiting.mp hwaiting
  have hpopped : ∀ m ∈ ViewReplica.waiting { v with requestPending := [] }, K m :=
    forall_waiting.mpr ⟨fun _ h => absurd h List.not_mem_nil, hothers⟩
  exact @commitAll_carries cfg K { v with requestPending := [] } env _ hpopped hpending

lemma popComplained_carries (hwaiting : ∀ m ∈ v.waiting, K m) :
    Carries cfg K v.engine (popComplained cfg env v).2 (popComplained cfg env v).1 := by
  obtain ⟨hpending, hcomplained, hothers⟩ := forall_waiting.mp hwaiting
  have hpopped : ∀ m ∈ ViewReplica.waiting { v with requestComplained := [] }, K m :=
    forall_waiting.mpr ⟨hpending, fun _ h => absurd h List.not_mem_nil, hothers⟩
  exact @commitAll_carries cfg K { v with requestComplained := [] } env _ hpopped hcomplained

lemma processNewView_carries {senderId : ℤ} {isRecovery : Bool} {data : Option NewViewMessage}
    (hwaiting : ∀ m ∈ v.waiting, K m) (hk : ∀ m ∈ (ViewPacket.newView senderId isRecovery data).requests, K m) :
    Carries cfg K v.engine (processNewView cfg v isRecovery data).2 (processNewView cfg v isRecovery data).1 := by
  cases data with
  | none => exact .quiet hwaiting rfl rfl rfl
  | some message =>
    rw [processNewView]
    dsimp only
    split
    · exact .moved (.setInfo ⟨newPrimary cfg.replicas message.viewNumber, message.viewNumber⟩) hwaiting rfl rfl rfl
    next hfirst =>
      split
      · exact .quiet hwaiting rfl rfl rfl
      · refine .of_moves (enteringMoves cfg message) hwaiting rfl (by simp [enteringMoves, ManagerEvent.requests])
          fun m hm => hk m ?_
        rw [ViewPacket.requests, if_neg hfirst]
        simpa [ViewOutput.repeated] using hm

lemma getPrepareMsg_requests (selfId : ℤ) (viewNumber : ℕ) (messages : List ViewChangeMessage) :
    (getPrepareMsg selfId viewNumber messages).flatMap RedoRequest.requests = [] := by
  simp [getPrepareMsg, RedoRequest.requests]

lemma sendNewViewMsg_repeated (v : ViewReplica) (viewNumber : ℕ) :
    ViewOutput.repeated ⟨0, (sendNewViewMsg cfg v viewNumber).1, [], []⟩ = [] := by
  rw [sendNewViewMsg]
  split
  · rfl
  · simp [ViewOutput.repeated, ViewPacket.requests, getPrepareMsg_requests]

lemma sendNewViewMsg_kept (v : ViewReplica) (viewNumber : ℕ) :
    (sendNewViewMsg cfg v viewNumber).2.waiting = v.waiting ∧ (sendNewViewMsg cfg v viewNumber).2.engine = v.engine := by
  rw [sendNewViewMsg]
  split <;> exact ⟨rfl, rfl⟩

lemma processViewChange_carries (senderId : ℤ) (data : Option ViewChangeMessage) (hwaiting : ∀ m ∈ v.waiting, K m) :
    Carries cfg K v.engine (processViewChange cfg v senderId data).2 (processViewChange cfg v senderId data).1 := by
  cases data with
  | none => exact .quiet hwaiting rfl rfl rfl
  | some message =>
    rw [processViewChange]
    dsimp only
    split
    · exact .quiet hwaiting rfl rfl rfl
    split
    · exact .quiet hwaiting rfl rfl rfl
    split
    · obtain ⟨hkept, hengine⟩ := @sendNewViewMsg_kept cfg (v.addRequest senderId message) message.viewNumber
      refine .quiet (fun m hm => hwaiting m ?_) rfl hengine (sendNewViewMsg_repeated _ _)
      exact (hkept ▸ hm : m ∈ (v.addRequest senderId message).waiting)
    · exact .quiet hwaiting rfl rfl rfl

lemma dispatchViewPacket_carries {packet : ViewPacket} (hwaiting : ∀ m ∈ v.waiting, K m)
    (hk : ∀ m ∈ packet.requests, K m) :
    Carries cfg K v.engine (dispatchViewPacket cfg v packet).2 (dispatchViewPacket cfg v packet).1 := by
  rw [dispatchViewPacket]
  split
  · exact .quiet hwaiting rfl rfl rfl
  · cases packet with
    | viewChange senderId data => exact processViewChange_carries senderId data hwaiting
    | newView senderId isRecovery data => exact processNewView_carries hwaiting hk

lemma takeUp_carries {r : ViewOutput × ViewReplica} (h : Carries cfg K s r.2 r.1) :
    Carries cfg K s (takeUp cfg env r).2 (takeUp cfg env r).1 := by
  rw [takeUp]
  split
  · have hpending := h.before (@popPending_carries cfg K r.2 env h.waiting)
    have hboth := hpending.before (@popComplained_carries cfg K (popPending cfg env r.2).2 env hpending.waiting)
    exact ⟨hboth.waiting, hboth.moves, hboth.again⟩
  · exact h

lemma drained_carries (hwaiting : ∀ m ∈ v.waiting, K m) :
    Carries cfg K v.engine (drained cfg env v).2 (drained cfg env v).1 := by
  rw [drained]
  split
  · exact .quiet hwaiting rfl rfl rfl
  · exact popPending_carries hwaiting

lemma internalCommit_carries {message : ConsensusMessage} (hwaiting : ∀ m ∈ v.waiting, K m)
    (hk : ∀ m ∈ message.requests, K m) :
    Carries cfg K v.engine (internalCommit cfg env v message).2 (internalCommit cfg env v message).1 := by
  cases message with
  | request request => exact commitRequest_carries hwaiting (hk request (by simp [ConsensusMessage.requests]))
  | view packet => exact dispatchViewPacket_carries hwaiting (by simpa only [ConsensusMessage.requests] using hk)
  | recoveryDataResp response =>
    rw [ConsensusMessage.requests] at hk
    obtain ⟨hpending, hcomplained, hqueued, hrest⟩ := forall_waiting.mp hwaiting
    refine .quiet (forall_waiting.mpr ⟨hpending, hcomplained, fun other hother => ?_, hrest⟩) rfl rfl rfl
    rcases List.mem_append.mp hother with hold | hnew
    · exact hqueued other hold
    · rw [List.mem_singleton.mp hnew]
      exact hk
  | other => exact .quiet hwaiting rfl rfl rfl

lemma consensusCommit_carries {message : ConsensusMessage} (hwaiting : ∀ m ∈ v.waiting, K m)
    (hk : ∀ m ∈ message.requests, K m) :
    Carries cfg K v.engine (consensusCommit cfg env v message).2 (consensusCommit cfg env v message).1 := by
  rw [consensusCommit]
  split
  · exact internalCommit_carries hwaiting hk
  · dsimp only
    split
    next request =>
      obtain ⟨hpending, hothers⟩ := forall_waiting.mp hwaiting
      refine .quiet (forall_waiting.mpr ⟨fun m hm => ?_, hothers⟩) rfl rfl rfl
      rcases List.mem_append.mp hm with hold | hnew
      · exact hpending m hold
      · exact hk m (by simpa [ConsensusMessage.requests] using hnew)
    next =>
      have hdrained := @drained_carries cfg K { v with started := true } env hwaiting
      exact hdrained.before (takeUp_carries (internalCommit_carries hdrained.waiting hk))

lemma recoverRequest_carries {seq currentView : ℕ} {message : ConsensusMessage} (hwaiting : ∀ m ∈ v.waiting, K m)
    (hk : ∀ m ∈ message.forced.requests, K m) :
    Carries cfg K v.engine (recoverRequest cfg env v seq currentView message).2
      (recoverRequest cfg env v seq currentView message).1 := by
  rw [recoverRequest]
  split
  · exact .quiet hwaiting rfl rfl rfl
  split
  · exact .quiet hwaiting rfl rfl rfl
  · have hview : Carries cfg K v.engine (v.setCurrentViewAndNewPrimary cfg currentView) (.answer 0) :=
      .moved (.setInfo ⟨newPrimary cfg.replicas currentView, currentView⟩) hwaiting rfl rfl rfl
    exact hview.before (internalCommit_carries hwaiting hk)

lemma remoteRecoveryProcess_carries (hwaiting : ∀ m ∈ v.waiting, K m) :
    Carries cfg K v.engine (remoteRecoveryProcess cfg env v).2 (remoteRecoveryProcess cfg env v).1 := by
  obtain ⟨hpending, hcomplained, hqueued, hrecovering⟩ := forall_waiting.mp hwaiting
  rw [remoteRecoveryProcess]
  split
  next seq currentView message rest hnext =>
    rw [hnext, requests_cons, List.forall_mem_append] at hrecovering
    have hleft : ∀ m ∈ ViewReplica.waiting { v with recovering := rest }, K m :=
      forall_waiting.mpr ⟨hpending, hcomplained, hqueued, hrecovering.2⟩
    exact @recoverRequest_carries cfg K { v with recovering := rest } env seq currentView message hleft hrecovering.1
  next =>
    split
    · exact .quiet hwaiting rfl rfl rfl
    next response queue hqueue =>
      rw [hqueue, List.forall_mem_cons] at hqueued
      exact .quiet (forall_waiting.mpr ⟨hpending, hcomplained, hqueued.2, hqueued.1⟩) rfl rfl rfl

theorem viewStep_carries {ev : ViewEvent} (hwaiting : ∀ m ∈ v.waiting, K m) (hk : ∀ m ∈ ev.requests, K m) :
    Carries cfg K v.engine (viewStep cfg v ev).2 (viewStep cfg v ev).1 := by
  cases ev with
  | commit env message => exact consensusCommit_carries hwaiting hk
  | engine ev hquiet => exact .moved (.engine ev) hwaiting rfl hquiet rfl
  | triggerViewChangeNow ckpt => exact .quiet hwaiting rfl rfl rfl
  | replicaTimeout replicaId ckpt =>
    rw [viewStep, timeoutHandler]
    repeat' split
    all_goals exact .quiet hwaiting rfl rfl rfl
  | committableSeqChanged => exact .quiet hwaiting rfl rfl rfl
  | checkSysStatus primary view =>
    rw [viewStep, checkSysStatus]
    split
    · exact .moved (.setInfo ⟨primary, view⟩) hwaiting rfl rfl rfl
    · exact .quiet hwaiting rfl rfl rfl
  | checkStatus lastSeq => exact .moved (.setNextCommitSeq (lastSeq + 1)) hwaiting rfl rfl rfl
  | remoteRecovery env => exact remoteRecoveryProcess_carries hwaiting

theorem viewRun_moves (events : List ViewEvent) (v : ViewReplica) :
    ∃ moves, managerRun cfg v.engine moves = (viewOutputs cfg v events, (run (viewNext cfg) v events).engine) := by
  induction events generalizing v with
  | nil => exact ⟨[], rfl⟩
  | cons ev rest ih =>
    have hstep := @viewStep_carries cfg (fun _ => True) v ev (fun _ _ => trivial) fun _ _ => trivial
    obtain ⟨first, hfirst, -⟩ := hstep.moves
    obtain ⟨second, hsecond⟩ := ih (viewNext cfg v ev)
    refine ⟨first ++ second, ?_⟩
    rw [managerRun_append, hfirst]
    dsimp only
    rw [← viewNext, hsecond]
    rfl

def executedSeqs (outs : List Output) : List ℕ := outs.flatMap fun o => o.executed.map Execution.seq

def allHandedOut (outs : List Output) : List ℕ := outs.flatMap handedOut

lemma setNextCommitSeq_inOrder {seq : ℕ} (h : InOrder s) (hnext : toUint64 (toInt32 seq) = s.nextExecuteSeq) :
    InOrder (s.setNextCommitSeq seq) where
  inRange := h.inRange
  behind := h.behind.trans_eq hnext.symm
  queue := by
    have hkept : (s.setNextCommitSeq seq).nextExecuteSeq = s.nextExecuteSeq := hnext
    rw [hkept]
    exact h.queue

theorem managerStep_inOrder (cfg : EngineConfig) (ev : ManagerEvent) (h : InOrder s)
    (hev : ∀ cancelledEpoch, ev ≠ .engine (.gossipCancel cancelledEpoch))
    (hfits : ev = .engine .executeMessage → ∀ r ∈ s.executeQueue.head?, r.seq < int32Bound)
    (hnext : ∀ seq, ev = .setNextCommitSeq seq → toUint64 (toInt32 seq) = s.nextExecuteSeq) :
    InOrder (managerStep cfg s ev).2 ∧
      (executedSeqs (managerStep cfg s ev).1 = [] ∧ (managerStep cfg s ev).2.lastRun = s.lastRun ∨
        executedSeqs (managerStep cfg s ev).1 = [s.lastRun + 1] ∧
          (managerStep cfg s ev).2.lastRun = s.lastRun + 1) := by
  cases ev with
  | engine ev =>
    have hstep := engineStep_inOrder cfg ev h (fun epoch heq => hev epoch (congrArg _ heq)) fun heq => hfits (congrArg _ heq)
    refine ⟨hstep.1, hstep.2.imp (fun hquiet => ⟨?_, hquiet.2⟩) fun hran => ⟨?_, hran.2⟩⟩
    · rw [executedSeqs, managerStep, List.flatMap_singleton, hquiet.1, List.map_nil]
    · rw [executedSeqs, managerStep, List.flatMap_singleton, hran.1]
  | setInfo info => exact ⟨h.same ⟨rfl, rfl, rfl⟩, Or.inl ⟨rfl, rfl⟩⟩
  | setNextCommitSeq seq => exact ⟨setNextCommitSeq_inOrder h (hnext seq rfl), Or.inl ⟨rfl, rfl⟩⟩

theorem managerStep_handedOut (cfg : EngineConfig) (s : Replica) (ev : ManagerEvent) :
    allHandedOut (managerStep cfg s ev).1 = [] ∨
      ∃ env request, ev = .engine (.receive env request) ∧ assigns cfg env s request = true ∧
        allHandedOut (managerStep cfg s ev).1 = [s.nextSeq] := by
  cases ev with
  | engine ev =>
    rw [allHandedOut, managerStep, List.flatMap_singleton]
    exact (engineStep_handedOut cfg s ev).imp_right fun ⟨env, request, hev, hout⟩ =>
      ⟨env, request, congrArg _ hev, hout⟩
  | setInfo info | setNextCommitSeq seq => exact Or.inl rfl

end V2vBft.Engine
