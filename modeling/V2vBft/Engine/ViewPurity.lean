import V2vBft.Bridge.CrossLeader
import V2vBft.Engine.StepFacts
import V2vBft.Library.GuardedRun

/-! Which votes move a request that has a forced view: runs of one replica with the messages it received. -/

namespace V2vBft.Engine

open Wire Pbft Bridge Library.GuardedRun

variable {cfg : EngineConfig} {s : Replica} {ev : EngineEvent}

structure Audit where
  replica : Replica
  received : List Request

def Audit.initial (cfg : EngineConfig) (primaryId : ℤ) : Audit := ⟨.initial cfg primaryId, []⟩

def EngineEvent.messages : EngineEvent → List Request
  | .receive _ request => [request]
  | _ => []

def auditStep (cfg : EngineConfig) (t : Audit) (ev : EngineEvent) : Audit :=
  ⟨(engineStep cfg t.replica ev).2, ev.messages ++ t.received⟩

def preVerifies (cfg : EngineConfig) (s : Replica) (request : Request) : Bool :=
  match request.type with
  | .newTxns => decide (request.hash ∉ s.executedHashes) && decide (cfg.selfId = s.consensus.info.primaryId)
  | .prePrepare => !request.isRecovery && !decide (request.senderId = cfg.selfId)
  | _ => false

def installed (cfg : EngineConfig) (s : Replica) : EngineEvent → Registry
  | .receive env request =>
    if preVerifies cfg s request then (preVerify env s.consensus request).2.registry else s.consensus.registry
  | .installPending view => ((s.consensus.installOmnetPendingForcedView view).getD s.consensus).registry
  | _ => s.consensus.registry

lemma drainRecovery_viewAt (cfg : EngineConfig) (pending : List Request) (s : Replica) (seq : ℕ) (hash : Bytes) :
    (drainRecovery cfg pending s).viewAt seq hash = s.viewAt seq hash := by
  induction pending generalizing s with
  | nil => rfl
  | cons r pending ih =>
    rw [drainRecovery]
    split
    next =>
      rw [ih]
      split
      next => exact addConsensusMsg_viewAt cfg { s with nextSeq := r.seq + 1 } r seq hash
      next => rfl
    next => rfl

lemma processRecoveryPropose_viewAt (cfg : EngineConfig) (s : Replica) (request : Request) (seq : ℕ) (hash : Bytes) :
    (processRecoveryPropose cfg s request).viewAt seq hash = s.viewAt seq hash := by
  rw [processRecoveryPropose]
  split
  next =>
    rw [addConsensusMsg_viewAt]
    exact drainRecovery_viewAt cfg s.pendingRecovery { s with nextSeq := request.seq + 1 } seq hash
  next =>
    split
    next => rfl
    next =>
      split
      next => exact addConsensusMsg_viewAt cfg s _ seq hash
      next => rfl

lemma acceptPropose_viewAt (cfg : EngineConfig) (s : Replica) (request : Request) (seq : ℕ) (hash : Bytes) :
    (acceptPropose cfg s request).2.viewAt seq hash = s.viewAt seq hash := by
  rw [acceptPropose]
  split
  next => rfl
  next =>
    split
    next => exact lookedUp_viewAt s request seq hash
    next =>
      split
      next => simp [voteOn]
      next =>
        split
        next => exact lookedUp_viewAt s request seq hash
        next =>
          rw [voteOn, addConsensusMsg_viewAt]
          exact lookedUp_viewAt s request seq hash

lemma receive_viewAt (cfg : EngineConfig) (env : BridgeEnv) (s : Replica) (request : Request) (seq : ℕ) (hash : Bytes) :
    (internalConsensusCommit cfg env s request).2.viewAt seq hash =
      (installed cfg s (.receive env request)).viewAt seq hash := by
  rw [internalConsensusCommit, installed, preVerifies]
  cases htype : request.type with
  | prepare => exact processPrepareMsg_viewAt cfg s request seq hash
  | commit => exact processCommitMsg_viewAt cfg s request seq hash
  | newTxns =>
    dsimp only
    rw [processNewRequest]
    split
    next hexecuted => simp [hexecuted, Replica.viewAt]
    next hexecuted =>
      split
      next hother => simp [hother, Replica.viewAt]
      next hprimary =>
        have hlook := lookedUp_viewAt { s with consensus := (preVerify env s.consensus request).2 } request seq hash
        simp only [hexecuted, not_not.mp hprimary, not_false_eq_true, decide_true, Bool.and_true, if_true]
        split
        next =>
          rw [propose]
          split
          · exact hlook
          · split <;> exact hlook
        next => rfl
  | prePrepare =>
    dsimp only
    rw [processProposeMsg]
    split
    next hrec =>
      rw [hrec]
      exact processRecoveryPropose_viewAt cfg s request seq hash
    next hrec =>
      split
      next hself =>
        simp only [hself, decide_true, Bool.not_true, Bool.and_false]
        exact acceptPropose_viewAt cfg s request seq hash
      next hself =>
        simp only [hrec, hself, decide_false, Bool.not_false, Bool.and_true, if_true]
        split
        next =>
          rw [acceptPropose_viewAt]
          exact lookedUp_viewAt { s with consensus := (preVerify env s.consensus request).2 } request seq hash
        next => rfl

theorem engineStep_viewAt (cfg : EngineConfig) (s : Replica) (ev : EngineEvent) (seq : ℕ) (hash : Bytes) :
    (engineStep cfg s ev).2.viewAt seq hash = (installed cfg s ev).viewAt seq hash := by
  cases ev with
  | receive env request => exact receive_viewAt cfg env s request seq hash
  | orderMessage => exact congrArg (fun c => c.registry.viewAt seq hash) (orderMessage_advance s).consensus
  | gossipCancel epoch => exact congrArg (fun c => c.registry.viewAt seq hash) (gossipCancel_advance s epoch).consensus
  | executeMessage =>
    rw [engineStep, executeMessage]
    split
    next => rfl
    next => split <;> rfl
  | updateCheckPointStatus =>
    rw [engineStep, updateCheckPointStatus]
    split <;> rfl
  | promotePrimaryFromCert primaryOmnet =>
    rw [engineStep, promotePrimaryFromCert]
    split <;> rfl
  | getVerifiedVoteProgress request =>
    rw [engineStep]
    split
    next => exact lookedUp_viewAt s request seq hash
    next => rfl
  | _ => rfl

-- every vote recorded so far is a member's in the views that stand after the event's installations
def votersKept (cfg : EngineConfig) (s : Replica) (ev : EngineEvent) : Prop :=
  ∀ i < 2 * s.pool.capacity, ∀ v ∈ (s.pool.collector i).senders,
    ((installed cfg s ev).viewAt (s.pool.collector i).seq v.hash).all fun w => w.isActiveResdbSender v.senderId

-- a completing vote has the hash of the stored request, or brings the request of its hash in
def mainAgrees (cfg : EngineConfig) (s : Replica) : EngineEvent → Prop
  | .receive _ request => completes cfg s request →
    (cfg.enableViewchange = true ∧ request.type = .prepare) ∨
      ∀ m ∈ (s.pool.getCollector request.seq).mainRequest, (s.viewAt m.seq m.hash).isSome → m.hash = request.hash
  | _ => True

def purityOk (cfg : EngineConfig) (t : Audit) (ev : EngineEvent) : Prop :=
  votersKept cfg t.replica ev ∧ mainAgrees cfg t.replica ev

instance instDecidableMainAgrees : ∀ ev, Decidable (mainAgrees cfg s ev)
  | .receive _ request => inferInstanceAs (Decidable (completes cfg s request → _))
  | .orderMessage | .executeMessage | .updateCheckPointStatus | .expireProposed _ | .expireExecuted _
  | .gossipCancel _ | .prepareLocalSubmission | .promotePrimaryFromCert _ | .setPrimary _ _ | .installPending _
  | .getVerifiedVoteProgress _ => inferInstanceAs (Decidable True)

instance (t : Audit) : Decidable (purityOk cfg t ev) :=
  have : Decidable (votersKept cfg t.replica ev) :=
    inferInstanceAs (Decidable (∀ i < 2 * t.replica.pool.capacity, ∀ v ∈ (t.replica.pool.collector i).senders, _ = true))
  inferInstanceAs (Decidable (_ ∧ _))

structure PurityInv (t : Audit) : Prop where
  calm : t.replica.Calm
  waits : t.replica.Waits fun _ => True
  capacity : 0 < t.replica.pool.capacity
  stored : ∀ i, ∀ m ∈ (t.replica.pool.collector i).stored, m.seq = (t.replica.pool.collector i).seq
  received : ∀ i, ∀ v ∈ (t.replica.pool.collector i).senders,
    ∃ r ∈ t.received, voteOf r = v ∧ r.seq = (t.replica.pool.collector i).seq
  members : ∀ i < 2 * t.replica.pool.capacity, ∀ v ∈ (t.replica.pool.collector i).senders,
    ∀ w, t.replica.viewAt (t.replica.pool.collector i).seq v.hash = some w → w.isActiveResdbSender v.senderId = true

lemma getCapacity_pos (size : ℕ) : 0 < getCapacity size := by
  rw [getCapacity]
  split
  next => exact Nat.one_pos
  next => exact Nat.two_pow_pos _

lemma purityInv_initial (cfg : EngineConfig) (primaryId : ℤ) : PurityInv (Audit.initial cfg primaryId) where
  calm i := by simp [Audit.initial, Replica.initial, LockFreeCollectorPool.create]
  waits r hr := absurd hr (by simp [Audit.initial, Replica.initial])
  capacity := getCapacity_pos _
  stored i m hm := absurd hm (by simp [Audit.initial, Replica.initial, LockFreeCollectorPool.create])
  received i v hv := absurd hv (by simp [Audit.initial, Replica.initial, LockFreeCollectorPool.create])
  members i _ v hv := absurd hv (by simp [Audit.initial, Replica.initial, LockFreeCollectorPool.create])

lemma isActiveResdbSender_of_isActiveForRequest {request : Request} {id : ℤ} {w : OmnetForcedView}
    (h : s.isActiveForRequest request id = true) (hw : s.viewAt request.seq request.hash = some w) :
    w.isActiveResdbSender id = true := by
  rw [Replica.isActiveForRequest, forcedView_eq, hw] at h
  exact h

lemma installed_vote {env : BridgeEnv} {request : Request} (htype : request.type = .prepare ∨ request.type = .commit) :
    installed cfg s (.receive env request) = s.consensus.registry := by
  rw [installed, preVerifies]
  rcases htype with h | h <;> rw [h] <;> rfl

lemma purityInv_step {t : Audit} (hinv : PurityInv t) (hok : purityOk cfg t ev) : PurityInv (auditStep cfg t ev) := by
  have hspec := engineStep_spec cfg ev hinv.calm hinv.waits fun _ _ _ _ _ => ⟨trivial, trivial⟩
  refine ⟨hspec.calm hinv.calm, hspec.waits, hspec.capacity ▸ hinv.capacity, fun i m hm => ?_, fun i v hv => ?_,
    fun i hi v hv w hw => ?_⟩
  · rw [auditStep] at hm ⊢
    cases hspec.slots i with
    | proposals h =>
      rw [h.seq]
      rcases h.stored m hm with hm | ⟨_, hseq⟩
      · exact hinv.stored i m hm
      · exact hseq
    | fresh n hn h => exact absurd hm (by simp [h])
    | vote env request hev htype hhears hopen hindex h =>
      obtain ⟨hseq, hstored, _⟩ := collect_vote cfg hinv.calm htype
      dsimp only at hm ⊢
      rw [h] at hm ⊢
      rw [hseq]
      exact hinv.stored _ m (hstored m hm)
  · rw [auditStep] at hv ⊢
    have hold : ∀ j, v ∈ (t.replica.pool.collector j).senders →
        ∃ r ∈ ev.messages ++ t.received, voteOf r = v ∧ r.seq = (t.replica.pool.collector j).seq := by
      intro j hj
      obtain ⟨r, hr, hvote, hseq⟩ := hinv.received j v hj
      exact ⟨r, List.mem_append_right _ hr, hvote, hseq⟩
    cases hspec.slots i with
    | proposals h =>
      rw [h.seq]
      exact hold i (h.senders ▸ hv)
    | fresh n hn h => exact absurd hv (by simp [h])
    | vote env request hev htype hhears hopen hindex h =>
      obtain ⟨hseq, _, hsenders⟩ := collect_vote cfg hinv.calm htype
      dsimp only at hv ⊢
      rw [h] at hv ⊢
      rw [hseq]
      rcases hsenders v hv with hv | ⟨rfl, hc⟩
      · exact hold _ hv
      · refine ⟨request, ?_, rfl, hc.symm⟩
        rw [hev]
        exact List.mem_append_left _ (List.mem_singleton_self _)
  · rw [auditStep] at hi hv hw
    dsimp only at hi hv hw
    rw [hspec.capacity] at hi
    rw [engineStep_viewAt] at hw
    have hold : ∀ j < 2 * t.replica.pool.capacity, v ∈ (t.replica.pool.collector j).senders →
        (installed cfg t.replica ev).viewAt (t.replica.pool.collector j).seq v.hash = some w →
        w.isActiveResdbSender v.senderId = true := by
      intro j hj hmem hview
      have hall := hok.1 j hj v hmem
      rwa [hview] at hall
    cases hspec.slots i with
    | proposals h =>
      rw [h.seq] at hw
      exact hold i hi (h.senders ▸ hv) hw
    | fresh n hn h => exact absurd hv (by simp [h])
    | vote env request hev htype hhears hopen hindex h =>
      obtain ⟨hseq, _, hsenders⟩ := collect_vote cfg hinv.calm htype
      rw [h] at hv hw
      rw [hseq] at hw
      rcases hsenders v hv with hv | ⟨rfl, hc⟩
      · rw [hindex] at hi
        exact hold _ hi hv hw
      · rw [hev, installed_vote htype, hc] at hw
        exact isActiveResdbSender_of_isActiveForRequest (Replica.hears_active hhears) hw

def Moves (c c' : TransactionCollector) (type : RequestType) : Prop :=
  type = .prepare ∧ c.status = .readyPrepare ∧ c'.status = .readyCommit ∨
    type = .commit ∧ c.status = .readyCommit ∧ c'.status = .executed

structure PureQuorum (received : List Request) (c : TransactionCollector) (type : RequestType) (m : Request)
    (w : OmnetForcedView) : Prop where
  members : ∀ id ∈ c.voters type m.hash, w.isActiveResdbSender id = true
  received : ∀ id ∈ c.voters type m.hash,
    ∃ r ∈ received, r.type = type ∧ r.seq = m.seq ∧ r.hash = m.hash ∧ r.senderId = id
  quorum : w.quorum ≤ (c.voters type m.hash).card

lemma PurityInv.pureQuorum {t : Audit} (hinv : PurityInv t) {seq : ℕ} {type : RequestType} {m : Request}
    {w : OmnetForcedView} (hmain : m ∈ (t.replica.pool.getCollector seq).mainRequest)
    (hview : t.replica.viewAt m.seq m.hash = some w)
    (hquorum : w.quorum ≤ ((t.replica.pool.getCollector seq).voters type m.hash).card) :
    PureQuorum t.received (t.replica.pool.getCollector seq) type m w := by
  have hseq : m.seq = (t.replica.pool.getCollector seq).seq :=
    hinv.stored _ m (List.mem_append_left _ (Option.mem_toList.mpr hmain))
  have hindex : t.replica.pool.index seq < 2 * t.replica.pool.capacity :=
    Nat.mod_lt _ (Nat.mul_pos Nat.two_pos hinv.capacity)
  refine ⟨fun id hid => ?_, fun id hid => ?_, hquorum⟩
  · rw [hseq] at hview
    exact hinv.members _ hindex _ (mem_voters.mp hid) w hview
  · obtain ⟨r, hr, hvote, hrseq⟩ := hinv.received _ _ (mem_voters.mp hid)
    rw [voteOf, Vote.mk.injEq] at hvote
    exact ⟨r, hr, hvote.1, hrseq.trans hseq.symm, hvote.2.1, hvote.2.2⟩

lemma quorum_le_of_completes {request : Request} {c : TransactionCollector} {w : OmnetForcedView}
    (hview : s.viewAt request.seq request.hash = some w)
    (hquorum : Completes (s.quorumForRequest cfg request) (s.pool.getCollector request.seq) request)
    (hsenders : c.senders = ((s.pool.getCollector request.seq).record request).senders) :
    w.quorum ≤ (c.voters request.type request.hash).card := by
  rw [Completes, Replica.quorumForRequest, forcedView_eq, hview] at hquorum
  rwa [TransactionCollector.voters, hsenders, ← TransactionCollector.voters]

theorem forcedQuorum_pure {primaryId : ℤ} {events : List EngineEvent}
    (h : Guarded (auditStep cfg) (purityOk cfg) (Audit.initial cfg primaryId) (events ++ [ev]))
    {seq : ℕ} {type : RequestType} {m : Request} {w : OmnetForcedView}
    (hmoves : Moves ((run (auditStep cfg) (Audit.initial cfg primaryId) events).replica.pool.getCollector seq)
      ((run (auditStep cfg) (Audit.initial cfg primaryId) (events ++ [ev])).replica.pool.getCollector seq) type)
    (hmain : m ∈ ((run (auditStep cfg) (Audit.initial cfg primaryId) (events ++ [ev])).replica.pool.getCollector
      seq).mainRequest)
    (hview : (run (auditStep cfg) (Audit.initial cfg primaryId) (events ++ [ev])).replica.viewAt m.seq m.hash = some w) :
    PureQuorum (run (auditStep cfg) (Audit.initial cfg primaryId) (events ++ [ev])).received
      ((run (auditStep cfg) (Audit.initial cfg primaryId) (events ++ [ev])).replica.pool.getCollector seq) type m w := by
  obtain ⟨hpre, hok⟩ := guarded_snoc h
  have hinv := Guarded.invariant (fun _ _ => purityInv_step) (purityInv_initial cfg primaryId) hpre
  rw [run_append, run_cons, run_nil] at hmoves hmain hview ⊢
  generalize hbefore : run (auditStep cfg) (Audit.initial cfg primaryId) events = before at *
  have hafter := purityInv_step hinv hok
  refine hafter.pureQuorum hmain hview ?_
  have hspec := engineStep_spec cfg ev hinv.calm hinv.waits fun _ _ _ _ _ => ⟨trivial, trivial⟩
  have hslot : (auditStep cfg before ev).replica.pool.getCollector seq =
      (engineStep cfg before.replica ev).2.pool.collector (before.replica.pool.index seq) := by
    rw [LockFreeCollectorPool.getCollector, LockFreeCollectorPool.index, auditStep, hspec.capacity,
      ← LockFreeCollectorPool.index]
  have hmseq : m.seq = ((auditStep cfg before ev).replica.pool.getCollector seq).seq :=
    hafter.stored _ m (List.mem_append_left _ (Option.mem_toList.mpr hmain))
  rw [hslot] at hmoves hmain hmseq ⊢
  rw [auditStep] at hview
  dsimp only at hview
  rw [engineStep_viewAt] at hview
  cases hspec.slots (before.replica.pool.index seq) with
  | proposals hstep =>
    rcases hmoves with ⟨_, hb, ha⟩ | ⟨_, hb, ha⟩ <;> rcases hstep.status with hs | ⟨_, hs⟩ <;>
      simp [LockFreeCollectorPool.getCollector, hs] at hb ha <;> simp [hb] at ha
  | fresh n hn hfresh => rcases hmoves with ⟨_, _, ha⟩ | ⟨_, _, ha⟩ <;> simp [hfresh] at ha
  | vote env request hev htype hhears hopen hindex hcollect =>
    have hgc : before.replica.pool.getCollector seq = before.replica.pool.getCollector request.seq := by
      rw [LockFreeCollectorPool.getCollector, hindex, ← LockFreeCollectorPool.getCollector]
    rw [hgc, hcollect] at hmoves
    rw [hcollect] at hmain hmseq ⊢
    obtain rfl := hev
    rw [installed_vote htype] at hview
    have hclaim : ∀ (hash : m.hash = request.hash) (hrseq : (before.replica.pool.getCollector request.seq).seq = request.seq)
        (hseq' : (before.replica.collect cfg request).collector.seq = (before.replica.pool.getCollector request.seq).seq),
        before.replica.viewAt request.seq request.hash = some w := by
      intro hash hrseq hseq'
      rw [hmseq, hseq', hrseq, hash] at hview
      exact hview
    cases collect_step cfg request hinv.calm with
    | same hc =>
      rw [hc] at hmoves
      rcases hmoves with ⟨_, hb, ha⟩ | ⟨_, hb, ha⟩ <;> simp [hb] at ha
    | queued _ _ hc =>
      rw [hc] at hmoves
      rcases hmoves with ⟨_, hb, ha⟩ | ⟨_, hb, ha⟩ <;> simp [hb] at ha
    | stored hprePrepare => rcases htype with h' | h' <;> simp [h'] at hprePrepare
    | voted _ _ hc =>
      rw [hc] at hmoves
      rcases hmoves with ⟨_, hb, ha⟩ | ⟨_, hb, ha⟩ <;> simp [TransactionCollector.record, hb] at ha
    | prepared hprepare hseq hb hquorum hseq' hsenders ha hmain' =>
      obtain rfl : type = .prepare := by
        rcases hmoves with ⟨ht, _⟩ | ⟨_, hc, _⟩
        · exact ht
        · exact absurd (hb.symm.trans hc) (by simp)
      have hhash : m.hash = request.hash := by
        rcases hmain' with ⟨hoff, hsame⟩ | ⟨_, hall⟩
        · rcases hok.2 ⟨hhears, hopen, hseq, hquorum, Or.inl ⟨hprepare, hb⟩⟩ with ⟨hon, _⟩ | hall
          · exact absurd (hoff.symm.trans hon) (by simp)
          · exact hall m (hsame ▸ hmain) (by rw [Replica.viewAt, hview]; rfl)
        · exact hall m hmain
      rw [hhash, ← hprepare]
      exact quorum_le_of_completes (hclaim hhash hseq hseq') hquorum hsenders
    | executed hcommit hseq hb hquorum hseq' hsenders ha hmain' =>
      obtain rfl : type = .commit := by
        rcases hmoves with ⟨_, hc, _⟩ | ⟨ht, _⟩
        · exact absurd (hb.symm.trans hc) (by simp)
        · exact ht
      have hhash : m.hash = request.hash := by
        rcases hok.2 ⟨hhears, hopen, hseq, hquorum, Or.inr ⟨hcommit, hb⟩⟩ with ⟨_, hno⟩ | hall
        · exact absurd (hcommit.symm.trans hno) (by simp)
        · exact hall m (hmain' ▸ hmain) (by rw [Replica.viewAt, hview]; rfl)
      rw [hhash, ← hcommit]
      exact quorum_le_of_completes (hclaim hhash hseq hseq') hquorum hsenders

def eightReplicas : EngineConfig := ⟨3, 8, 1, false⟩

def listingVote (type : RequestType) (senderId : ℤ) : Request :=
  { listingRequest 0 [0, 1, 2, 3] with type := type, senderId := senderId, data := .batch [] }

def proposalEvent : EngineEvent := .receive eightCarEnv (listingRequest 0 [0, 1, 2, 3])

def prepareEvent (senderId : ℤ) : EngineEvent := .receive eightCarEnv (listingVote .prepare senderId)

def afterEvents (events : List EngineEvent) : Audit := run (auditStep eightReplicas) (.initial eightReplicas 1) events

theorem forcedQuorum_pure_members :
    PureQuorum (afterEvents [proposalEvent, prepareEvent 1, prepareEvent 2, prepareEvent 3]).received
      ((afterEvents [proposalEvent, prepareEvent 1, prepareEvent 2, prepareEvent 3]).replica.pool.getCollector 3)
      .prepare (listingRequest 0 [0, 1, 2, 3]) (installedView 0 [0, 1, 2, 3]) :=
  @forcedQuorum_pure _ (prepareEvent 3) _ [proposalEvent, prepareEvent 1, prepareEvent 2] (by decide +kernel) 3 _ _ _
    (Or.inl ⟨rfl, by decide +kernel, by decide +kernel⟩) (by decide +kernel)
    (by decide +kernel)

-- PREPAREs of three non-members come before the PRE_PREPARE that installs the view; one member's completes them
theorem lateView_impure :
    Moves ((afterEvents [prepareEvent 6, prepareEvent 7, prepareEvent 8, proposalEvent]).replica.pool.getCollector 3)
        ((afterEvents [prepareEvent 6, prepareEvent 7, prepareEvent 8, proposalEvent,
          prepareEvent 1]).replica.pool.getCollector 3) .prepare ∧
      (((afterEvents [prepareEvent 6, prepareEvent 7, prepareEvent 8, proposalEvent,
          prepareEvent 1]).replica.pool.getCollector 3).mainRequest = some (listingRequest 0 [0, 1, 2, 3])) ∧
      (afterEvents [prepareEvent 6, prepareEvent 7, prepareEvent 8, proposalEvent, prepareEvent 1]).replica.viewAt 3
        (ascii "omnet-tx-3") = some (installedView 0 [0, 1, 2, 3]) ∧
      (((afterEvents [prepareEvent 6, prepareEvent 7, prepareEvent 8, proposalEvent,
          prepareEvent 1]).replica.pool.getCollector 3).voters .prepare (ascii "omnet-tx-3")).filter
        (fun id => (installedView 0 [0, 1, 2, 3]).isActiveResdbSender id) = {1} :=
  ⟨Or.inl ⟨rfl, by decide +kernel, by decide +kernel⟩, by decide +kernel, by decide +kernel, by decide +kernel⟩

end V2vBft.Engine
