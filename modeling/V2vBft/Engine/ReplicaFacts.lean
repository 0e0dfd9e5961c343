import V2vBft.Pbft.ForcedViewFacts
import V2vBft.Engine.CollectorFacts
import V2vBft.Engine.Replica

namespace V2vBft.Engine

open Wire Pbft Bridge

variable {cfg : EngineConfig} {env : BridgeEnv} {s s' s'' : Replica} {request : Request}

structure SameQueues (s s' : Replica) : Prop where
  committedStatus : s'.committedStatus = s.committedStatus
  lastSeq : s'.lastSeq = s.lastSeq
  dataQueue : s'.dataQueue = s.dataQueue
  commitQueue : s'.commitQueue = s.commitQueue
  candidates : s'.candidates = s.candidates
  executeQueue : s'.executeQueue = s.executeQueue
  nextExecuteSeq : s'.nextExecuteSeq = s.nextExecuteSeq

structure SameCore (s s' : Replica) : Prop extends SameQueues s s' where
  pool : s'.pool = s.pool

lemma SameQueues.refl (s : Replica) : SameQueues s s := ⟨rfl, rfl, rfl, rfl, rfl, rfl, rfl⟩

lemma SameQueues.trans (h : SameQueues s s') (h' : SameQueues s' s'') : SameQueues s s'' where
  committedStatus := h'.committedStatus.trans h.committedStatus
  lastSeq := h'.lastSeq.trans h.lastSeq
  dataQueue := h'.dataQueue.trans h.dataQueue
  commitQueue := h'.commitQueue.trans h.commitQueue
  candidates := h'.candidates.trans h.candidates
  executeQueue := h'.executeQueue.trans h.executeQueue
  nextExecuteSeq := h'.nextExecuteSeq.trans h.nextExecuteSeq

lemma SameCore.refl (s : Replica) : SameCore s s := ⟨SameQueues.refl s, rfl⟩

lemma SameCore.trans (h : SameCore s s') (h' : SameCore s' s'') : SameCore s s'' :=
  ⟨h.toSameQueues.trans h'.toSameQueues, h'.pool.trans h.pool⟩

def Replica.inFlight (s : Replica) : List Request := s.commitQueue ++ s.candidates ++ s.executeQueue

lemma SameQueues.inFlight (h : SameQueues s s') : s'.inFlight = s.inFlight := by
  rw [Replica.inFlight, h.commitQueue, h.candidates, h.executeQueue, Replica.inFlight]

lemma lookedUp_core (s : Replica) (request : Request) : SameCore s (s.lookedUp request) :=
  ⟨⟨rfl, rfl, rfl, rfl, rfl, rfl, rfl⟩, rfl⟩

def Replica.viewAt (s : Replica) (seq : ℕ) (hash : Bytes) : Option OmnetForcedView :=
  s.consensus.registry.viewAt seq hash

lemma forcedView_eq (s : Replica) (r : Request) : s.forcedView r = s.viewAt r.seq r.hash := findForRequest_fst _ _

@[simp] lemma lookedUp_viewAt (s : Replica) (request : Request) (seq : ℕ) (hash : Bytes) :
    (s.lookedUp request).viewAt seq hash = s.viewAt seq hash := by
  have h := findForRequest_stable s.consensus.registry request { request with seq := seq, hash := hash }
  rwa [findForRequest_fst, findForRequest_fst] at h

@[simp] lemma lookedUp_isActiveForRequest (s : Replica) (request r : Request) (id : ℤ) :
    (s.lookedUp request).isActiveForRequest r id = s.isActiveForRequest r id := by
  rw [Replica.isActiveForRequest, forcedView_eq, lookedUp_viewAt, ← forcedView_eq, Replica.isActiveForRequest]

@[simp] lemma lookedUp_isValidMsg (s : Replica) (request r : Request) :
    (s.lookedUp request).isValidMsg r = s.isValidMsg r := rfl

@[simp] lemma lookedUp_collect (s : Replica) (request r : Request) :
    (s.lookedUp request).collect cfg r = s.collect cfg r := by
  have hquorum : (s.lookedUp request).quorumForRequest cfg r = s.quorumForRequest cfg r := by
    rw [Replica.quorumForRequest, forcedView_eq, lookedUp_viewAt, ← forcedView_eq, Replica.quorumForRequest]
  rw [Replica.collect, hquorum, (lookedUp_core s request).pool, Replica.collect]

lemma collected_core {r : AddResult} (h : SameCore s s') : SameCore (s.collected request r) (s'.collected request r) where
  pool := by simp only [Replica.collected, h.pool]
  committedStatus := by simp only [Replica.collected, h.committedStatus]
  lastSeq := h.lastSeq
  dataQueue := h.dataQueue
  commitQueue := by simp only [Replica.collected, h.commitQueue]
  candidates := h.candidates
  executeQueue := h.executeQueue
  nextExecuteSeq := h.nextExecuteSeq

inductive AddMsg (cfg : EngineConfig) (s : Replica) (request : Request) (r : CollectorResultCode × Replica) : Prop
  | skipped (hcode : r.1 ≠ .stateChanged) (hstate : r.2 = s ∨ r.2 = s.lookedUp request)
  | already (hvalid : s.isValidMsg request = true)
      (hactive : s.isActiveForRequest request request.senderId = true)
      (hcommitted : s.isCommitted request.seq = true) (hstate : r.2 = s.lookedUp request)
  | counted (hvalid : s.isValidMsg request = true) (hactive : s.isActiveForRequest request request.senderId = true)
      (hopen : s.isCommitted request.seq = false) (hcode : r.1 = .stateChanged → (s.collect cfg request).changed = true)
      (hstate : r.2 = (s.lookedUp request).collected request (s.collect cfg request))

theorem addConsensusMsg_cases (cfg : EngineConfig) (s : Replica) (request : Request) :
    AddMsg cfg s request (addConsensusMsg cfg s request) := by
  rw [addConsensusMsg]
  split
  next => exact .skipped (by simp) (Or.inl rfl)
  next hvalid =>
    split
    next => exact .skipped (by simp) (Or.inr rfl)
    next hactive =>
      split
      next hcommitted => exact .already (by simpa using hvalid) (by simpa using hactive) hcommitted rfl
      next hopen =>
        refine .counted (by simpa using hvalid) (by simpa using hactive) (by simpa using hopen) ?_ rfl
        dsimp only
        split <;> simp

def Replica.hears (cfg : EngineConfig) (s : Replica) (request : Request) : Bool :=
  s.isValidMsg request && s.isActiveForRequest request request.senderId &&
    (request.isRecovery || s.isActiveForRequest request cfg.selfId)

lemma Replica.nextExecuteSeq_le (s : Replica) : s.nextExecuteSeq ≤ s.maxPendingExecutedSeq + 1 := by
  rw [Replica.maxPendingExecutedSeq]
  split <;> omega

lemma Replica.hears_active (h : s.hears cfg request = true) : s.isActiveForRequest request request.senderId = true := by
  simp only [Replica.hears, Bool.and_eq_true] at h
  exact h.1.2

inductive VoteStep (cfg : EngineConfig) (s : Replica) (request : Request) (answer : Request) (sent : List Request)
    (s' : Replica) : Prop
  | idle (hcore : SameCore s s') (hsent : sent = [])
  | already (hcore : SameCore s s') (hhears : s.hears cfg request = true)
      (hcommitted : s.isCommitted request.seq = true) (hsent : sent = [] ∨ sent = [answer])
  | counted (hhears : s.hears cfg request = true) (hopen : s.isCommitted request.seq = false)
      (hcore : SameCore (s.collected request (s.collect cfg request)) s')
      (hsent : sent = [] ∨ sent = [answer] ∧ (s.collect cfg request).changed = true)

lemma voteOn_step {answer : Request} (hself : request.isRecovery = true ∨ s.isActiveForRequest request cfg.selfId = true) :
    VoteStep cfg s request answer (voteOn cfg s request answer).1 (voteOn cfg s request answer).2 := by
  have hhears : s.isValidMsg request = true → s.isActiveForRequest request request.senderId = true →
      s.hears cfg request = true := by
    intro hvalid hactive
    simpa [Replica.hears, hvalid, hactive] using hself
  rw [voteOn]
  cases addConsensusMsg_cases cfg s request with
  | skipped hcode hstate =>
    refine .idle ?_ (if_neg hcode)
    rcases hstate with h | h <;> rw [h]
    · exact SameCore.refl s
    · exact lookedUp_core s request
  | already hvalid hactive hcommitted hstate =>
    refine .already (hstate ▸ lookedUp_core s request) (hhears hvalid hactive) hcommitted ?_
    dsimp only
    split
    · exact Or.inr rfl
    · exact Or.inl rfl
  | counted hvalid hactive hopen hcode hstate =>
    refine .counted (hhears hvalid hactive) hopen (hstate ▸ collected_core (lookedUp_core s request)) ?_
    dsimp only
    split
    next h => exact Or.inr ⟨rfl, hcode h⟩
    next => exact Or.inl rfl

lemma VoteStep.of_lookedUp {answer : Request} {sent : List Request}
    (h : VoteStep cfg (s.lookedUp request) request answer sent s') : VoteStep cfg s request answer sent s' := by
  have hhears : (s.lookedUp request).hears cfg request = s.hears cfg request := by
    simp only [Replica.hears, lookedUp_isActiveForRequest, lookedUp_isValidMsg]
  cases h with
  | idle hcore hsent => exact .idle ((lookedUp_core s request).trans hcore) hsent
  | already hcore h hcommitted hsent =>
    exact .already ((lookedUp_core s request).trans hcore) (hhears ▸ h) hcommitted hsent
  | counted h hopen hcore hsent =>
    rw [lookedUp_collect] at hcore hsent
    exact .counted (hhears ▸ h) hopen ((collected_core (lookedUp_core s request)).trans hcore) hsent

lemma VoteStep.silent {answer : Request} {sent : List Request} (h : VoteStep cfg s request answer sent s') :
    VoteStep cfg s request answer [] s' := by
  cases h with
  | idle hcore hsent => exact .idle hcore rfl
  | already hcore hhears hcommitted hsent => exact .already hcore hhears hcommitted (Or.inl rfl)
  | counted hhears hopen hcore hsent => exact .counted hhears hopen hcore (Or.inl rfl)

theorem processPrepareMsg_step (cfg : EngineConfig) (s : Replica) (request : Request) :
    VoteStep cfg s request (commitFor cfg request) (processPrepareMsg cfg s request).1
      (processPrepareMsg cfg s request).2 := by
  rw [processPrepareMsg]
  split
  next hrec => exact (voteOn_step (Or.inl hrec)).silent
  next =>
    split
    next => exact .idle (lookedUp_core s request) rfl
    next hself => exact (voteOn_step (s := s.lookedUp request) (Or.inr (by simpa using hself))).of_lookedUp

theorem processCommitMsg_step (cfg : EngineConfig) (s : Replica) (request : Request) :
    VoteStep cfg s request request [] (processCommitMsg cfg s request) := by
  rw [processCommitMsg]
  split
  next hrec => exact (voteOn_step (Or.inl hrec)).silent
  next =>
    split
    next => exact .idle (lookedUp_core s request) rfl
    next hself => exact (voteOn_step (s := s.lookedUp request) (Or.inr (by simpa using hself))).of_lookedUp.silent

@[simp] lemma addConsensusMsg_viewAt (cfg : EngineConfig) (s : Replica) (request : Request) (seq : ℕ) (hash : Bytes) :
    (addConsensusMsg cfg s request).2.viewAt seq hash = s.viewAt seq hash := by
  cases addConsensusMsg_cases cfg s request with
  | skipped hcode hstate =>
    rcases hstate with h | h <;> rw [h]
    exact lookedUp_viewAt s request seq hash
  | already hvalid hactive hcommitted hstate =>
    rw [hstate]
    exact lookedUp_viewAt s request seq hash
  | counted hvalid hactive hopen hcode hstate =>
    rw [hstate]
    exact lookedUp_viewAt s request seq hash

@[simp] lemma processPrepareMsg_viewAt (cfg : EngineConfig) (s : Replica) (request : Request) (seq : ℕ) (hash : Bytes) :
    (processPrepareMsg cfg s request).2.viewAt seq hash = s.viewAt seq hash := by
  rw [processPrepareMsg]
  split
  next => simp
  next => split <;> simp [voteOn]

@[simp] lemma processCommitMsg_viewAt (cfg : EngineConfig) (s : Replica) (request : Request) (seq : ℕ) (hash : Bytes) :
    (processCommitMsg cfg s request).viewAt seq hash = s.viewAt seq hash := by
  rw [processCommitMsg]
  split
  next => simp
  next => split <;> simp

structure SlotStep (Q : Request → Prop) (c c' : TransactionCollector) : Prop where
  seq : c'.seq = c.seq
  senders : c'.senders = c.senders
  status : c'.status = c.status ∨ c.status = .none ∧ c'.status = .readyPrepare
  stored : ∀ m ∈ c'.stored, m ∈ c.stored ∨ Q m ∧ m.seq = c.seq

lemma SlotStep.refl {Q : Request → Prop} (c : TransactionCollector) : SlotStep Q c c :=
  ⟨rfl, rfl, Or.inl rfl, fun _ hm => Or.inl hm⟩

lemma SlotStep.trans {Q : Request → Prop} {c c' c'' : TransactionCollector} (h : SlotStep Q c c')
    (h' : SlotStep Q c' c'') : SlotStep Q c c'' where
  seq := h'.seq.trans h.seq
  senders := h'.senders.trans h.senders
  status := by
    rcases h'.status with hs' | ⟨hnone, hready⟩
    · rw [hs']
      exact h.status
    · rcases h.status with hs | ⟨_, hs⟩
      · exact Or.inr ⟨hs ▸ hnone, hready⟩
      · exact absurd (hs.symm.trans hnone) (by simp)
  stored := by
    intro m hm
    rcases h'.stored m hm with hm' | ⟨hq, hseq⟩
    · exact h.stored m hm'
    · exact Or.inr ⟨hq, hseq.trans h.seq⟩

structure ProposeStep (Q : Request → Prop) (s s' : Replica) : Prop extends SameQueues s s' where
  capacity : s'.pool.capacity = s.pool.capacity
  slots : ∀ i, SlotStep Q (s.pool.collector i) (s'.pool.collector i)

lemma ProposeStep.trans {Q : Request → Prop} (h : ProposeStep Q s s') (h' : ProposeStep Q s' s'') :
    ProposeStep Q s s'' :=
  ⟨h.toSameQueues.trans h'.toSameQueues, h'.capacity.trans h.capacity, fun i => (h.slots i).trans (h'.slots i)⟩

lemma SameCore.propose {Q : Request → Prop} (h : SameCore s s') : ProposeStep Q s s' :=
  ⟨h.toSameQueues, by rw [h.pool], fun i => by rw [h.pool]; exact SlotStep.refl _⟩

-- READY_EXECUTE is left within the call that reaches it
def Replica.Calm (s : Replica) : Prop := ∀ i, (s.pool.collector i).status ≠ .readyExecute

lemma ProposeStep.calm {Q : Request → Prop} (h : ProposeStep Q s s') (hcalm : s.Calm) : s'.Calm := by
  intro i
  rcases (h.slots i).status with hs | ⟨_, hs⟩
  · rw [hs]
    exact hcalm i
  · simp [hs]

lemma collect_step (cfg : EngineConfig) (request : Request) (hcalm : s.Calm) :
    AddStep cfg.enableViewchange (s.quorumForRequest cfg request) (s.pool.getCollector request.seq) request
      (s.collect cfg request) := addRequest_step _ (hcalm _)

lemma collect_slot (cfg : EngineConfig) {Q : Request → Prop} (hcalm : s.Calm) (htype : request.type = .prePrepare) (hQ : Q request) :
    SlotStep Q (s.pool.getCollector request.seq) (s.collect cfg request).collector ∧
      (s.collect cfg request).committed = none := by
  cases collect_step cfg request hcalm with
  | same hcollector hchanged hcommitted => exact ⟨hcollector ▸ SlotStep.refl _, hcommitted⟩
  | queued _ hseq hcollector hchanged hcommitted =>
    refine ⟨hcollector ▸ ⟨rfl, rfl, Or.inl rfl, fun m hm => ?_⟩, hcommitted⟩
    simp only [TransactionCollector.stored, ← List.append_assoc, List.mem_append, List.mem_singleton] at hm ⊢
    rcases hm with hm | rfl
    · exact Or.inl hm
    · exact Or.inr ⟨hQ, hseq.symm⟩
  | stored _ hseq status hstatus hcollector hcommitted =>
    refine ⟨hcollector ▸ ⟨rfl, rfl, hstatus, fun m hm => ?_⟩, hcommitted⟩
    simp only [TransactionCollector.stored, Option.toList_some, List.singleton_append, List.mem_cons,
      List.mem_append] at hm ⊢
    rcases hm with rfl | hm
    · exact Or.inr ⟨hQ, hseq.symm⟩
    · exact Or.inl (Or.inr hm)
  | voted hno => exact absurd htype hno
  | prepared hno => exact absurd (htype.symm.trans hno) (by simp)
  | executed hno => exact absurd (htype.symm.trans hno) (by simp)

theorem addConsensusMsg_propose (cfg : EngineConfig) {Q : Request → Prop} (hcalm : s.Calm)
    (htype : request.type = .prePrepare) (hQ : Q request) : ProposeStep Q s (addConsensusMsg cfg s request).2 := by
  cases addConsensusMsg_cases cfg s request with
  | skipped hcode hstate =>
    rcases hstate with h | h <;> rw [h]
    · exact (SameCore.refl s).propose
    · exact (lookedUp_core s request).propose
  | already hvalid hactive hcommitted hstate =>
    rw [hstate]
    exact (lookedUp_core s request).propose
  | counted hvalid hactive hopen hcode hstate =>
    obtain ⟨hslot, hnone⟩ := collect_slot cfg hcalm htype hQ
    rw [hstate]
    refine ⟨⟨?_, rfl, rfl, ?_, rfl, rfl, rfl⟩, rfl, fun i => ?_⟩
    · simp [Replica.collected, htype, Replica.lookedUp]
    · simp [Replica.collected, hnone, Replica.lookedUp]
    · simp only [Replica.collected, setCollector_collector, (lookedUp_core s request).pool]
      split
      next hi =>
        rw [hi]
        exact hslot
      next => exact SlotStep.refl _

lemma drainRecovery_propose (cfg : EngineConfig) {Q : Request → Prop} {pending : List Request} (hcalm : s.Calm)
    (hpending : ∀ r ∈ pending, r.type = .prePrepare ∧ Q r) :
    ProposeStep Q s (drainRecovery cfg pending s) ∧
      ∀ r ∈ (drainRecovery cfg pending s).pendingRecovery, r ∈ pending := by
  induction pending generalizing s with
  | nil => exact ⟨⟨⟨rfl, rfl, rfl, rfl, rfl, rfl, rfl⟩, rfl, fun i => SlotStep.refl _⟩, fun r hr => hr⟩
  | cons r pending ih =>
    have hrest : ∀ r ∈ pending, r.type = .prePrepare ∧ Q r := fun q hq => hpending q (List.mem_cons_of_mem _ hq)
    obtain ⟨htype, hQ⟩ := hpending r List.mem_cons_self
    rw [drainRecovery]
    split
    next =>
      split
      next =>
        have hseq : ProposeStep Q s { s with nextSeq := r.seq + 1 } :=
          ⟨⟨rfl, rfl, rfl, rfl, rfl, rfl, rfl⟩, rfl, fun i => SlotStep.refl _⟩
        have hadd := hseq.trans (addConsensusMsg_propose cfg (hseq.calm hcalm) htype hQ)
        obtain ⟨hstep, hmem⟩ := ih (hadd.calm hcalm) hrest
        exact ⟨hadd.trans hstep, fun q hq => List.mem_cons_of_mem _ (hmem q hq)⟩
      next =>
        obtain ⟨hstep, hmem⟩ := ih hcalm hrest
        exact ⟨hstep, fun q hq => List.mem_cons_of_mem _ (hmem q hq)⟩
    next => exact ⟨⟨⟨rfl, rfl, rfl, rfl, rfl, rfl, rfl⟩, rfl, fun i => SlotStep.refl _⟩, fun q hq => hq⟩

@[simp] lemma addConsensusMsg_pendingRecovery (cfg : EngineConfig) (s : Replica) (request : Request) :
    (addConsensusMsg cfg s request).2.pendingRecovery = s.pendingRecovery := by
  cases addConsensusMsg_cases cfg s request with
  | skipped hcode hstate =>
    rcases hstate with h | h
    · rw [h]
    · rw [h]
      rfl
  | already hvalid hactive hcommitted hstate => rw [hstate]; rfl
  | counted hvalid hactive hopen hcode hstate => rw [hstate]; rfl

lemma mem_putRecovery {r : Request} {pending : List Request} (h : r ∈ putRecovery request pending) :
    r ∈ pending ∨ r = request := by
  rw [putRecovery, List.mem_orderedInsert] at h
  rcases h with rfl | h
  · exact Or.inr rfl
  · exact Or.inl (List.mem_of_mem_filter h)

def Replica.Waits (s : Replica) (Q : Request → Prop) : Prop := ∀ r ∈ s.pendingRecovery, r.type = .prePrepare ∧ Q r

lemma processRecoveryPropose_step (cfg : EngineConfig) {Q : Request → Prop} (hcalm : s.Calm) (hwaits : s.Waits Q)
    (htype : request.type = .prePrepare) (hQ : Q request) (hforce : Q { request with forceRecovery := false }) :
    ProposeStep Q s (processRecoveryPropose cfg s request) ∧ (processRecoveryPropose cfg s request).Waits Q := by
  rw [processRecoveryPropose]
  split
  next =>
    obtain ⟨hdrain, hmem⟩ := drainRecovery_propose cfg (s := { s with nextSeq := request.seq + 1 }) hcalm hwaits
    have hseq : ProposeStep Q s { s with nextSeq := request.seq + 1 } :=
      ⟨⟨rfl, rfl, rfl, rfl, rfl, rfl, rfl⟩, rfl, fun i => SlotStep.refl _⟩
    have hdrain := hseq.trans hdrain
    refine ⟨hdrain.trans (addConsensusMsg_propose cfg (hdrain.calm hcalm) htype hforce), fun r hr => ?_⟩
    rw [addConsensusMsg_pendingRecovery] at hr
    exact hwaits r (hmem r hr)
  next =>
    split
    next =>
      refine ⟨⟨⟨rfl, rfl, rfl, rfl, rfl, rfl, rfl⟩, rfl, fun i => SlotStep.refl _⟩, fun r hr => ?_⟩
      rcases mem_putRecovery hr with hr | rfl
      · exact hwaits r hr
      · exact ⟨htype, hQ⟩
    next =>
      split
      next =>
        refine ⟨addConsensusMsg_propose cfg hcalm htype hforce, fun r hr => ?_⟩
        rw [addConsensusMsg_pendingRecovery] at hr
        exact hwaits r hr
      next => exact ⟨(SameCore.refl s).propose, hwaits⟩

structure Accepts (cfg : EngineConfig) (Q : Request → Prop) (s : Replica) (request : Request) (sent : List Request)
    (s' : Replica) : Prop where
  step : ProposeStep Q s s'
  pendingRecovery : s'.pendingRecovery = s.pendingRecovery
  sent : ∀ m ∈ sent, m = prepareFor cfg request

lemma voteOn_accepts {Q : Request → Prop} (hcalm : s.Calm) (htype : request.type = .prePrepare) (hQ : Q request) :
    Accepts cfg Q s request (voteOn cfg s request (prepareFor cfg request)).1
      (voteOn cfg s request (prepareFor cfg request)).2 where
  step := addConsensusMsg_propose cfg hcalm htype hQ
  pendingRecovery := addConsensusMsg_pendingRecovery cfg s request
  sent := by
    intro m hm
    rw [voteOn] at hm
    dsimp only at hm
    split at hm
    · exact List.mem_singleton.mp hm
    · exact absurd hm (by simp)

lemma Accepts.of_core {Q : Request → Prop} {sent : List Request} (hcore : SameCore s s')
    (hpending : s'.pendingRecovery = s.pendingRecovery) (h : Accepts cfg Q s' request sent s'') :
    Accepts cfg Q s request sent s'' :=
  ⟨hcore.propose.trans h.step, h.pendingRecovery.trans hpending, h.sent⟩

lemma Accepts.none {Q : Request → Prop} (hcore : SameCore s s') (hpending : s'.pendingRecovery = s.pendingRecovery) :
    Accepts cfg Q s request [] s' := ⟨hcore.propose, hpending, fun m hm => absurd hm (by simp)⟩

lemma acceptPropose_accepts (cfg : EngineConfig) {Q : Request → Prop} (hcalm : s.Calm)
    (htype : request.type = .prePrepare) (hQ : Q request) :
    Accepts cfg Q s request (acceptPropose cfg s request).1 (acceptPropose cfg s request).2 := by
  rw [acceptPropose]
  split
  next => exact .none (SameCore.refl s) rfl
  next =>
    split
    next => exact .none (lookedUp_core s request) rfl
    next =>
      split
      next => exact .of_core (lookedUp_core s request) rfl (voteOn_accepts hcalm htype hQ)
      next =>
        split
        next => exact .none (lookedUp_core s request) rfl
        next =>
          have hcore : SameCore s { s.lookedUp request with proposed := request.hash :: s.proposed } :=
            ⟨⟨rfl, rfl, rfl, rfl, rfl, rfl, rfl⟩, rfl⟩
          exact .of_core hcore rfl (voteOn_accepts hcalm htype hQ)

def admits (cfg : EngineConfig) (env : BridgeEnv) (s : Replica) (request : Request) : Bool :=
  request.isRecovery || decide (request.senderId = cfg.selfId) || (preVerify env s.consensus request).1

theorem processProposeMsg_step (cfg : EngineConfig) (env : BridgeEnv) {Q : Request → Prop} (hcalm : s.Calm)
    (hwaits : s.Waits Q) (htype : request.type = .prePrepare)
    (hQ : admits cfg env s request = true → Q request ∧ Q { request with forceRecovery := false }) :
    ProposeStep Q s (processProposeMsg cfg env s request).2 ∧ (processProposeMsg cfg env s request).2.Waits Q ∧
      ∀ m ∈ (processProposeMsg cfg env s request).1.sent, m = prepareFor cfg request := by
  rw [processProposeMsg]
  split
  next hrec =>
    obtain ⟨hrequest, hforce⟩ := hQ (by simp [admits, hrec])
    obtain ⟨hstep, hwaits'⟩ := processRecoveryPropose_step cfg hcalm hwaits htype hrequest hforce
    exact ⟨hstep, hwaits', fun m hm => absurd hm (by simp [Output.none])⟩
  next hrec =>
    split
    next hself =>
      have h := acceptPropose_accepts cfg hcalm htype (hQ (by simp [admits, hself])).1
      refine ⟨h.step, fun r hr => hwaits r ?_, h.sent⟩
      exact h.pendingRecovery ▸ hr
    next hself =>
      dsimp only
      split
      next hok =>
        set s₁ := ({ s with consensus := (preVerify env s.consensus request).2 } : Replica).lookedUp request with hs₁
        have hcore : SameCore s s₁ := ⟨⟨rfl, rfl, rfl, rfl, rfl, rfl, rfl⟩, rfl⟩
        have h := Accepts.of_core hcore rfl
          (acceptPropose_accepts cfg (s := s₁) hcalm htype (hQ (by simp [admits, hok])).1)
        refine ⟨h.step, fun r hr => hwaits r ?_, h.sent⟩
        exact h.pendingRecovery ▸ hr
      next =>
        refine ⟨⟨⟨rfl, rfl, rfl, rfl, rfl, rfl, rfl⟩, rfl, fun i => SlotStep.refl _⟩, hwaits, fun m hm => ?_⟩
        exact absurd hm (by simp [Output.none])

theorem processNewRequest_step (cfg : EngineConfig) (env : BridgeEnv) (s : Replica) (request : Request)
    (htype : request.type = .newTxns) :
    SameCore s (processNewRequest cfg env s request).2 ∧
      (processNewRequest cfg env s request).2.pendingRecovery = s.pendingRecovery ∧
      ∀ m ∈ (processNewRequest cfg env s request).1.sent, m.type ≠ .prepare ∧ m.type ≠ .commit := by
  rw [processNewRequest]
  split
  next => exact ⟨SameCore.refl s, rfl, fun m hm => absurd hm (by simp [Output.none])⟩
  next =>
    split
    next =>
      refine ⟨SameCore.refl s, rfl, fun m hm => ?_⟩
      rw [List.mem_singleton.mp hm, htype]
      simp
    next =>
      dsimp only
      split
      next =>
        rw [propose]
        repeat' split
        · exact ⟨⟨⟨rfl, rfl, rfl, rfl, rfl, rfl, rfl⟩, rfl⟩, rfl, fun m hm => absurd hm (by simp)⟩
        · exact ⟨⟨⟨rfl, rfl, rfl, rfl, rfl, rfl, rfl⟩, rfl⟩, rfl, fun m hm => absurd hm (by simp)⟩
        · refine ⟨⟨⟨rfl, rfl, rfl, rfl, rfl, rfl, rfl⟩, rfl⟩, rfl, fun m hm => ?_⟩
          rw [List.mem_singleton.mp hm]
          simp
      next => exact ⟨⟨⟨rfl, rfl, rfl, rfl, rfl, rfl, rfl⟩, rfl⟩, rfl, fun m hm => absurd hm (by simp [Output.none])⟩

end V2vBft.Engine
