import V2vBft.Engine.Network
import V2vBft.Engine.ViewPurity

/-! A round: one proposal, the honest replicas whose votes are to complete it, and what its collector can do. -/

namespace V2vBft.Engine

open Wire Pbft Bridge Library.GuardedRun

inductive Ballot
  | prepare
  | commit
  deriving DecidableEq

def Ballot.type : Ballot → RequestType
  | .prepare => .prepare
  | .commit => .commit

def Ballot.rank : Ballot → ℕ
  | .prepare => 1
  | .commit => 2

def TransactionStatue.rank : TransactionStatue → ℕ
  | .none => 0
  | .readyPrepare => 1
  | .readyCommit => 2
  | .readyExecute => 3
  | .executed => 3

structure Round (M : Membership) where
  proposal : Request
  voters : Finset ℤ
  proposes : proposal.type = .prePrepare
  regular : proposal.isRecovery = false
  voters_honest : voters ⊆ M.honest

section Definitions

variable {M : Membership} (R : Round M)

def Replica.slot (s : Replica) : TransactionCollector := s.pool.getCollector R.proposal.seq

def Round.vote (b : Ballot) (id : ℤ) : Vote := ⟨b.type, R.proposal.hash, id⟩

structure Round.IsVote (b : Ballot) (id : ℤ) (m : Request) : Prop where
  type : m.type = b.type
  seq : m.seq = R.proposal.seq
  hash : m.hash = R.proposal.hash
  currentView : m.currentView = R.proposal.currentView
  senderId : m.senderId = id
  regular : m.isRecovery = false

def Round.execution : Execution :=
  ⟨R.proposal.seq, R.proposal.currentView, R.proposal.hash, R.proposal.data⟩

def Network.executions (n : Network) (id : ℤ) (seq : ℕ) : List Execution :=
  (n.executed.filter fun x => decide (x.1 = id) && decide (x.2.seq = seq)).map Prod.snd

def Round.favours (i : ℤ) (s : Replica) : Prop :=
  s.consensus.info = ⟨R.proposal.senderId, R.proposal.currentView⟩ ∧
    (∀ j ∈ insert R.proposal.senderId R.voters, s.isActiveForRequest R.proposal j = true) ∧
    ((s.slot R).status ≠ .none → s.quorumForRequest (M.config i) R.proposal ≤ R.voters.card)

structure SamePipeline (s s' : Replica) : Prop where
  commitQueue : s'.commitQueue = s.commitQueue
  candidates : s'.candidates = s.candidates
  executeQueue : s'.executeQueue = s.executeQueue
  nextExecuteSeq : s'.nextExecuteSeq = s.nextExecuteSeq
  executorLastSeq : s'.executorLastSeq = s.executorLastSeq

structure Round.Spares (s s' : Replica) : Prop where
  slot : s'.slot R = s.slot R
  capacity : s'.pool.capacity = s.pool.capacity
  opened : (s.slot R).status ≠ .executed → s'.isCommitted R.proposal.seq = false
  proposed : R.proposal.hash ∈ s'.proposed → R.proposal.hash ∈ s.proposed
  executor : SamePipeline s s'

-- the messages of the round are regular ones, its PRE_PREPARE passes the check, no other hash gets by on faulty votes
def Round.follows (i : ℤ) (s : Replica) (ev : EngineEvent) : Prop :=
  match ev with
  | .receive env r =>
    if r.seq = R.proposal.seq ∧ r.type ≠ .newTxns then
      r.isRecovery = false ∧
        (r.type = .prePrepare → i ≠ R.proposal.senderId → (s.slot R).status = .none →
          (preVerify env s.consensus r).1 = true) ∧
        (r.type = .prepare → r.hash ≠ R.proposal.hash → M.f < s.quorumForRequest (M.config i) r)
    else R.Spares s (engineStep (M.config i) s (.receive env r)).2
  | .orderMessage | .executeMessage => True
  | ev => R.Spares s (engineStep (M.config i) s ev).2

def Round.unrivalled : EngineEvent → Prop
  | .receive _ r => r.type = .prePrepare → r.seq = R.proposal.seq → r = R.proposal
  | _ => True

structure RoundState where
  network : Network
  heard : ℤ → List Request

def RoundState.initial (n : Network) : RoundState := ⟨n, fun _ => []⟩

def roundStep (M : Membership) (t : RoundState) (e : NetworkEvent) : RoundState :=
  ⟨networkStep M t.network e, Function.update t.heard e.id (e.event.messages ++ t.heard e.id)⟩

def Round.ok (t : RoundState) (e : NetworkEvent) : Prop :=
  authentic M t.network e ∧ R.unrivalled e.event ∧
    (e.id ∈ R.voters →
      R.follows e.id (t.network.replica e.id) e.event ∧
        R.favours e.id (engineStep (M.config e.id) (t.network.replica e.id) e.event).2)

structure Round.Rests (n : Network) : Prop where
  slot : ∀ i ∈ R.voters, (n.replica i).slot R = .fresh R.proposal.seq
  capacity : ∀ i ∈ R.voters, 0 < (n.replica i).pool.capacity
  opened : ∀ i ∈ R.voters, (n.replica i).isCommitted R.proposal.seq = false
  proposed : ∀ i ∈ R.voters, R.proposal.hash ∈ (n.replica i).proposed → i = R.proposal.senderId
  favours : ∀ i ∈ R.voters, R.favours i (n.replica i)
  executor : ∀ i ∈ R.voters, (n.replica i).commitQueue = [] ∧ (n.replica i).candidates = [] ∧
    (n.replica i).executeQueue = [] ∧ (n.replica i).nextExecuteSeq = R.proposal.seq ∧
    (n.replica i).lastRun < R.proposal.seq
  unsent : ∀ b : Ballot, ∀ m ∈ n.sent, m.type = b.type → m.seq ≠ R.proposal.seq
  unexecuted : ∀ i ∈ R.voters, n.executions i R.proposal.seq = []

structure Round.Delivered (t : RoundState) : Prop where
  proposal : ∀ i ∈ R.voters, R.proposal ∈ t.heard i
  votes : ∀ i ∈ R.voters, ∀ j ∈ R.voters, ∀ b : Ballot, ∀ m ∈ t.network.sent, R.IsVote b j m → m ∈ t.heard i

section Decidability

variable (s s' : Replica) (i : ℤ)

instance (b : Ballot) (id : ℤ) (m : Request) : Decidable (R.IsVote b id m) :=
  decidable_of_iff (m.type = b.type ∧ m.seq = R.proposal.seq ∧ m.hash = R.proposal.hash ∧
    m.currentView = R.proposal.currentView ∧ m.senderId = id ∧ m.isRecovery = false)
    ⟨fun ⟨h₁, h₂, h₃, h₄, h₅, h₆⟩ => ⟨h₁, h₂, h₃, h₄, h₅, h₆⟩, fun ⟨h₁, h₂, h₃, h₄, h₅, h₆⟩ => ⟨h₁, h₂, h₃, h₄, h₅, h₆⟩⟩

instance : Decidable (R.favours i s) := inferInstanceAs (Decidable (_ ∧ _ ∧ _))

instance : Decidable (SamePipeline s s') :=
  decidable_of_iff (s'.commitQueue = s.commitQueue ∧ s'.candidates = s.candidates ∧ s'.executeQueue = s.executeQueue ∧
    s'.nextExecuteSeq = s.nextExecuteSeq ∧ s'.executorLastSeq = s.executorLastSeq)
    ⟨fun ⟨h₁, h₂, h₃, h₄, h₅⟩ => ⟨h₁, h₂, h₃, h₄, h₅⟩, fun ⟨h₁, h₂, h₃, h₄, h₅⟩ => ⟨h₁, h₂, h₃, h₄, h₅⟩⟩

instance : Decidable (R.Spares s s') :=
  decidable_of_iff (s'.slot R = s.slot R ∧ s'.pool.capacity = s.pool.capacity ∧
    ((s.slot R).status ≠ .executed → s'.isCommitted R.proposal.seq = false) ∧
    (R.proposal.hash ∈ s'.proposed → R.proposal.hash ∈ s.proposed) ∧ SamePipeline s s')
    ⟨fun ⟨h₁, h₂, h₃, h₄, h₅⟩ => ⟨h₁, h₂, h₃, h₄, h₅⟩, fun ⟨h₁, h₂, h₃, h₄, h₅⟩ => ⟨h₁, h₂, h₃, h₄, h₅⟩⟩

instance instDecidableFollows : ∀ ev, Decidable (R.follows i s ev)
  | .receive _ r => inferInstanceAs (Decidable (if r.seq = R.proposal.seq ∧ r.type ≠ .newTxns then _ else _))
  | .orderMessage | .executeMessage => inferInstanceAs (Decidable True)
  | .updateCheckPointStatus | .expireProposed _ | .expireExecuted _ | .gossipCancel _ | .prepareLocalSubmission
  | .promotePrimaryFromCert _ | .setPrimary _ _ | .installPending _ | .getVerifiedVoteProgress _ =>
    inferInstanceAs (Decidable (R.Spares s _))

instance instDecidableUnrivalled : ∀ ev, Decidable (R.unrivalled ev)
  | .receive _ r => inferInstanceAs (Decidable (r.type = .prePrepare → _))
  | .orderMessage | .executeMessage | .updateCheckPointStatus | .expireProposed _ | .expireExecuted _
  | .gossipCancel _ | .prepareLocalSubmission | .promotePrimaryFromCert _ | .setPrimary _ _ | .installPending _
  | .getVerifiedVoteProgress _ => inferInstanceAs (Decidable True)

instance (t : RoundState) (e : NetworkEvent) : Decidable (R.ok t e) :=
  inferInstanceAs (Decidable (authentic M t.network e ∧ _ ∧ _))

end Decidability

end Definitions

section Slots

variable {M : Membership} {R : Round M} {c : TransactionCollector} {r : Request} {b : Ballot} {quorum : ℕ}

lemma Ballot.type_ne (b : Ballot) : b.type ≠ .prePrepare ∧ b.type ≠ .newTxns := by
  cases b <;> exact ⟨RequestType.noConfusion, RequestType.noConfusion⟩

lemma Ballot.type_injective {b b' : Ballot} (h : b.type = b'.type) : b = b' := by
  cases b <;> cases b' <;> first | rfl | exact RequestType.noConfusion h

structure Round.Slot (R : Round M) (c : TransactionCollector) : Prop where
  seq : c.seq = R.proposal.seq
  uncommitted : c.status ≠ .executed → c.isCommitted = false
  calm : c.status ≠ .readyExecute
  unprepared : c.status = .none ∨ c.status = .readyPrepare → c.isPrepared = false
  empty : c.status = .none → c.mainRequest = none ∧ c.view = 0
  main : c.status ≠ .none → c.mainRequest = some R.proposal ∧ c.view = R.proposal.currentView
  waits : ∀ b : Ballot, c.status.rank = b.rank → ∃ j ∈ R.voters, R.vote b j ∉ c.senders

inductive Round.TallyStep (R : Round M) (c : TransactionCollector) (r : Request) (res : AddResult) : Prop
  | held (hstatus : res.collector.status = c.status) (hchanged : res.changed = false)
      (hcommitted : res.committed = none)
  | prepared (htype : r.type = .prepare) (hhash : r.hash = R.proposal.hash) (hbefore : c.status = .readyPrepare)
      (hafter : res.collector.status = .readyCommit) (hchanged : res.changed = true) (hcommitted : res.committed = none)
  | executed (htype : r.type = .commit) (hbefore : c.status = .readyCommit) (hafter : res.collector.status = .executed)
      (hcommitted : res.committed = some R.proposal)

structure Round.Tallied (R : Round M) (c : TransactionCollector) (r : Request) (res : AddResult) : Prop where
  slot : R.Slot res.collector
  step : R.TallyStep c r res
  ret : res.ret = 0 ∨ res.ret = 1
  within : ∀ v ∈ res.collector.senders, v = voteOf r ∨ v ∈ c.senders
  grows : ∀ v ∈ c.senders, v ∈ res.collector.senders
  records : ∀ b : Ballot, r.type = b.type → c.status.rank ≤ b.rank → voteOf r ∈ res.collector.senders

lemma exists_missing {type : RequestType} {hash : Bytes} {S : Finset ℤ} (h : (c.voters type hash).card < S.card) :
    ∃ j ∈ S, (⟨type, hash, j⟩ : Vote) ∉ c.senders := by
  obtain ⟨j, hj, hno⟩ := Finset.exists_mem_notMem_of_card_lt_card h
  exact ⟨j, hj, fun hmem => hno (mem_voters.mpr hmem)⟩

lemma Round.Slot.missing (h : R.Slot c) (hquorum : r.hash = R.proposal.hash → quorum ≤ R.voters.card)
    (hstatus : c.status.rank = b.rank) (hno : r.type = b.type → ¬Completes quorum c r) :
    ∃ j ∈ R.voters, R.vote b j ∉ (c.record r).senders := by
  by_cases hsame : r.type = b.type ∧ r.hash = R.proposal.hash
  · have hlt : ((c.record r).voters r.type r.hash).card < R.voters.card :=
      (not_le.mp (hno hsame.1)).trans_le (hquorum hsame.2)
    rw [hsame.1, hsame.2] at hlt
    exact exists_missing hlt
  · obtain ⟨j, hj, hout⟩ := h.waits b hstatus
    refine ⟨j, hj, fun hmem => ?_⟩
    rcases mem_record.mp hmem with heq | hold
    · rw [Round.vote, voteOf, Vote.mk.injEq] at heq
      exact hsame ⟨heq.1.symm, heq.2.1.symm⟩
    · exact hout hold

lemma countVote_completes (hstatus : c.status.rank = b.rank) (htype : r.type = b.type) (hq : Completes quorum c r) :
    (c.countVote quorum r).1 = true := by
  rw [Completes, htype] at hq
  cases b with
  | prepare =>
    have hb : c.status = .readyPrepare := by
      cases hs : c.status <;> simp [hs, TransactionStatue.rank, Ballot.rank] at hstatus ⊢
    simp [TransactionCollector.countVote, TransactionCollector.voteCount, mayConsensusChangeStatus, htype, hb,
      Ballot.type] at hq ⊢
    simp [hq]
  | commit =>
    have hb : c.status = .readyCommit := by
      cases hs : c.status <;> simp [hs, TransactionStatue.rank, Ballot.rank] at hstatus ⊢
    simp [TransactionCollector.countVote, TransactionCollector.voteCount, mayConsensusChangeStatus, htype, hb,
      Ballot.type] at hq ⊢
    simp [hq]

lemma Round.Slot.held (h : R.Slot c) (hquorum : r.hash = R.proposal.hash → c.status ≠ .none → quorum ≤ R.voters.card)
    (hcount : c.countVote quorum r = (false, c.status)) : R.Slot (c.record r) := by
  refine ⟨h.seq, h.uncommitted, h.calm, h.unprepared, h.empty, h.main, fun b hstatus => ?_⟩
  refine @Round.Slot.missing _ R c r b quorum h (fun hhash => hquorum hhash ?_) hstatus fun htype hq => ?_
  · rintro hnone
    rw [TransactionCollector.record, hnone] at hstatus
    cases b <;> simp [TransactionStatue.rank, Ballot.rank] at hstatus
  · have hdone := countVote_completes (c := c) hstatus htype hq
    rw [hcount] at hdone
    exact absurd hdone (by simp)

lemma mem_record_self (c : TransactionCollector) (r : Request) : voteOf r ∈ (c.record r).senders :=
  mem_record.mpr (Or.inl rfl)

lemma Round.Slot.tallied_held (h : R.Slot c)
    (hquorum : r.hash = R.proposal.hash → c.status ≠ .none → quorum ≤ R.voters.card)
    (hcount : c.countVote quorum r = (false, c.status)) : R.Tallied c r ⟨c.record r, 0, false, none⟩ where
  slot := h.held hquorum hcount
  step := .held rfl rfl rfl
  ret := Or.inl rfl
  within _ hv := mem_record.mp hv
  grows _ hv := mem_record.mpr (Or.inr hv)
  records _ _ _ := mem_record_self c r

lemma Round.Slot.main_of_rank (h : R.Slot c) (hstatus : c.status = .readyPrepare ∨ c.status = .readyCommit) :
    c.mainRequest = some R.proposal ∧ c.view = R.proposal.currentView :=
  h.main (by rcases hstatus with hs | hs <;> simp [hs])

lemma Round.Slot.prepared (h : R.Slot c) (hbefore : c.status = .readyPrepare) (htype : r.type = .prepare)
    (hhash : r.hash = R.proposal.hash)
    (hcommit : ∃ j ∈ R.voters, R.vote .commit j ∉ c.senders) {c' : TransactionCollector} (hseq : c'.seq = c.seq)
    (huncommitted : c'.isCommitted = c.isCommitted) (hstatus : c'.status = .readyCommit)
    (hmain : c'.mainRequest = c.mainRequest) (hview : c'.view = c.view) (hsenders : c'.senders = (c.record r).senders) :
    R.Tallied c r ⟨c', 0, true, none⟩ where
  slot := by
    have hopen : c.status ≠ .executed := by simp [hbefore]
    refine ⟨hseq.trans h.seq, fun _ => huncommitted.trans (h.uncommitted hopen), by simp [hstatus], fun hs => ?_,
      fun hs => by simp [hstatus] at hs, fun _ => ?_, fun b hb => ?_⟩
    · rcases hs with hs | hs <;> simp [hstatus] at hs
    · rw [hmain, hview]
      exact h.main_of_rank (Or.inl hbefore)
    · obtain rfl : b = .commit := by
        cases b with
        | prepare => simp [hstatus, TransactionStatue.rank, Ballot.rank] at hb
        | commit => rfl
      obtain ⟨j, hj, hout⟩ := hcommit
      refine ⟨j, hj, fun hmem => ?_⟩
      rw [hsenders] at hmem
      rcases mem_record.mp hmem with heq | hold
      · rw [Round.vote, voteOf, Vote.mk.injEq] at heq
        exact absurd (heq.1.trans htype) (by simp [Ballot.type])
      · exact hout hold
  step := .prepared htype hhash hbefore hstatus rfl rfl
  ret := Or.inl rfl
  within _ hv := mem_record.mp (hsenders ▸ hv)
  grows _ hv := hsenders ▸ mem_record.mpr (Or.inr hv)
  records _ _ _ := hsenders ▸ mem_record_self c r

lemma Round.Slot.addPrepareProof (h : R.Slot c) (htype : r.type = .prepare)
    (hquorum : r.hash = R.proposal.hash → c.status ≠ .none → quorum ≤ R.voters.card)
    (hhash : Completes quorum c r → c.status = .readyPrepare → r.hash = R.proposal.hash)
    (hcommit : c.status = .readyPrepare → ∃ j ∈ R.voters, R.vote .commit j ∉ c.senders) :
    R.Tallied c r (c.addPrepareProof quorum r) := by
  have hne : r.type ≠ .prePrepare := by simp [htype]
  rw [TransactionCollector.addPrepareProof]
  split
  next hstatus =>
    rcases countVote_cases c quorum hne with hcount | ⟨_, hb, hq, hcount⟩ | ⟨hno, _⟩
    · have hnot : c.status ≠ .readyCommit := by rcases hstatus.1 with hs | hs <;> simp [hs]
      simp only [hcount, if_neg hnot]
      exact h.tallied_held hquorum hcount
    · simp only [hcount, if_true]
      have hkeep : { c.record r with status := .readyCommit, isPrepared := true }.replaceMain r.hash =
          { c.record r with status := .readyCommit, isPrepared := true } := by
        simp only [TransactionCollector.replaceMain, TransactionCollector.record,
          (h.main_of_rank (Or.inl hb)).1, hhash hq hb, if_true]
      rw [hkeep]
      exact h.prepared hb htype (hhash hq hb) (hcommit hb) rfl rfl rfl rfl rfl rfl
    · exact absurd (htype.symm.trans hno) (by simp)
  next hstatus =>
    refine ⟨h, .held rfl rfl rfl, Or.inl rfl, fun v hv => Or.inr hv, fun v hv => hv, fun b hb hrank => ?_⟩
    obtain rfl : b = .prepare := Ballot.type_injective (hb.symm.trans htype)
    refine absurd ?_ hstatus
    have hs : c.status = .none ∨ c.status = .readyPrepare := by
      cases hs : c.status <;> simp [hs, TransactionStatue.rank, Ballot.rank] at hrank ⊢
    exact ⟨hs, h.unprepared hs⟩

lemma Round.Slot.addVote (h : R.Slot c) (htype : r.type = .prepare ∨ r.type = .commit)
    (hquorum : r.hash = R.proposal.hash → c.status ≠ .none → quorum ≤ R.voters.card)
    (hhash : r.type = .prepare → Completes quorum c r → c.status = .readyPrepare → r.hash = R.proposal.hash)
    (hcommit : c.status = .readyPrepare → ∃ j ∈ R.voters, R.vote .commit j ∉ c.senders) :
    R.Tallied c r (c.addVote quorum r) := by
  have hne : r.type ≠ .prePrepare := by rcases htype with h | h <;> simp [h]
  rw [TransactionCollector.addVote]
  rcases countVote_cases c quorum hne with hcount | ⟨hprepare, hb, hq, hcount⟩ | ⟨hct, hb, hq, hcount⟩
  · simp only [hcount, if_neg h.calm]
    exact h.tallied_held hquorum hcount
  · simp only [hcount, reduceCtorEq, if_false]
    exact h.prepared hb hprepare (hhash hprepare hq hb) (hcommit hb) rfl rfl rfl rfl rfl rfl
  · obtain ⟨hmain, hview⟩ := h.main_of_rank (Or.inr hb)
    have hdone : TransactionCollector.commit { c.record r with status := .readyExecute } =
        ({ c.record r with status := .executed, isCommitted := true }, some R.proposal) := by
      simp only [TransactionCollector.commit, TransactionCollector.record, hmain]
    simp only [hcount, if_true, hdone]
    refine ⟨⟨h.seq, fun hs => absurd rfl hs, TransactionStatue.noConfusion, ?_, ?_, fun _ => ⟨hmain, hview⟩,
      fun b hb => ?_⟩, .executed hct hb rfl rfl, Or.inr rfl, fun v hv => mem_record.mp hv, fun v hv => mem_record.mpr (Or.inr hv),
      fun _ _ _ => mem_record_self c r⟩
    · rintro (hs | hs) <;> exact TransactionStatue.noConfusion hs
    · exact fun hs => TransactionStatue.noConfusion hs
    · cases b <;> simp [TransactionStatue.rank, Ballot.rank] at hb

lemma Round.Slot.addRequest (h : R.Slot c) (hopen : c.status ≠ .executed) (hseq : r.seq = R.proposal.seq)
    (htype : r.type = .prepare ∨ r.type = .commit) (enableViewchange : Bool)
    (hquorum : r.hash = R.proposal.hash → c.status ≠ .none → quorum ≤ R.voters.card)
    (hhash : r.type = .prepare → Completes quorum c r → c.status = .readyPrepare → r.hash = R.proposal.hash)
    (hcommit : c.status = .readyPrepare → ∃ j ∈ R.voters, R.vote .commit j ∉ c.senders) :
    R.Tallied c r (c.addRequest enableViewchange quorum r) := by
  have hne : r.type ≠ .prePrepare := by rcases htype with ht | ht <;> simp [ht]
  rw [TransactionCollector.addRequest, if_neg (by simp [h.uncommitted hopen, hopen]),
    if_neg (by simp [h.seq, hseq]), if_neg hne]
  split
  next hproof => exact h.addPrepareProof hproof.2 hquorum (hhash hproof.2) hcommit
  next => exact h.addVote htype hquorum hhash hcommit

lemma addRequest_executed (hdone : c.status = .executed) (enableViewchange : Bool) :
    c.addRequest enableViewchange quorum r = ⟨c, -2, false, none⟩ := by
  rw [TransactionCollector.addRequest, if_pos (Or.inr hdone)]

def Round.opening (R : Round M) (c : TransactionCollector) : TransactionCollector :=
  { c with mainRequest := some R.proposal, view := R.proposal.currentView, status := .readyPrepare }

lemma Round.Slot.addProposal (h : R.Slot c) (hnone : c.status = .none) (enableViewchange : Bool)
    (hprepare : ∃ j ∈ R.voters, R.vote .prepare j ∉ c.senders) :
    c.addRequest enableViewchange quorum R.proposal = ⟨R.opening c, 0, true, none⟩ ∧ R.Slot (R.opening c) := by
  have hopen : c.status ≠ .executed := by simp [hnone]
  obtain ⟨hempty, hview⟩ := h.empty hnone
  constructor
  · rw [TransactionCollector.addRequest, if_neg (by simp [h.uncommitted hopen, hopen]), if_neg (by simp [h.seq]),
      if_pos R.proposes, TransactionCollector.addMainRequest]
    simp [Round.opening, hview, hempty, R.proposes, hnone, mayConsensusChangeStatus]
  · refine ⟨h.seq, fun _ => h.uncommitted hopen, TransactionStatue.noConfusion, fun _ => h.unprepared (Or.inl hnone),
      TransactionStatue.noConfusion, fun _ => ⟨rfl, rfl⟩, fun b hb => ?_⟩
    cases b with
    | prepare => exact hprepare
    | commit => simp [Round.opening, TransactionStatue.rank, Ballot.rank] at hb

lemma Round.Slot.addProposal_again (h : R.Slot c) (hstored : c.status ≠ .none) (enableViewchange : Bool) :
    ∃ others, c.addRequest enableViewchange quorum R.proposal =
      ⟨{ c with otherMainRequests := others }, -2, false, none⟩ := by
  by_cases hdone : c.status = .executed
  · exact ⟨c.otherMainRequests, addRequest_executed hdone enableViewchange⟩
  · obtain ⟨hmain, hview⟩ := h.main hstored
    refine ⟨c.otherMainRequests ++ [R.proposal], ?_⟩
    rw [TransactionCollector.addRequest, if_neg (by simp [h.uncommitted hdone, hdone]), if_neg (by simp [h.seq]),
      if_pos R.proposes, TransactionCollector.addMainRequest]
    simp [hview, hmain]

end Slots

end V2vBft.Engine
