import V2vBft.Engine.Agreement
import V2vBft.Engine.RoundVoter

namespace V2vBft.Engine

open Wire Pbft Bridge Library.GuardedRun

section Runs

variable {M : Membership} {R : Round M} {t : RoundState} {e : NetworkEvent} {i : ℤ}

def RoundState.voterInv (R : Round M) (t : RoundState) (i : ℤ) : Prop :=
  R.VoterInv i (t.network.replica i) t.network.sent (t.heard i) (t.network.executions i R.proposal.seq)

structure RoundInv (R : Round M) (t : RoundState) : Prop where
  voters : ∀ i ∈ R.voters, t.voterInv R i
  prepares : ∀ m ∈ t.network.sent, m.type = .prepare → m.seq = R.proposal.seq → m.hash = R.proposal.hash

lemma executions_step (n : Network) (seq : ℕ) : (networkStep M n e).executions i seq =
    (if e.id = i then
      (engineStep (M.config e.id) (n.replica e.id) e.event).1.executed.filter fun x => decide (x.seq = seq)
    else []) ++ n.executions i seq := by
  rw [Network.executions, networkStep, List.filter_append, List.map_append, Network.executions, List.filter_map,
    List.map_map]
  congr 1
  split
  next h => simp [Function.comp_def, h]
  next h => simp [Function.comp_def, h]

lemma roundInv_initial {n : Network} (h : R.Rests n) : RoundInv R (.initial n) where
  prepares m hm htype hseq := absurd hseq (h.unsent .prepare m hm htype)
  voters i hi := by
    change R.VoterInv i (n.replica i) n.sent [] (n.executions i R.proposal.seq)
    have hslot := h.slot i hi
    have hfresh : R.Slot ((n.replica i).slot R) := by
      rw [hslot]
      refine ⟨rfl, fun _ => rfl, TransactionStatue.noConfusion, fun _ => rfl, fun _ => ⟨rfl, rfl⟩,
        fun hno => absurd rfl hno, fun b hb => ?_⟩
      cases b <;> simp [TransactionStatue.rank, Ballot.rank] at hb
    obtain ⟨hcommitQueue, hcandidates, hexecuteQueue, hnext, hlast⟩ := h.executor i hi
    refine ⟨hfresh, h.favours i hi, h.capacity i hi, fun _ => h.opened i hi, fun _ => h.proposed i hi, ?_, ?_,
      fun _ _ _ _ _ hm => absurd hm List.not_mem_nil, fun _ => List.not_mem_nil, fun b hb => ?_,
      fun b _ m hm htype hseq => absurd hseq (h.unsent b m hm htype)⟩
    · exact .waiting (by simp [hslot]) ⟨hcommitQueue, hcandidates, hexecuteQueue, hnext⟩ hlast (h.unexecuted i hi)
    · intro v hv
      rw [hslot] at hv
      exact absurd hv (by simp)
    · rw [hslot] at hb
      exact absurd (rank_le_two b).1 (by simpa [TransactionStatue.rank] using hb)

lemma RoundInv.prepares_step (h : RoundInv R t) (hunrivalled : R.unrivalled e.event) :
    ∀ m ∈ (roundStep M t e).network.sent, m.type = .prepare → m.seq = R.proposal.seq → m.hash = R.proposal.hash := by
  intro m hm htype hseq
  rcases List.mem_append.mp hm with hm | hm
  · obtain ⟨_, env, r, hev, hrseq, hrhash, hkind⟩ := engineStep_ballots _ _ _ m hm .prepare htype
    rcases hkind with ⟨hr, _⟩ | ⟨_, hno⟩
    · rw [hev] at hunrivalled
      rw [← hrhash, hunrivalled hr (hrseq.trans hseq)]
    · exact absurd hno (by simp)
  · exact h.prepares m hm htype hseq

lemma RoundInv.acting (h : RoundInv R t) (hok : R.ok t e) (hi : e.id ∈ R.voters) :
    (roundStep M t e).voterInv R e.id := by
  obtain ⟨hauthentic, hunrivalled, hvoter⟩ := hok
  obtain ⟨hfollows, hfavours⟩ := hvoter hi
  have hinv := h.voters e.id hi
  obtain ⟨id, ev⟩ := e
  have hreplica : (roundStep M t ⟨id, ev⟩).network.replica id =
      (engineStep (M.config id) (t.network.replica id) ev).2 := Function.update_self ..
  have hheard : (roundStep M t ⟨id, ev⟩).heard id = ev.messages ++ t.heard id := Function.update_self ..
  rw [RoundState.voterInv, hreplica, hheard]
  change R.VoterInv id _ ((engineStep (M.config id) (t.network.replica id) ev).1.sent ++ t.network.sent) _
    ((networkStep M t.network ⟨id, ev⟩).executions id R.proposal.seq)
  rw [executions_step, if_pos rfl]
  cases ev with
  | orderMessage =>
    obtain ⟨hkeeps, hstage, _⟩ := orderMessage_stage hinv.capacity hinv.stage
    exact hinv.executor_event hkeeps hfavours hstage
  | executeMessage =>
    obtain ⟨hkeeps, hstage, _⟩ := executeMessage_stage hinv.stage
    exact hinv.executor_event hkeeps hfavours hstage
  | receive env r =>
    have hsilent : (engineStep (M.config id) (t.network.replica id) (.receive env r)).1.executed = [] :=
      internalConsensusCommit_executed _ _ _ _
    rw [hsilent, List.filter_nil, List.nil_append]
    by_cases hround : r.seq = R.proposal.seq ∧ r.type ≠ .newTxns
    · rw [Round.follows, if_pos hround] at hfollows
      obtain ⟨hregular, hpre, hmany⟩ := hfollows
      obtain ⟨hseq, hnew⟩ := hround
      cases htype : r.type with
      | newTxns => exact absurd htype hnew
      | prePrepare =>
        obtain rfl : r = R.proposal := hunrivalled htype hseq
        have hstep : engineStep (M.config id) (t.network.replica id) (.receive env R.proposal) =
            processProposeMsg (M.config id) env (t.network.replica id) R.proposal := by
          rw [engineStep, internalConsensusCommit, R.proposes]
        dsimp only at hfavours
        rw [hstep] at hfavours ⊢
        by_cases hnone : ((t.network.replica id).slot R).status = .none
        · exact hinv.receive_proposal_first hi hnone (fun hother => hpre htype hother hnone) hfavours
        · exact hinv.receive_proposal_again hnone hfavours (processProposeMsg_effect _ env _ R.regular)
      | prepare =>
        have hstep : engineStep (M.config id) (t.network.replica id) (.receive env r) =
            (⟨(processPrepareMsg (M.config id) (t.network.replica id) r).1, [], []⟩,
              (processPrepareMsg (M.config id) (t.network.replica id) r).2) := by
          rw [engineStep, internalConsensusCommit, htype]
        dsimp only at hfavours
        rw [hstep] at hfavours ⊢
        exact hinv.receive_ballot hi (b := .prepare) htype hseq hregular h.prepares
          (hauthentic.2.resolve_left (by simp [htype])) hmany hfavours (fun _ => rfl)
          (fun hret => processPrepareMsg_effect hregular hret)
      | commit =>
        have hstep : engineStep (M.config id) (t.network.replica id) (.receive env r) =
            (.none, processCommitMsg (M.config id) (t.network.replica id) r) := by
          rw [engineStep, internalConsensusCommit, htype]
        dsimp only at hfavours
        rw [hstep] at hfavours ⊢
        exact hinv.receive_ballot hi (b := .commit) htype hseq hregular h.prepares
          (hauthentic.2.resolve_left (by simp [htype])) hmany hfavours
          (fun hno => absurd (htype.symm.trans hno) (by simp)) (fun hret => processCommitMsg_effect hregular hret)
    · rw [Round.follows, if_neg hround] at hfollows
      exact hinv.spared hfollows hfavours fun m hm => by rwa [List.mem_singleton.mp hm]
  | _ => exact hinv.spared hfollows hfavours fun m hm => absurd hm List.not_mem_nil

theorem roundInv_step (h : RoundInv R t) (hok : R.ok t e) : RoundInv R (roundStep M t e) where
  prepares := h.prepares_step hok.2.1
  voters i hi := by
    by_cases heq : i = e.id
    · subst heq
      exact h.acting hok hi
    · have hreplica : (roundStep M t e).network.replica i = t.network.replica i := Function.update_of_ne heq ..
      have hheard : (roundStep M t e).heard i = t.heard i := Function.update_of_ne heq ..
      have hexecutions : (roundStep M t e).network.executions i R.proposal.seq =
          t.network.executions i R.proposal.seq := by
        rw [roundStep, executions_step, if_neg (Ne.symm heq), List.nil_append]
      rw [RoundState.voterInv, hreplica, hheard, hexecutions]
      refine (h.voters i hi).bystander fun b m hm htype => ?_
      rw [(engineStep_ballots _ _ _ m hm b htype).1]
      exact Ne.symm heq

lemma RoundInv.executed (h : RoundInv R t) (hdelivered : R.Delivered t) :
    ∀ i ∈ R.voters, ((t.network.replica i).slot R).status = .executed := by
  have hpast : ∀ b : Ballot, (∀ i ∈ R.voters, b.rank ≤ ((t.network.replica i).slot R).status.rank) →
      ∀ i ∈ R.voters, b.rank < ((t.network.replica i).slot R).status.rank := by
    intro b hall i hi
    refine lt_of_le_of_ne (hall i hi) fun heq => ?_
    obtain ⟨j, hj, hmissing⟩ := (h.voters i hi).slot.waits b heq.symm
    obtain ⟨m, hm, hvote⟩ := (h.voters j hj).sends b (hall j hj)
    exact hmissing ((h.voters i hi).recorded b heq.ge j hj m (hdelivered.votes i hi j hj b m hm hvote) hvote)
  have hstored : ∀ i ∈ R.voters, 1 ≤ ((t.network.replica i).slot R).status.rank := by
    intro i hi
    refine Nat.one_le_iff_ne_zero.mpr fun hzero => ?_
    exact (h.voters i hi).unheard (rank_eq_zero.mp hzero) (hdelivered.proposal i hi)
  have hprepared := hpast .prepare hstored
  have hcommitted := hpast .commit hprepared
  intro i hi
  have hrank := hcommitted i hi
  have hcalm := (h.voters i hi).slot.calm
  generalize ((t.network.replica i).slot R).status = status at hrank hcalm ⊢
  cases status with
  | executed => rfl
  | readyExecute => exact absurd rfl hcalm
  | _ => exact absurd hrank (by decide)

lemma RoundInv.two_turns (h : RoundInv R t) (hi : i ∈ R.voters)
    (hclosed : ((t.network.replica i).slot R).status = .executed) :
    (run (roundStep M) t [⟨i, .orderMessage⟩, ⟨i, .executeMessage⟩]).network.executions i R.proposal.seq =
      [R.execution] := by
  have hinv := h.voters i hi
  obtain ⟨hkeeps, hstage, hempty⟩ := orderMessage_stage hinv.capacity hinv.stage
  obtain ⟨_, _, hdone⟩ := executeMessage_stage hstage
  have hreplica : (roundStep M t ⟨i, .orderMessage⟩).network.replica i = orderMessage (t.network.replica i) :=
    Function.update_self ..
  have hexecutions : (roundStep M t ⟨i, .orderMessage⟩).network.executions i R.proposal.seq =
      t.network.executions i R.proposal.seq := by
    rw [roundStep, executions_step, if_pos rfl]
    rfl
  rw [run_cons, run_cons, run_nil, roundStep, executions_step, if_pos rfl, hexecutions]
  dsimp only
  rw [hreplica]
  exact hdone (hkeeps.slot ▸ hclosed) (hempty hclosed)

theorem round_completes (R : Round M) {n : Network} (hrest : R.Rests n) {events : List NetworkEvent}
    (hrun : Guarded (roundStep M) R.ok (.initial n) events)
    (hdelivered : R.Delivered (run (roundStep M) (.initial n) events)) :
    ∀ i ∈ R.voters,
      (((run (roundStep M) (.initial n) events).network.replica i).slot R).status = .executed ∧
      (run (roundStep M) (.initial n) (events ++ [⟨i, .orderMessage⟩, ⟨i, .executeMessage⟩])).network.executions i
        R.proposal.seq = [R.execution] := by
  have hinv : RoundInv R (run (roundStep M) (.initial n) events) :=
    hrun.invariant (fun _ _ h hok => roundInv_step h hok) (roundInv_initial hrest)
  intro i hi
  have hclosed := hinv.executed hdelivered i hi
  refine ⟨hclosed, ?_⟩
  rw [run_append]
  exact hinv.two_turns hi hclosed

end Runs

lemma rests_initial {M : Membership} {R : Round M} (hseq : R.proposal.seq = 1) (hview : R.proposal.currentView = 1) :
    R.Rests (.initial M R.proposal.senderId) where
  slot i _ := by
    have hcapacity := getCapacity_pos (M.maxProcessTxn * 2)
    have hindex : 1 % (2 * getCapacity (M.maxProcessTxn * 2)) = 1 := Nat.mod_eq_of_lt (by omega)
    rw [Replica.slot, hseq]
    exact congrArg TransactionCollector.fresh hindex
  capacity _ _ := getCapacity_pos _
  opened i _ := by simp [Replica.isCommitted, Network.initial, Replica.initial]
  proposed _ _ hmem := absurd hmem List.not_mem_nil
  favours i _ := by
    have hlookup : ∀ r, ((Network.initial M R.proposal.senderId).replica i).forcedView r = none := by
      intro r
      rw [forcedView_eq]
      simp [Replica.viewAt, Registry.viewAt, Network.initial, Replica.initial, Registry.empty]
    refine ⟨by rw [hview]; rfl, fun j _ => ?_, fun hno => ?_⟩
    · rw [Replica.isActiveForRequest, hlookup]
    · exact absurd rfl hno
  executor i _ := ⟨rfl, rfl, rfl, hseq.symm, by rw [hseq]; exact Nat.one_pos⟩
  unsent _ _ hm := absurd hm List.not_mem_nil
  unexecuted _ _ := rfl

-- the primary is the faulty member: it proposes to the other three, and votes for another hash
def honestTrio : Round eightMembers where
  proposal := batchRequest .prePrepare 1 [listingPayload 0 [0, 1, 2, 3]]
  voters := {2, 3, 4}
  proposes := rfl
  regular := rfl
  voters_honest := by decide

def trioEvents : List NetworkEvent :=
  [⟨2, .receive eightCarEnv { batchRequest .prepare 1 [] with hash := ascii "omnet-tx-9" }⟩] ++
  ([2, 3, 4].map fun i => ⟨i, .receive eightCarEnv honestTrio.proposal⟩) ++
  ([.prepare, .commit].flatMap fun type => [2, 3, 4].flatMap fun j => [2, 3, 4].map fun i =>
    ⟨i, .receive eightCarEnv (batchRequest type j [])⟩)

def afterTrio (events : List NetworkEvent) : RoundState :=
  run (roundStep eightMembers) (.initial (.initial eightMembers 1)) events

lemma trio_delivered : honestTrio.Delivered (afterTrio trioEvents) where
  proposal := by decide +kernel
  votes := by
    intro i hi j hj b
    revert i j
    cases b <;> decide +kernel

theorem round_completes_honestTrio :
    (((afterTrio trioEvents).network.replica 3).slot honestTrio).status = .executed ∧
      (afterTrio (trioEvents ++ [⟨3, .orderMessage⟩, ⟨3, .executeMessage⟩])).network.executions 3 1 =
        [honestTrio.execution] :=
  @round_completes eightMembers honestTrio (.initial eightMembers 1) (rests_initial rfl rfl) trioEvents
    (by decide +kernel) trio_delivered 3 (by decide)

end V2vBft.Engine
