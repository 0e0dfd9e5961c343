import V2vBft.Engine.Manager

namespace V2vBft.Engine

open Wire Pbft Bridge

def ofType (type : RequestType) (requests : List Request) : List Request :=
  requests.filter fun m => decide (m.type = type)

-- a redo request of a NEWVIEW carries no payload, and goes to the replica itself where it is a PRE_PREPARE
def prePrepares (out : ViewOutput) : List Request := out.engine.flatMap fun o => ofType .prePrepare o.sent

def verifiedIn (out : ViewOutput) : List Request := out.engine.flatMap Output.verified

def newRequests (ev : ViewEvent) : List Request := ofType .newTxns ev.requests

variable {cfg : EngineConfig} {s : Replica} {request : Request} {K : Request → Prop} {v : ViewReplica} {out : ViewOutput}

lemma mem_ofType {type : RequestType} {requests : List Request} {m : Request} :
    m ∈ ofType type requests ↔ m ∈ requests ∧ m.type = type := by
  simp [ofType]

lemma processNewRequest_sent {env : BridgeEnv} {r : Replica} {m : Request}
    (hm : m ∈ (processNewRequest cfg env r request).1.sent) :
    m = request ∨ m.type = .prePrepare ∧ m.hash = request.hash ∧ m.data = request.data ∧
      request ∈ (processNewRequest cfg env r request).1.verified := by
  rw [processNewRequest] at hm ⊢
  split at hm
  · exact absurd hm List.not_mem_nil
  next hnew =>
    rw [if_neg hnew]
    split at hm
    · exact Or.inl (List.mem_singleton.mp hm)
    next hself =>
      rw [if_neg hself]
      dsimp only at hm ⊢
      split at hm
      next hok =>
        rw [if_pos hok]
        refine Or.inr ?_
        rw [propose] at hm
        repeat' split at hm
        any_goals exact absurd hm List.not_mem_nil
        rw [List.mem_singleton.mp hm]
        exact ⟨rfl, rfl, rfl, List.mem_singleton_self _⟩
      · exact absurd hm List.not_mem_nil

lemma internalConsensusCommit_prePrepare {env : BridgeEnv} {r : Replica} {m : Request}
    (hm : m ∈ ofType .prePrepare (internalConsensusCommit cfg env r request).1.sent) :
    request.type = .newTxns ∧ m.hash = request.hash ∧ m.data = request.data ∧
      request ∈ (internalConsensusCommit cfg env r request).1.verified := by
  obtain ⟨hsent, hpre⟩ := mem_ofType.mp hm
  rw [internalConsensusCommit] at hsent ⊢
  cases hnew : request.type with
  | newTxns =>
    rw [hnew] at hsent
    rcases processNewRequest_sent hsent with rfl | ⟨-, hcopy⟩
    · exact absurd (hnew.symm.trans hpre) (by simp)
    · exact ⟨rfl, hcopy⟩
  | prePrepare =>
    rw [hnew] at hsent
    rw [processProposeMsg_sent m hsent] at hpre
    simp [prepareFor] at hpre
  | prepare =>
    rw [hnew] at hsent
    rw [processPrepareMsg_sent m hsent] at hpre
    simp [commitFor] at hpre
  | commit =>
    rw [hnew] at hsent
    exact absurd hsent List.not_mem_nil

lemma managerStep_prePrepare {ev : ManagerEvent} {o : Output} (ho : o ∈ (managerStep cfg s ev).1) {m : Request}
    (hm : m ∈ ofType .prePrepare o.sent) : ∃ request ∈ o.verified,
      request ∈ ev.requests ∧ request.type = .newTxns ∧ request.hash = m.hash ∧ request.data = m.data := by
  cases ev with
  | engine ev =>
    rw [List.mem_singleton.mp ho] at hm ⊢
    cases ev with
    | receive env request =>
      obtain ⟨htype, hhash, hdata, hverified⟩ := internalConsensusCommit_prePrepare hm
      exact ⟨request, hverified, List.mem_singleton_self _, htype, hhash.symm, hdata.symm⟩
    | _ => exact absurd hm List.not_mem_nil
  | setInfo info | setNextCommitSeq seq => exact absurd ho List.not_mem_nil

lemma managerRun_prePrepare {moves : List ManagerEvent} (hk : ∀ ev ∈ moves, ∀ m ∈ ev.requests, K m) {o : Output}
    (ho : o ∈ (managerRun cfg s moves).1) {m : Request} (hm : m ∈ ofType .prePrepare o.sent) :
    ∃ request ∈ o.verified, request.type = .newTxns ∧ K request ∧ request.hash = m.hash ∧ request.data = m.data := by
  induction moves generalizing s with
  | nil => exact absurd ho List.not_mem_nil
  | cons ev rest ih =>
    rcases List.mem_append.mp ho with hfirst | hothers
    · obtain ⟨request, hverified, hin, htype, hcopy⟩ := managerStep_prePrepare hfirst hm
      exact ⟨request, hverified, htype, hk ev List.mem_cons_self request hin, hcopy⟩
    · exact ih (fun e he => hk e (List.mem_cons_of_mem _ he)) hothers

lemma Carries.sent (h : Carries cfg K s v out) {m : Request} (hm : m ∈ prePrepares out) :
    ∃ request ∈ verifiedIn out, request.type = .newTxns ∧ K request ∧ request.hash = m.hash ∧ request.data = m.data := by
  obtain ⟨moves, hrun, hk⟩ := h.moves
  obtain ⟨o, ho, hsent⟩ := List.mem_flatMap.mp hm
  have hran : o ∈ (managerRun cfg s moves).1 := by rwa [hrun]
  obtain ⟨request, hverified, hcopy⟩ := managerRun_prePrepare hk hran hsent
  exact ⟨request, List.mem_flatMap.mpr ⟨o, ho, hverified⟩, hcopy⟩

end V2vBft.Engine
