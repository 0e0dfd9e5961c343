import V2vBft.Engine.RequestFlow

/-! A new request leaves as a proposal at most once for each time it came. -/

namespace V2vBft.Engine

open Wire Pbft Bridge

def newOf (p : Bytes → BatchData → Bool) (requests : List Request) : ℕ :=
  requests.countP fun r => decide (r.type = .newTxns) && p r.hash r.data

def proposedOf (p : Bytes → BatchData → Bool) (requests : List Request) : ℕ := requests.countP fun m => p m.hash m.data

def Spends (p : Bytes → BatchData → Bool) (v : ViewReplica) (brought : List Request) (v' : ViewReplica)
    (out : ViewOutput) : Prop :=
  proposedOf p (prePrepares out) + newOf p v'.waiting ≤ newOf p v.waiting + newOf p brought

variable {cfg : EngineConfig} {env : BridgeEnv} {s : Replica} {request : Request} {p : Bytes → BatchData → Bool}
  {v v' v'' : ViewReplica} {out out' : ViewOutput} {brought brought' : List Request}

@[simp] lemma newOf_nil : newOf p [] = 0 := rfl

@[simp] lemma newOf_append (first second : List Request) : newOf p (first ++ second) = newOf p first + newOf p second :=
  List.countP_append

lemma newOf_waiting : newOf p v.waiting = newOf p v.requestPending + newOf p v.requestComplained +
    newOf p (v.recoveryQueue.flatMap RecoveryResponse.requests) + newOf p v.recovering.requests := by
  simp only [ViewReplica.waiting, newOf_append]

lemma proposedOf_before :
    proposedOf p (prePrepares (out.before out')) = proposedOf p (prePrepares out) + proposedOf p (prePrepares out') := by
  simp only [proposedOf, prePrepares, ViewOutput.before, List.flatMap_append, List.countP_append]

lemma Spends.before (h : Spends p v brought v' out) (h' : Spends p v' brought' v'' out') :
    Spends p v (brought ++ brought') v'' (out.before out') := by
  rw [Spends] at h h' ⊢
  rw [proposedOf_before, newOf_append]
  omega

lemma Spends.quiet (hwaiting : newOf p v'.waiting ≤ newOf p v.waiting + newOf p brought) (hout : out.engine = []) :
    Spends p v brought v' out := by
  have hnone : prePrepares out = [] := by rw [prePrepares, hout, List.flatMap_nil]
  rw [Spends, hnone]
  exact (Nat.zero_add _).trans_le hwaiting

lemma Spends.still (hwaiting : v'.waiting = v.waiting) (hout : out.engine = []) : Spends p v brought v' out :=
  .quiet (hwaiting ▸ Nat.le_add_right _ _) hout

lemma processNewRequest_redirected (hcomplains : complains cfg s request = true) :
    (processNewRequest cfg env s request).1.sent = [request] := by
  simp only [complains, Bool.and_eq_true, decide_eq_true_eq] at hcomplains
  rw [processNewRequest, if_neg hcomplains.1.2, if_pos hcomplains.2]

lemma processNewRequest_length : (processNewRequest cfg env s request).1.sent.length ≤ 1 := by
  have hpropose : ∀ r : Replica, (propose cfg r request).1.length ≤ 1 := by
    intro r
    rw [propose]
    repeat' split
    all_goals simp
  rw [processNewRequest]
  dsimp only
  repeat' split
  · exact Nat.zero_le _
  · exact le_rfl
  · exact hpropose _
  · exact Nat.zero_le _

lemma internalConsensusCommit_spends :
    proposedOf p (ofType .prePrepare (internalConsensusCommit cfg env s request).1.sent) +
      newOf p (if complains cfg s request then [request] else []) ≤ newOf p [request] := by
  rcases List.eq_nil_or_concat (ofType .prePrepare (internalConsensusCommit cfg env s request).1.sent) with
    hnone | ⟨_, m, hlast⟩
  · rw [hnone]
    split
    · exact (Nat.zero_add _).le
    · exact Nat.zero_le _
  · have hm : m ∈ ofType .prePrepare (internalConsensusCommit cfg env s request).1.sent := by simp [hlast]
    have hnew := (internalConsensusCommit_prePrepare hm).1
    have hrequest : internalConsensusCommit cfg env s request = processNewRequest cfg env s request := by
      rw [internalConsensusCommit, hnew]
    have hquiet : complains cfg s request = false := by
      rw [← Bool.not_eq_true]
      intro hcomplains
      obtain ⟨hsent, hpre⟩ := mem_ofType.mp hm
      rw [hrequest, processNewRequest_redirected hcomplains, List.mem_singleton] at hsent
      exact absurd ((hsent ▸ hpre).symm.trans hnew) (by simp)
    rw [hquiet, if_neg Bool.false_ne_true, newOf_nil, Nat.add_zero]
    have hcopies : ∀ m ∈ ofType .prePrepare (internalConsensusCommit cfg env s request).1.sent,
        p m.hash m.data = p request.hash request.data := by
      intro m hm
      obtain ⟨-, hhash, hdata, -⟩ := internalConsensusCommit_prePrepare hm
      rw [hhash, hdata]
    cases hp : p request.hash request.data with
    | false =>
      refine (List.countP_eq_zero.mpr fun m hm => ?_).trans_le (Nat.zero_le _)
      rw [hcopies m hm, hp]
      exact Bool.false_ne_true
    | true =>
      have hone : newOf p [request] = 1 := by simp [newOf, hnew, hp]
      rw [hone]
      refine (List.countP_le_length.trans (List.length_filter_le _ _)).trans ?_
      rw [hrequest]
      exact processNewRequest_length

lemma commitRequest_spends : Spends p v [request] (commitRequest cfg env v request).2 (commitRequest cfg env v request).1 := by
  have hcommit := @internalConsensusCommit_spends cfg env v.engine request p
  have hout : prePrepares (commitRequest cfg env v request).1 =
      ofType .prePrepare (internalConsensusCommit cfg env v.engine request).1.sent := List.append_nil _
  rw [Spends, hout, newOf_waiting, newOf_waiting]
  simp only [commitRequest, newOf_append]
  omega

lemma commitAll_spends (requests : List Request) (v : ViewReplica) :
    Spends p v requests (commitAll cfg env requests v).2 (commitAll cfg env requests v).1 := by
  induction requests generalizing v with
  | nil => exact .still rfl rfl
  | cons request rest ih => exact commitRequest_spends.before (ih _)

lemma popPending_spends : Spends p v [] (popPending cfg env v).2 (popPending cfg env v).1 := by
  have hall := @commitAll_spends cfg env p v.requestPending { v with requestPending := [] }
  rw [Spends, newOf_waiting] at hall ⊢
  rw [popPending]
  simp only [newOf_waiting, newOf_nil] at hall ⊢
  omega

lemma popComplained_spends : Spends p v [] (popComplained cfg env v).2 (popComplained cfg env v).1 := by
  have hall := @commitAll_spends cfg env p v.requestComplained { v with requestComplained := [] }
  rw [Spends, newOf_waiting] at hall ⊢
  rw [popComplained]
  simp only [newOf_waiting, newOf_nil] at hall ⊢
  omega

lemma processNewView_spends {isRecovery : Bool} {data : Option NewViewMessage} :
    Spends p v brought (processNewView cfg v isRecovery data).2 (processNewView cfg v isRecovery data).1 := by
  cases data with
  | none => exact .still rfl rfl
  | some message =>
    rw [processNewView]
    repeat' split
    all_goals exact .still rfl rfl

lemma processViewChange_spends (senderId : ℤ) (data : Option ViewChangeMessage) :
    Spends p v brought (processViewChange cfg v senderId data).2 (processViewChange cfg v senderId data).1 := by
  cases data with
  | none => exact .still rfl rfl
  | some message =>
    rw [processViewChange]
    dsimp only
    split
    · exact .still rfl rfl
    split
    · exact .still rfl rfl
    split
    · exact .still (sendNewViewMsg_kept (v.addRequest senderId message) message.viewNumber).1 rfl
    · exact .still rfl rfl

lemma dispatchViewPacket_spends (packet : ViewPacket) :
    Spends p v brought (dispatchViewPacket cfg v packet).2 (dispatchViewPacket cfg v packet).1 := by
  rw [dispatchViewPacket]
  split
  · exact .still rfl rfl
  · cases packet with
    | viewChange senderId data => exact processViewChange_spends senderId data
    | newView senderId isRecovery data => exact processNewView_spends

lemma takeUp_spends {r : ViewOutput × ViewReplica} (h : Spends p v brought r.2 r.1) :
    Spends p v brought (takeUp cfg env r).2 (takeUp cfg env r).1 := by
  rw [takeUp]
  split
  · have hboth := (h.before (@popPending_spends cfg env p r.2)).before
      (@popComplained_spends cfg env p (popPending cfg env r.2).2)
    rwa [List.append_nil, List.append_nil] at hboth
  · exact h

lemma drained_spends : Spends p v [] (drained cfg env v).2 (drained cfg env v).1 := by
  rw [drained]
  split
  · exact .still rfl rfl
  · exact popPending_spends

lemma internalCommit_spends (message : ConsensusMessage) :
    Spends p v message.requests (internalCommit cfg env v message).2 (internalCommit cfg env v message).1 := by
  cases message with
  | request request => exact commitRequest_spends
  | view packet => exact dispatchViewPacket_spends packet
  | recoveryDataResp response =>
    refine .quiet (le_of_eq ?_) rfl
    simp only [internalCommit, newOf_waiting, ConsensusMessage.requests, List.flatMap_append, List.flatMap_singleton,
      newOf_append]
    omega
  | other => exact .still rfl rfl

lemma consensusCommit_spends (message : ConsensusMessage) :
    Spends p v message.requests (consensusCommit cfg env v message).2 (consensusCommit cfg env v message).1 := by
  rw [consensusCommit]
  split
  · exact internalCommit_spends message
  · dsimp only
    split
    next request =>
      refine .quiet (le_of_eq ?_) rfl
      simp only [newOf_waiting, ConsensusMessage.requests, newOf_append]
      omega
    next =>
      have hdrained := @drained_spends cfg env p { v with started := true }
      exact hdrained.before (takeUp_spends (internalCommit_spends _))

lemma recoverRequest_spends {seq currentView : ℕ} {message : ConsensusMessage} :
    Spends p v message.forced.requests (recoverRequest cfg env v seq currentView message).2
      (recoverRequest cfg env v seq currentView message).1 := by
  rw [recoverRequest]
  split
  · exact .still rfl rfl
  split
  · exact .still rfl rfl
  · exact @internalCommit_spends cfg env p (v.setCurrentViewAndNewPrimary cfg currentView) message.forced

lemma remoteRecoveryProcess_spends :
    Spends p v [] (remoteRecoveryProcess cfg env v).2 (remoteRecoveryProcess cfg env v).1 := by
  rw [remoteRecoveryProcess]
  split
  next seq currentView message rest hnext =>
    have hrecover := @recoverRequest_spends cfg env p { v with recovering := rest } seq currentView message
    rw [Spends, newOf_waiting] at hrecover ⊢
    simp only [newOf_waiting, newOf_nil, hnext, requests_cons, newOf_append] at hrecover ⊢
    omega
  next hnext =>
    split
    · exact .still rfl rfl
    next response queue hqueue =>
      refine .quiet (le_of_eq ?_) rfl
      simp only [newOf_waiting, newOf_nil, hnext, hqueue, List.flatMap_cons, newOf_append, RecoveryResponse.requests]
      omega

theorem viewStep_spends (ev : ViewEvent) : Spends p v ev.requests (viewStep cfg v ev).2 (viewStep cfg v ev).1 := by
  cases ev with
  | commit env message => exact consensusCommit_spends message
  | engine ev hquiet =>
    have hnone : prePrepares (viewStep cfg v (.engine ev hquiet)).1 = [] := by
      cases ev with
      | receive env request => exact absurd hquiet (by simp [EngineEvent.messages])
      | _ => rfl
    rw [Spends, hnone]
    exact (Nat.zero_add _).le
  | triggerViewChangeNow ckpt => exact .still rfl rfl
  | replicaTimeout replicaId ckpt =>
    rw [viewStep, timeoutHandler]
    repeat' split
    all_goals exact .still rfl rfl
  | committableSeqChanged => exact .still rfl rfl
  | checkSysStatus primary view =>
    rw [viewStep, checkSysStatus]
    split <;> exact .still rfl rfl
  | checkStatus lastSeq => exact .still rfl rfl
  | remoteRecovery env => exact remoteRecoveryProcess_spends

end V2vBft.Engine
