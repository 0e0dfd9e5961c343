import V2vBft.Engine.StepFacts

namespace V2vBft.Engine

open Wire Pbft Bridge

def Grows (reg reg' : Registry) : Prop := reg' = reg ∨ reg'.hasAny = true

lemma Grows.refl (reg : Registry) : Grows reg reg := Or.inl rfl

lemma Grows.trans {a b c : Registry} (h : Grows a b) (h' : Grows b c) : Grows a c := by
  rcases h' with rfl | hany
  · exact h
  · exact Or.inr hany

lemma Grows.hasAny {a b : Registry} (h : Grows a b) (ha : a.hasAny = true) : b.hasAny = true := by
  rcases h with rfl | hany
  · exact ha
  · exact hany

lemma findForRequest_grows (reg : Registry) (request : Request) : Grows reg (reg.findForRequest request).2 := by
  rw [Registry.findForRequest]
  repeat' split
  all_goals first
    | exact .refl reg
    | exact Or.inr rfl

lemma installPending_hasAny {reg reg' : Registry} {view : OmnetForcedView} (h : reg.installPending view = some reg') :
    reg'.hasAny = true := by
  obtain ⟨n, -, rfl⟩ := Option.map_eq_some_iff.mp h
  rfl

lemma installForRequest_hasAny {reg reg' : Registry} {request : Request} {view : OmnetForcedView}
    (h : reg.installForRequest request view = some reg') : reg'.hasAny = true := by
  rw [Registry.installForRequest] at h
  split at h
  · exact absurd h (by simp)
  · split at h
    · exact absurd h (by simp)
    · dsimp only at h
      repeat' split at h
      any_goals (simp at h; done)
      all_goals
        obtain rfl := Option.some.inj h
        rfl

lemma installView_hasAny {s s' : ConsensusState} {request : Request} {view : OmnetForcedView}
    (h : installView s request view = some s') : s'.registry.hasAny = true := by
  rw [installView] at h
  split at h
  all_goals
    obtain ⟨reg, hreg, rfl⟩ := Option.map_eq_some_iff.mp h
    first
      | exact installForRequest_hasAny hreg
      | exact installPending_hasAny hreg

lemma orDrop_grows {s : ConsensusState} {installed : Option ConsensusState}
    (h : ∀ s', installed = some s' → s'.registry.hasAny = true) : Grows s.registry (orDrop s installed).2.registry := by
  cases installed with
  | none => exact .refl _
  | some s' => exact Or.inr (h s' rfl)

lemma installOrder_grows (env : BridgeEnv) (s : ConsensusState) (request : Request) (view : ProposalView) :
    Grows s.registry (installOrder env s request view).2.registry := by
  rw [installOrder]
  split
  · split
    · exact .refl _
    · exact orDrop_grows fun s' hs' => installView_hasAny hs'
  · split
    · refine orDrop_grows fun s' hs' => ?_
      obtain ⟨installed, hinstalled, rfl⟩ := Option.map_eq_some_iff.mp hs'
      have hany := installView_hasAny hinstalled
      split
      · rwa [handOver_registry]
      · exact hany
    · split
      · exact Or.inl (handOver_registry _ _ _ _ _ _)
      · exact .refl _

lemma preVerify_grows (env : BridgeEnv) (s : ConsensusState) (request : Request) :
    Grows s.registry (preVerify env s request).2.registry := by
  rw [preVerify]
  repeat' split
  any_goals exact .refl _
  rw [preVerifyPayload]
  split
  · exact .refl _
  · split
    · rw [preVerifyCancel]
      split
      · split
        · exact .refl _
        · exact orDrop_grows fun s' hs' => installView_hasAny hs'
      · exact .refl _
    · split
      · exact installOrder_grows env s request _
      · exact .refl _

variable {cfg : EngineConfig} {s : Replica}

lemma lookedUp_grows (s : Replica) (request : Request) :
    Grows s.consensus.registry (s.lookedUp request).consensus.registry := findForRequest_grows _ request

lemma addConsensusMsg_grows (cfg : EngineConfig) (s : Replica) (request : Request) :
    Grows s.consensus.registry (addConsensusMsg cfg s request).2.consensus.registry := by
  rw [addConsensusMsg]
  split
  · exact .refl _
  · repeat' split
    all_goals exact lookedUp_grows s request

lemma drainRecovery_grows (cfg : EngineConfig) (pending : List Request) (s : Replica) :
    Grows s.consensus.registry (drainRecovery cfg pending s).consensus.registry := by
  induction pending generalizing s with
  | nil => exact .refl _
  | cons r pending ih =>
    rw [drainRecovery]
    split
    · refine Grows.trans ?_ (ih _)
      split
      · exact addConsensusMsg_grows cfg { s with nextSeq := r.seq + 1 } r
      · exact .refl _
    · exact .refl _

lemma processRecoveryPropose_grows (cfg : EngineConfig) (s : Replica) (request : Request) :
    Grows s.consensus.registry (processRecoveryPropose cfg s request).consensus.registry := by
  rw [processRecoveryPropose]
  split
  · exact (drainRecovery_grows cfg s.pendingRecovery { s with nextSeq := request.seq + 1 }).trans
      (addConsensusMsg_grows cfg _ _)
  · split
    · exact .refl _
    · split
      · exact addConsensusMsg_grows cfg s _
      · exact .refl _

lemma voteOn_grows (cfg : EngineConfig) (s : Replica) (request answer : Request) :
    Grows s.consensus.registry (voteOn cfg s request answer).2.consensus.registry := addConsensusMsg_grows cfg s request

lemma acceptPropose_grows (cfg : EngineConfig) (s : Replica) (request : Request) :
    Grows s.consensus.registry (acceptPropose cfg s request).2.consensus.registry := by
  have hlook := lookedUp_grows s request
  rw [acceptPropose]
  split
  · exact .refl _
  · split
    · exact hlook
    · split
      · exact hlook.trans (voteOn_grows cfg _ _ _)
      · split
        · exact hlook
        · exact hlook.trans (voteOn_grows cfg { s.lookedUp request with proposed := request.hash :: s.proposed } _ _)

lemma processProposeMsg_grows (cfg : EngineConfig) (env : BridgeEnv) (s : Replica) (request : Request) :
    Grows s.consensus.registry (processProposeMsg cfg env s request).2.consensus.registry := by
  rw [processProposeMsg]
  dsimp only
  split
  · exact processRecoveryPropose_grows cfg s request
  · split
    · exact acceptPropose_grows cfg s request
    · have hverdict := preVerify_grows env s.consensus request
      split
      · exact (hverdict.trans (findForRequest_grows _ request)).trans (acceptPropose_grows cfg _ request)
      · exact hverdict

lemma processNewRequest_grows (cfg : EngineConfig) (env : BridgeEnv) (s : Replica) (request : Request) :
    Grows s.consensus.registry (processNewRequest cfg env s request).2.consensus.registry := by
  rw [processNewRequest]
  dsimp only
  split
  · exact .refl _
  · split
    · exact .refl _
    · have hverdict := preVerify_grows env s.consensus request
      split
      · rw [propose]
        repeat' split
        all_goals exact hverdict.trans (findForRequest_grows _ request)
      · exact hverdict

lemma receive_grows (cfg : EngineConfig) (env : BridgeEnv) (s : Replica) (request : Request) :
    Grows s.consensus.registry (internalConsensusCommit cfg env s request).2.consensus.registry := by
  rw [internalConsensusCommit]
  split
  · exact processNewRequest_grows cfg env s request
  · exact processProposeMsg_grows cfg env s request
  · dsimp only
    rw [processPrepareMsg]
    repeat' split
    · exact addConsensusMsg_grows cfg s request
    · exact lookedUp_grows s request
    · exact (lookedUp_grows s request).trans (voteOn_grows cfg _ _ _)
  · dsimp only
    rw [processCommitMsg]
    repeat' split
    · exact addConsensusMsg_grows cfg s request
    · exact lookedUp_grows s request
    · exact (lookedUp_grows s request).trans (addConsensusMsg_grows cfg _ _)

theorem engineStep_grows (cfg : EngineConfig) (s : Replica) (ev : EngineEvent) :
    Grows s.consensus.registry (engineStep cfg s ev).2.consensus.registry := by
  cases ev with
  | receive env request => exact receive_grows cfg env s request
  | orderMessage => exact Or.inl (congrArg ConsensusState.registry (orderMessage_advance s).consensus)
  | gossipCancel epoch => exact Or.inl (congrArg ConsensusState.registry (gossipCancel_advance s epoch).consensus)
  | executeMessage =>
    rw [engineStep, executeMessage]
    repeat' split
    all_goals exact .refl _
  | updateCheckPointStatus =>
    rw [engineStep, updateCheckPointStatus]
    split <;> exact .refl _
  | promotePrimaryFromCert primaryOmnet =>
    rw [engineStep, promotePrimaryFromCert]
    split <;> exact .refl _
  | installPending view =>
    rw [engineStep]
    cases hinstall : s.consensus.installOmnetPendingForcedView view with
    | none => exact .refl _
    | some installed =>
      obtain ⟨reg, hreg, rfl⟩ := Option.map_eq_some_iff.mp hinstall
      exact Or.inr (installPending_hasAny hreg)
  | getVerifiedVoteProgress request =>
    rw [engineStep]
    split
    · exact lookedUp_grows s request
    · exact .refl _
  | expireProposed _ | expireExecuted _ | prepareLocalSubmission | setPrimary _ _ => exact .refl _

end V2vBft.Engine
