import V2vBft.Bridge.CrossLeader
import V2vBft.Engine.StepFacts
import V2vBft.Library.GuardedRun

/-! Which executed payloads `ResdbOmnetPreVerify` has seen: runs of one replica with what passed the check. -/

namespace V2vBft.Engine

open Wire Pbft Bridge Library.GuardedRun

variable {cfg : EngineConfig} {s : Replica} {ev : EngineEvent}

structure Delivery where
  request : Request
  accepted : List Bytes
  deriving DecidableEq, Repr

structure FirewallTrace where
  replica : Replica
  accepted : List Bytes
  deliveries : List Delivery
  executed : List Execution

def FirewallTrace.initial (cfg : EngineConfig) (primaryId : ℤ) : FirewallTrace := ⟨.initial cfg primaryId, [], [], []⟩

def acceptedPayloads (verified : List Request) : List Bytes := verified.filterMap fun r => r.data.checkedPayload

def FirewallTrace.deliver (accepted : List Bytes) : EngineEvent → List Delivery
  | .receive _ request => if request.type = .prePrepare then [⟨request, accepted⟩] else []
  | _ => []

def firewallStep (cfg : EngineConfig) (t : FirewallTrace) (ev : EngineEvent) : FirewallTrace :=
  let r := engineStep cfg t.replica ev
  let accepted := acceptedPayloads r.1.verified ++ t.accepted
  ⟨r.2, accepted, FirewallTrace.deliver accepted ev ++ t.deliveries, r.1.executed ++ t.executed⟩

-- unchecked PRE_PREPAREs (recovery, own sender id) repeat accepted payloads; a checked one adds only its first
def firewallOk (cfg : EngineConfig) (t : FirewallTrace) : EngineEvent → Prop
  | .receive env request => request.type = .prePrepare →
    if request.isRecovery ∨ request.senderId = cfg.selfId then ∀ p ∈ request.data.userRequests, p ∈ t.accepted
    else (preVerify env t.replica.consensus request).1 = true →
      ∀ p ∈ request.data.userRequests, request.data.checkedPayload = some p ∨ p ∈ t.accepted
  | _ => True

instance instDecidableFirewallOk (t : FirewallTrace) : ∀ ev, Decidable (firewallOk cfg t ev)
  | .receive _ request => inferInstanceAs (Decidable (request.type = .prePrepare → _))
  | .orderMessage | .executeMessage | .updateCheckPointStatus | .expireProposed _ | .expireExecuted _
  | .gossipCancel _ | .prepareLocalSubmission | .promotePrimaryFromCert _ | .setPrimary _ _ | .installPending _
  | .getVerifiedVoteProgress _ => inferInstanceAs (Decidable True)

structure Cleared (deliveries : List Delivery) (seq : ℕ) (hash : Bytes) (data : BatchData) : Prop where
  delivered : ∃ d ∈ deliveries, d.request.type = .prePrepare ∧ d.request.seq = seq ∧ d.request.hash = hash ∧
    d.request.data = data ∧ ∀ p ∈ data.userRequests, p ∈ d.accepted

lemma Cleared.mono {l l' : List Delivery} {seq : ℕ} {hash : Bytes} {data : BatchData} (h : Cleared l seq hash data) :
    Cleared (l' ++ l) seq hash data := by
  obtain ⟨d, hd, hrest⟩ := h.delivered
  exact ⟨d, List.mem_append_right _ hd, hrest⟩

structure FirewallInv (t : FirewallTrace) : Prop where
  calm : t.replica.Calm
  waits : t.replica.Waits fun r => Cleared t.deliveries r.seq r.hash r.data
  stored : ∀ i, ∀ m ∈ (t.replica.pool.collector i).stored, Cleared t.deliveries m.seq m.hash m.data
  inFlight : ∀ m ∈ t.replica.inFlight, Cleared t.deliveries m.seq m.hash m.data
  executed : ∀ x ∈ t.executed, Cleared t.deliveries x.seq x.hash x.data

lemma firewallInv_initial (cfg : EngineConfig) (primaryId : ℤ) : FirewallInv (.initial cfg primaryId) where
  calm i := by simp [FirewallTrace.initial, Replica.initial, LockFreeCollectorPool.create]
  waits r hr := absurd hr (by simp [FirewallTrace.initial, Replica.initial])
  stored i m hm := absurd hm (by simp [FirewallTrace.initial, Replica.initial, LockFreeCollectorPool.create])
  inFlight m hm := absurd hm (by simp [FirewallTrace.initial, Replica.initial, Replica.inFlight])
  executed x hx := absurd hx (by simp [FirewallTrace.initial])

lemma verified_of_preVerify {env : BridgeEnv} {request : Request} (htype : request.type = .prePrepare)
    (hrec : ¬request.isRecovery = true) (hself : request.senderId ≠ cfg.selfId)
    (hok : (preVerify env s.consensus request).1 = true) :
    (engineStep cfg s (.receive env request)).1.verified = [request] := by
  rw [engineStep, internalConsensusCommit, htype]
  dsimp only
  rw [processProposeMsg, if_neg hrec, if_neg hself]
  simp only [hok, if_true]

lemma cleared_of_admits {t : FirewallTrace} {env : BridgeEnv} {request : Request} (htype : request.type = .prePrepare)
    (hadmits : admits cfg env t.replica request = true) (hok : firewallOk cfg t (.receive env request)) :
    Cleared (firewallStep cfg t (.receive env request)).deliveries request.seq request.hash request.data := by
  refine ⟨⟨request, acceptedPayloads (engineStep cfg t.replica (.receive env request)).1.verified ++ t.accepted⟩,
    ?_, htype, rfl, rfl, rfl, fun p hp => ?_⟩
  · rw [firewallStep]
    refine List.mem_append_left _ ?_
    rw [FirewallTrace.deliver, if_pos htype]
    exact List.mem_singleton_self _
  · have hguard := hok htype
    split at hguard
    next => exact List.mem_append_right _ (hguard p hp)
    next hchecked =>
      obtain ⟨hrec, hself⟩ := not_or.mp hchecked
      have haccepts : (preVerify env t.replica.consensus request).1 = true := by
        simpa [admits, hrec, hself] using hadmits
      rcases hguard haccepts p hp with hfirst | hold
      · refine List.mem_append_left _ ?_
        rw [verified_of_preVerify htype hrec hself haccepts]
        exact List.mem_filterMap.mpr ⟨request, List.mem_singleton_self _, hfirst⟩
      · exact List.mem_append_right _ hold

lemma firewallInv_step {t : FirewallTrace} (hinv : FirewallInv t) (hok : firewallOk cfg t ev) :
    FirewallInv (firewallStep cfg t ev) := by
  set Q : Request → Prop := fun r => Cleared (firewallStep cfg t ev).deliveries r.seq r.hash r.data with hQ
  have hmono : ∀ seq hash data, Cleared t.deliveries seq hash data →
      Cleared (firewallStep cfg t ev).deliveries seq hash data := fun _ _ _ h => h.mono
  have hwaits : t.replica.Waits Q := fun r hr => ⟨(hinv.waits r hr).1, hmono _ _ _ (hinv.waits r hr).2⟩
  have hspec := engineStep_spec cfg ev hinv.calm hwaits (by
    rintro env request rfl htype hadmits
    have h := cleared_of_admits htype hadmits hok
    exact ⟨h, h⟩)
  refine ⟨hspec.calm hinv.calm, hspec.waits, fun i m hm => ?_, fun m hm => ?_, fun x hx => ?_⟩
  · rw [firewallStep] at hm
    cases hspec.slots i with
    | proposals h =>
      rcases h.stored m hm with hm | ⟨h, _⟩
      · exact hmono _ _ _ (hinv.stored i m hm)
      · exact h
    | fresh n hn h => exact absurd hm (by simp [h])
    | vote env request hev htype hhears hopen hindex h =>
      dsimp only at hm
      rw [h] at hm
      obtain ⟨_, hstored, _⟩ := collect_vote cfg hinv.calm htype
      exact hmono _ _ _ (hinv.stored _ m (hstored m hm))
  · rw [firewallStep] at hm
    rcases hspec.inFlight m hm with hm | ⟨env, request, hev, hhears, hopen, hcommitted⟩
    · exact hmono _ _ _ (hinv.inFlight m hm)
    · obtain ⟨_, _, _, _, hmain⟩ := collect_committed hinv.calm hcommitted
      exact hmono _ _ _ (hinv.stored _ m (List.mem_append_left _ (Option.mem_toList.mpr hmain)))
  · rw [firewallStep] at hx
    rcases List.mem_append.mp hx with hx | hx
    · obtain ⟨r, hr, rfl⟩ := engineStep_executed cfg t.replica ev x hx
      exact hmono _ _ _ (hinv.inFlight r (List.mem_append_right _ hr))
    · exact hmono _ _ _ (hinv.executed x hx)

theorem executed_cleared {primaryId : ℤ} {events : List EngineEvent}
    (h : Guarded (firewallStep cfg) (firewallOk cfg) (.initial cfg primaryId) events) :
    (∀ seq, ∀ m ∈ ((run (firewallStep cfg) (.initial cfg primaryId) events).replica.pool.getCollector seq).mainRequest,
      Cleared (run (firewallStep cfg) (.initial cfg primaryId) events).deliveries m.seq m.hash m.data) ∧
    ∀ x ∈ (run (firewallStep cfg) (.initial cfg primaryId) events).executed,
      Cleared (run (firewallStep cfg) (.initial cfg primaryId) events).deliveries x.seq x.hash x.data := by
  have hinv := Guarded.invariant (fun _ _ => firewallInv_step) (firewallInv_initial cfg primaryId) h
  refine ⟨fun seq m hm => ?_, hinv.executed⟩
  exact hinv.stored _ m (List.mem_append_left _ (Option.mem_toList.mpr hm))

def follower : EngineConfig := ⟨3, 8, 1, false⟩

def batchRequest (type : RequestType) (senderId : ℤ) (payloads : List Bytes) : Request :=
  { listingRequest 0 [0, 1, 2, 3] with type := type, seq := 1, senderId := senderId, data := .batch payloads }

def batchEvents (payloads : List Bytes) : List EngineEvent :=
  .receive eightCarEnv (batchRequest .prePrepare 1 payloads) ::
    ([1, 2, 3].map fun id => .receive eightCarEnv (batchRequest .prepare id [])) ++
    ([1, 2, 3].map fun id => .receive eightCarEnv (batchRequest .commit id [])) ++ [.orderMessage, .executeMessage]

def afterBatch (payloads : List Bytes) : FirewallTrace :=
  run (firewallStep follower) (.initial follower 1) (batchEvents payloads)

theorem executed_cleared_listing :
    (∀ seq, ∀ m ∈ ((afterBatch [listingPayload 0 [0, 1, 2, 3]]).replica.pool.getCollector seq).mainRequest,
      Cleared (afterBatch [listingPayload 0 [0, 1, 2, 3]]).deliveries m.seq m.hash m.data) ∧
    ∀ x ∈ (afterBatch [listingPayload 0 [0, 1, 2, 3]]).executed,
      Cleared (afterBatch [listingPayload 0 [0, 1, 2, 3]]).deliveries x.seq x.hash x.data :=
  @executed_cleared _ _ (batchEvents [listingPayload 0 [0, 1, 2, 3]]) (by decide +kernel)

theorem secondPayload_executed :
    (afterBatch [listingPayload 0 [0, 1, 2, 3], listingPayload 5 [4, 5, 6, 7]]).executed =
        [⟨1, 1, ascii "omnet-tx-3", .batch [listingPayload 0 [0, 1, 2, 3], listingPayload 5 [4, 5, 6, 7]]⟩] ∧
      listingPayload 5 [4, 5, 6, 7] ∉
        (afterBatch [listingPayload 0 [0, 1, 2, 3], listingPayload 5 [4, 5, 6, 7]]).accepted :=
  ⟨by decide +kernel, by decide +kernel⟩

end V2vBft.Engine
