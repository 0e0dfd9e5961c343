import V2vBft.Rollback.RoundEpoch

namespace V2vBft.Rollback

open Wire App Arrival Library.GuardedRun

structure Acceptance where
  heartbeat : WaitHeartbeatPayload
  acceptedAt : ℤ
  past : List RollbackState
  applied : List ℕ

-- the newest first; `ended`: the incidents that were signed for when the leader was last deactivated
structure WaitTrace where
  node : WaitNode
  signed : List WaitHeartbeatPayload
  ended : List BlockedIncident
  accepted : List Acceptance
  applied : List ℕ
  past : List RollbackState

def appliedBy (cfg : WaitConfig) (n : WaitNode) : WaitEvent → List ℕ
  | .evidence ev _ _ => ((appliedOrder cfg.toRollbackConfig n.rollback ev).map OrderDecision.epoch).toList
  | _ => []

def acceptedBy (cfg : WaitConfig) (t : WaitTrace) : WaitEvent → List Acceptance
  | .heartbeat packet engine now =>
    ((acceptable cfg t.node packet engine now).map fun p => ⟨p, now, t.past, t.applied⟩).toList
  | _ => []

def traceCall (cfg : WaitConfig) (t : WaitTrace) (call : WaitCall) : WaitTrace :=
  let out := waitCall cfg t.node call
  { t with
    node := out.1
    signed := out.2.toList ++ t.signed
    ended := if t.node.leaderActive && !out.1.leaderActive then t.signed.map WaitHeartbeatPayload.incident else t.ended }

def traceOwn (cfg : WaitConfig) (t : WaitTrace) (ev : WaitEvent) : WaitTrace :=
  { t with
    node := waitOwn cfg t.node ev
    accepted := acceptedBy cfg t ev ++ t.accepted
    applied := appliedBy cfg t.node ev ++ t.applied
    past := (waitOwn cfg t.node ev).rollback :: t.past }

def traceStep (cfg : WaitConfig) (t : WaitTrace) (ev : WaitEvent) : WaitTrace :=
  run (traceCall cfg) (traceOwn cfg t ev) (waitCalls cfg t.node ev)

def WaitTrace.start (now : ℤ) : WaitTrace := ⟨.start now, [], [], [], [], [(WaitNode.start now).rollback]⟩

def Acceptance.Late (a : Acceptance) : Prop :=
  (∃ s ∈ a.past, incidentState s a.heartbeat.incident = .cleared) ∨ nextEpoch a.heartbeat.cancelledEpoch ∈ a.applied

def indicesFor (incident : BlockedIncident) (signed : List WaitHeartbeatPayload) : List ℕ :=
  (signed.filter fun p => decide (p.incident = incident)).map WaitHeartbeatPayload.heartbeatIndex

def acceptedFrom (leaderId : ℤ) (accepted : List Acceptance) : List WaitHeartbeatPayload :=
  (accepted.map Acceptance.heartbeat).filter fun p => decide (p.leaderId = leaderId)

structure ReplayProtected (cfg : WaitConfig) (t : WaitTrace) : Prop where
  signed : ∀ incident, (indicesFor incident t.signed).Pairwise (· > ·)
  accepted : ∀ leaderId incident, (indicesFor incident (acceptedFrom leaderId t.accepted)).Pairwise (· > ·)
  lease : ∀ a ∈ t.accepted, a.heartbeat.validUntil ≤ a.acceptedAt + cfg.waitClockSkew + cfg.waitHeartbeatMaxDeferral
  timely : ∀ a ∈ t.accepted, ¬a.Late

-- no heartbeat goes out for an incident that was signed for before the leader was last deactivated, or with the last
-- index before the counter wraps
def CallOk (cfg : WaitConfig) (t : WaitTrace) : WaitCall → Prop
  | .maybeSend s engine _ =>
    ∀ incident ∈ ledIncident cfg s engine,
      incident ∉ t.ended ∧ t.node.activate.leaderHeartbeatIndex + 1 < uint32Modulus
  | .stop => True

-- the record of the follower stands for the pair, unless it has accepted nothing of it; the lease is no longer than
-- the configured maximum
def HeartbeatOk (cfg : WaitConfig) (t : WaitTrace) (p : WaitHeartbeatPayload) : Prop :=
  ((acceptedFrom p.leaderId t.accepted).any (fun q => decide (q.incident = p.incident)) = true →
      t.node.follower.sameLeaderIncident p = true) ∧
    p.validUntil - p.sentAt ≤ cfg.waitHeartbeatMaxDeferral

def OwnOk (cfg : WaitConfig) (t : WaitTrace) : WaitEvent → Prop
  | .evidence ev _ _ =>
    ∀ dec ∈ takenCancel cfg.toRollbackConfig t.node.rollback ev,
      nextEpoch (CancelDecisionHdr.read dec).cancelledEpoch ∉ t.applied
  | .heartbeat packet engine now => ∀ p ∈ admissible cfg t.node packet engine now, HeartbeatOk cfg t p
  | _ => True

def WaitOk (cfg : WaitConfig) (t : WaitTrace) (ev : WaitEvent) : Prop :=
  OwnOk cfg t ev ∧ Guarded (traceCall cfg) (CallOk cfg) (traceOwn cfg t ev) (waitCalls cfg t.node ev)

instance (cfg : WaitConfig) (t : WaitTrace) (call : WaitCall) : Decidable (CallOk cfg t call) :=
  match call with
  | .maybeSend s engine _ => inferInstanceAs (Decidable (∀ incident ∈ ledIncident cfg s engine, _))
  | .stop => inferInstanceAs (Decidable True)

instance (cfg : WaitConfig) (t : WaitTrace) (p : WaitHeartbeatPayload) : Decidable (HeartbeatOk cfg t p) :=
  inferInstanceAs (Decidable (_ ∧ _))

instance (cfg : WaitConfig) (t : WaitTrace) (ev : WaitEvent) : Decidable (OwnOk cfg t ev) :=
  match ev with
  | .evidence ev _ _ => inferInstanceAs (Decidable (∀ dec ∈ takenCancel cfg.toRollbackConfig t.node.rollback ev, _))
  | .heartbeat packet engine now => inferInstanceAs (Decidable (∀ p ∈ admissible cfg t.node packet engine now, _))
  | .orderSuspicion _ _ | .leaderSend _ _ | .followerExpiry _ => inferInstanceAs (Decidable True)

instance (cfg : WaitConfig) (t : WaitTrace) (ev : WaitEvent) : Decidable (WaitOk cfg t ev) :=
  inferInstanceAs (Decidable (_ ∧ _))

variable {cfg : WaitConfig} {t : WaitTrace} {n : WaitNode}

structure LeaderSound (t : WaitTrace) : Prop where
  ordered : ∀ incident, (indicesFor incident t.signed).Pairwise (· > ·)
  below : t.node.leaderActive = true → ∀ p ∈ t.signed, p.incident ∉ t.ended → p.heartbeatIndex < t.node.leaderHeartbeatIndex
  ended : t.node.leaderActive = false → ∀ p ∈ t.signed, p.incident ∈ t.ended

lemma indicesFor_cons (incident : BlockedIncident) (p : WaitHeartbeatPayload) (signed : List WaitHeartbeatPayload) :
    indicesFor incident (p :: signed) =
      if p.incident = incident then p.heartbeatIndex :: indicesFor incident signed else indicesFor incident signed := by
  rw [indicesFor, List.filter_cons]
  split
  next h => rw [if_pos (of_decide_eq_true h), List.map_cons, indicesFor]
  next h => rw [if_neg (by simpa using h), indicesFor]

lemma indicesFor_pairwise_cons {p : WaitHeartbeatPayload} {signed : List WaitHeartbeatPayload}
    (hsigned : ∀ incident, (indicesFor incident signed).Pairwise (· > ·))
    (habove : ∀ q ∈ signed, q.incident = p.incident → q.heartbeatIndex < p.heartbeatIndex) (incident : BlockedIncident) :
    (indicesFor incident (p :: signed)).Pairwise (· > ·) := by
  rw [indicesFor_cons]
  split
  next hsame =>
    refine List.pairwise_cons.mpr ⟨fun index hindex => ?_, hsigned incident⟩
    obtain ⟨q, hq, rfl⟩ := List.mem_map.mp hindex
    obtain ⟨hmem, hincident⟩ := List.mem_filter.mp hq
    exact habove q hmem ((of_decide_eq_true hincident).trans hsame.symm)
  next => exact hsigned incident

lemma sendWaitHeartbeat_counts {incident : BlockedIncident} (hroom : n.leaderHeartbeatIndex + 1 < uint32Modulus)
    (now : ℤ) :
    (sendWaitHeartbeat cfg n incident now).1.leaderActive = n.leaderActive ∧
      n.leaderHeartbeatIndex ≤ (sendWaitHeartbeat cfg n incident now).1.leaderHeartbeatIndex ∧
      ∀ p ∈ (sendWaitHeartbeat cfg n incident now).2, p.incident = incident ∧
        p.heartbeatIndex = n.leaderHeartbeatIndex ∧
          n.leaderHeartbeatIndex < (sendWaitHeartbeat cfg n incident now).1.leaderHeartbeatIndex := by
  rw [sendWaitHeartbeat]
  split
  · exact ⟨rfl, le_rfl, fun p hp => absurd hp (by simp)⟩
  · dsimp only
    rw [Nat.mod_eq_of_lt hroom]
    refine ⟨rfl, Nat.le_succ _, fun p hp => ?_⟩
    split at hp
    · exact absurd hp (by simp)
    · obtain rfl := Option.some.inj hp
      exact ⟨rfl, rfl, Nat.lt_succ_self _⟩

lemma activate_active (n : WaitNode) : n.activate.leaderActive = true := by
  rw [WaitNode.activate]
  split
  next h => exact h
  next => rfl

lemma LeaderSound.deactivated (h : LeaderSound t) {node : WaitNode} (hoff : node.leaderActive = false) :
    LeaderSound { t with
      node := node
      ended := if t.node.leaderActive && !node.leaderActive then t.signed.map WaitHeartbeatPayload.incident else t.ended } where
  ordered := h.ordered
  below := fun hactive => absurd (hoff.symm.trans hactive) (by simp)
  ended := fun _ p hp => by
    dsimp only
    rw [hoff]
    cases hactive : t.node.leaderActive with
    | true => exact List.mem_map_of_mem hp
    | false => exact h.ended hactive p hp

lemma LeaderSound.sent (h : LeaderSound t) {incident : BlockedIncident} (hfresh : incident ∉ t.ended)
    (hroom : t.node.activate.leaderHeartbeatIndex + 1 < uint32Modulus) (now : ℤ) (timer : Option ℤ) :
    LeaderSound { t with
      node := { (sendWaitHeartbeat cfg t.node.activate incident now).1 with leaderSendTimer := timer }
      signed := (sendWaitHeartbeat cfg t.node.activate incident now).2.toList ++ t.signed } := by
  obtain ⟨hactive, hcounter, hout⟩ := @sendWaitHeartbeat_counts cfg t.node.activate incident hroom now
  rw [activate_active] at hactive
  have hbelow : ∀ p ∈ t.signed, p.incident ∉ t.ended → p.heartbeatIndex < t.node.activate.leaderHeartbeatIndex := by
    intro p hp hopen
    cases hwas : t.node.leaderActive with
    | true =>
      rw [WaitNode.activate, if_pos hwas]
      exact h.below hwas p hp hopen
    | false => exact absurd (h.ended hwas p hp) hopen
  refine ⟨?_, fun _ p hp hopen => ?_, fun hoff => absurd (hactive.symm.trans hoff) (by simp)⟩
  · cases hsent : (sendWaitHeartbeat cfg t.node.activate incident now).2 with
    | none => exact h.ordered
    | some p =>
      obtain ⟨rfl, hindex, -⟩ := hout p hsent
      refine indicesFor_pairwise_cons h.ordered fun q hq hsame => ?_
      rw [hindex]
      exact hbelow q hq (hsame ▸ hfresh)
  · rcases List.mem_append.mp hp with hnew | hold
    · obtain ⟨-, hindex, hlt⟩ := hout p (Option.mem_toList.mp hnew)
      exact hindex ▸ hlt
    · exact (hbelow p hold hopen).trans_le hcounter

lemma traceCall_leader {call : WaitCall} (h : LeaderSound t) (hok : CallOk cfg t call) :
    LeaderSound (traceCall cfg t call) := by
  cases call with
  | stop => exact h.deactivated rfl
  | maybeSend s engine now =>
    rw [traceCall, waitCall, maybeSendWaitHeartbeat]
    cases hled : ledIncident cfg s engine with
    | none => exact h.deactivated rfl
    | some incident =>
      obtain ⟨hfresh, hroom⟩ := hok incident hled
      have hsent := @LeaderSound.sent cfg t h incident hfresh hroom now (some (now + cfg.waitHeartbeatInterval))
      have hactive := (@sendWaitHeartbeat_counts cfg t.node.activate incident hroom now).1
      rw [activate_active] at hactive
      dsimp only
      rw [if_neg (by rw [hactive]; simp)]
      exact hsent

lemma waitOwn_leader (cfg : WaitConfig) (n : WaitNode) (ev : WaitEvent) :
    (waitOwn cfg n ev).leaderActive = n.leaderActive ∧
      (waitOwn cfg n ev).leaderHeartbeatIndex = n.leaderHeartbeatIndex := by
  cases ev with
  | evidence ev engine now =>
    rw [waitOwn]
    split <;> exact ⟨rfl, rfl⟩
  | orderSuspicion engine now =>
    rw [waitOwn]
    split <;> exact ⟨rfl, rfl⟩
  | leaderSend engine now => exact ⟨rfl, rfl⟩
  | followerExpiry now =>
    rw [waitOwn, waitFollowerExpiry]
    split <;> exact ⟨rfl, rfl⟩
  | heartbeat packet engine now =>
    rw [waitOwn, handleWaitHeartbeat]
    split <;> exact ⟨rfl, rfl⟩

lemma traceOwn_leader (h : LeaderSound t) (ev : WaitEvent) : LeaderSound (traceOwn cfg t ev) := by
  obtain ⟨hactive, hindex⟩ := waitOwn_leader cfg t.node ev
  refine ⟨h.ordered, fun hon => ?_, fun hoff => h.ended (hactive ▸ hoff)⟩
  rw [traceOwn, hindex]
  exact h.below (hactive ▸ hon)

structure FollowerSound (cfg : WaitConfig) (t : WaitTrace) : Prop where
  ordered : ∀ leaderId incident, (indicesFor incident (acceptedFrom leaderId t.accepted)).Pairwise (· > ·)
  last : ∀ a ∈ t.accepted, t.node.follower.sameLeaderIncident a.heartbeat = true →
    a.heartbeat.heartbeatIndex ≤ t.node.follower.lastHeartbeatIndex
  lease : ∀ a ∈ t.accepted, a.heartbeat.validUntil ≤ a.acceptedAt + cfg.waitClockSkew + cfg.waitHeartbeatMaxDeferral

lemma FollowerSound.kept (h : FollowerSound cfg t) {t' : WaitTrace} (haccepted : t'.accepted = t.accepted)
    (hfollower : t'.node.follower = t.node.follower ∨ t'.node.follower.active = false) : FollowerSound cfg t' := by
  refine ⟨haccepted ▸ h.ordered, fun a ha hsame => ?_, haccepted ▸ h.lease⟩
  rw [haccepted] at ha
  rcases hfollower with hkept | hoff
  · rw [hkept] at hsame ⊢
    exact h.last a ha hsame
  · simp [WaitHeartbeatState.sameLeaderIncident, hoff] at hsame

lemma sendWaitHeartbeat_rest (cfg : WaitConfig) (n : WaitNode) (incident : BlockedIncident) (now : ℤ) :
    (sendWaitHeartbeat cfg n incident now).1.rollback = n.rollback ∧
      (sendWaitHeartbeat cfg n incident now).1.follower = n.follower := by
  rw [sendWaitHeartbeat]
  split <;> exact ⟨rfl, rfl⟩

lemma activate_rest (n : WaitNode) : n.activate.rollback = n.rollback ∧ n.activate.follower = n.follower := by
  rw [WaitNode.activate]
  split <;> exact ⟨rfl, rfl⟩

lemma waitCall_rest (cfg : WaitConfig) (n : WaitNode) (call : WaitCall) :
    (waitCall cfg n call).1.rollback = n.rollback ∧
      ((waitCall cfg n call).1.follower = n.follower ∨ (waitCall cfg n call).1.follower.active = false) := by
  cases call with
  | stop => exact ⟨rfl, Or.inr rfl⟩
  | maybeSend s engine now =>
    rw [waitCall, maybeSendWaitHeartbeat]
    cases ledIncident cfg s engine with
    | none => exact ⟨rfl, Or.inl rfl⟩
    | some incident =>
      obtain ⟨hrollback, hfollower⟩ := sendWaitHeartbeat_rest cfg n.activate incident now
      exact ⟨hrollback.trans (activate_rest n).1, Or.inl (hfollower.trans (activate_rest n).2)⟩

lemma traceCall_follower (h : FollowerSound cfg t) (call : WaitCall) : FollowerSound cfg (traceCall cfg t call) :=
  h.kept rfl (waitCall_rest cfg t.node call).2

lemma mem_acceptedFrom {leaderId : ℤ} {accepted : List Acceptance} {p : WaitHeartbeatPayload} :
    p ∈ acceptedFrom leaderId accepted ↔ (∃ a ∈ accepted, a.heartbeat = p) ∧ p.leaderId = leaderId := by
  rw [acceptedFrom, List.mem_filter, List.mem_map, decide_eq_true_eq]

lemma sameLeaderIncident_iff {f : WaitHeartbeatState} {p : WaitHeartbeatPayload} :
    f.sameLeaderIncident p = true ↔
      f.active = true ∧ f.leaderId = p.leaderId ∧ (⟨f.cancelledEpoch, f.executingBatch⟩ : BlockedIncident) = p.incident := by
  simp only [WaitHeartbeatState.sameLeaderIncident, Bool.and_eq_true, decide_eq_true_eq, WaitHeartbeatPayload.incident,
    BlockedIncident.mk.injEq]
  tauto

lemma acceptable_above {packet : Bytes} {engine : EngineAnswer} {now : ℤ} {p : WaitHeartbeatPayload}
    (h : FollowerSound cfg t) (hp : p ∈ acceptable cfg t.node packet engine now) (hok : HeartbeatOk cfg t p) {a : Acceptance}
    (ha : a ∈ t.accepted) (hleader : a.heartbeat.leaderId = p.leaderId) (hincident : a.heartbeat.incident = p.incident) :
    a.heartbeat.heartbeatIndex < p.heartbeatIndex := by
  obtain ⟨-, hfresh⟩ := Option.filter_eq_some_iff.mp hp
  have hstands : t.node.follower.sameLeaderIncident p = true := by
    refine hok.1 (List.any_eq_true.mpr ⟨a.heartbeat, mem_acceptedFrom.mpr ⟨⟨a, ha, rfl⟩, hleader⟩, ?_⟩)
    exact decide_eq_true hincident
  rw [hstands, Bool.true_and, Bool.not_eq_true', decide_eq_false_iff_not, not_le] at hfresh
  obtain ⟨hactive, hsame⟩ := sameLeaderIncident_iff.mp hstands
  rw [← hleader, ← hincident] at hsame
  exact (h.last a ha (sameLeaderIncident_iff.mpr ⟨hactive, hsame⟩)).trans_lt hfresh

lemma acceptedFrom_cons (leaderId : ℤ) (a : Acceptance) (accepted : List Acceptance) :
    acceptedFrom leaderId (a :: accepted) =
      if a.heartbeat.leaderId = leaderId then a.heartbeat :: acceptedFrom leaderId accepted
      else acceptedFrom leaderId accepted := by
  rw [acceptedFrom, List.map_cons, List.filter_cons]
  simp only [decide_eq_true_eq]
  rfl

lemma admissible_lease {packet : Bytes} {engine : EngineAnswer} {now : ℤ} {p : WaitHeartbeatPayload}
    (hp : p ∈ admissible cfg n packet engine now) (hlease : p.validUntil - p.sentAt ≤ cfg.waitHeartbeatMaxDeferral) :
    p.validUntil ≤ now + cfg.waitClockSkew + cfg.waitHeartbeatMaxDeferral := by
  rw [admissible] at hp
  split at hp
  · exact absurd hp (by simp)
  · obtain ⟨-, hchecks⟩ := Option.filter_eq_some_iff.mp hp
    simp only [leaseHolds, Bool.and_eq_true, decide_eq_true_eq] at hchecks
    omega

lemma FollowerSound.accepts (h : FollowerSound cfg t) {packet : Bytes} {engine : EngineAnswer} {now : ℤ}
    {p : WaitHeartbeatPayload} (hp : p ∈ acceptable cfg t.node packet engine now) (hok : HeartbeatOk cfg t p)
    {t' : WaitTrace} {a : Acceptance} (ha : a.heartbeat = p ∧ a.acceptedAt = now) (haccepted : t'.accepted = a :: t.accepted)
    (hnode : t'.node.follower = ⟨p.cancelledEpoch, p.executingBatch, p.leaderId, p.heartbeatIndex, p.validUntil, true⟩) :
    FollowerSound cfg t' := by
  obtain ⟨rfl, rfl⟩ := ha
  refine ⟨fun leaderId incident => ?_, fun b hb hsame => ?_, fun b hb => ?_⟩
  · rw [haccepted, acceptedFrom_cons]
    split
    next hleader =>
      refine indicesFor_pairwise_cons (h.ordered leaderId) (fun q hq hincident => ?_) incident
      obtain ⟨⟨b, hb, rfl⟩, hfrom⟩ := mem_acceptedFrom.mp hq
      exact acceptable_above h hp hok hb (hfrom.trans hleader.symm) hincident
    next => exact h.ordered leaderId incident
  · rw [haccepted] at hb
    rw [hnode] at hsame ⊢
    rcases List.mem_cons.mp hb with rfl | hold
    · exact le_rfl
    · obtain ⟨-, hleader, hincident⟩ := sameLeaderIncident_iff.mp hsame
      exact (acceptable_above h hp hok hold hleader.symm hincident.symm).le
  · rw [haccepted] at hb
    rcases List.mem_cons.mp hb with rfl | hold
    · exact admissible_lease (Option.filter_eq_some_iff.mp hp).1 hok.2
    · exact h.lease b hold

lemma waitOwn_follower {ev : WaitEvent} (hother : ∀ packet engine now, ev ≠ .heartbeat packet engine now) :
    (waitOwn cfg n ev).follower = n.follower ∨ (waitOwn cfg n ev).follower.active = false := by
  cases ev with
  | evidence ev engine now =>
    simp only [waitOwn]
    split <;> exact Or.inl rfl
  | orderSuspicion engine now =>
    rw [waitOwn]
    split <;> exact Or.inl rfl
  | leaderSend engine now => exact Or.inl rfl
  | followerExpiry now =>
    rw [waitOwn, waitFollowerExpiry]
    split
    · exact Or.inr rfl
    · exact Or.inl rfl
  | heartbeat packet engine now => exact absurd rfl (hother packet engine now)

lemma acceptedBy_other {ev : WaitEvent} (hother : ∀ packet engine now, ev ≠ .heartbeat packet engine now) :
    acceptedBy cfg t ev = [] := by
  cases ev with
  | heartbeat packet engine now => exact absurd rfl (hother packet engine now)
  | _ => rfl

lemma traceOwn_follower (h : FollowerSound cfg t) {ev : WaitEvent} (hok : OwnOk cfg t ev) :
    FollowerSound cfg (traceOwn cfg t ev) := by
  by_cases hother : ∀ packet engine now, ev ≠ .heartbeat packet engine now
  · exact h.kept (by rw [traceOwn, acceptedBy_other hother, List.nil_append]) (waitOwn_follower hother)
  · push Not at hother
    obtain ⟨packet, engine, now, rfl⟩ := hother
    cases hp : acceptable cfg t.node packet engine now with
    | none =>
      refine h.kept ?_ (Or.inl ?_)
      · rw [traceOwn, acceptedBy, hp]
        rfl
      · rw [traceOwn, waitOwn, handleWaitHeartbeat, hp]
    | some p =>
      have ha : acceptedBy cfg t (.heartbeat packet engine now) = [⟨p, now, t.past, t.applied⟩] := by
        rw [acceptedBy, hp]
        rfl
      refine h.accepts hp (hok p (Option.filter_eq_some_iff.mp hp).1) (a := ⟨p, now, t.past, t.applied⟩) ⟨rfl, rfl⟩ ?_ ?_
      · rw [traceOwn, ha, List.singleton_append]
      · rw [traceOwn, waitOwn, handleWaitHeartbeat, hp]

structure HistorySound (t : WaitTrace) : Prop where
  risen : ∀ s ∈ t.past, ∀ incident, (incidentState s incident).rank ≤ (incidentState t.node.rollback incident).rank
  idle : ∀ epoch ∈ t.applied, t.node.rollback.discovery.IdleFor epoch
  timely : ∀ a ∈ t.accepted, ¬a.Late

lemma waitOwn_rollback (cfg : WaitConfig) (n : WaitNode) (ev : WaitEvent) :
    (∃ e engine now, ev = .evidence e engine now ∧ discoveryFollows n.rollback e = true ∧
      (waitOwn cfg n ev).rollback = evidenceStep cfg.toRollbackConfig n.rollback e) ∨
    (appliedBy cfg n ev = [] ∧
      ∃ requested, (waitOwn cfg n ev).rollback = { n.rollback with orderVcRequested := requested }) := by
  cases ev with
  | evidence e engine now =>
    cases hfollows : discoveryFollows n.rollback e with
    | true => exact Or.inl ⟨e, engine, now, rfl, hfollows, by simp only [waitOwn, hfollows, if_true]⟩
    | false =>
      refine Or.inr ⟨?_, n.rollback.orderVcRequested, by simp only [waitOwn, hfollows, Bool.false_eq_true, if_false]⟩
      cases e with
      | rollback _ _ => rfl
      | _ => exact absurd hfollows (by simp [discoveryFollows])
  | orderSuspicion engine now =>
    rw [waitOwn]
    split
    · exact Or.inr ⟨rfl, true, rfl⟩
    · exact Or.inr ⟨rfl, n.rollback.orderVcRequested, rfl⟩
  | leaderSend engine now => exact Or.inr ⟨rfl, n.rollback.orderVcRequested, rfl⟩
  | followerExpiry now =>
    rw [waitOwn, waitFollowerExpiry]
    split
    · exact Or.inr ⟨rfl, true, rfl⟩
    · exact Or.inr ⟨rfl, n.rollback.orderVcRequested, rfl⟩
  | heartbeat packet engine now =>
    rw [waitOwn, handleWaitHeartbeat]
    split <;> exact Or.inr ⟨rfl, n.rollback.orderVcRequested, rfl⟩

lemma admissible_open {packet : Bytes} {engine : EngineAnswer} {now : ℤ} {p : WaitHeartbeatPayload}
    (hp : p ∈ admissible cfg n packet engine now) :
    incidentState n.rollback p.incident = .blocking ∧ n.rollback.discovery.state = .complete ∧
      n.rollback.discovery.epoch = nextEpoch p.cancelledEpoch := by
  rw [admissible] at hp
  split at hp
  · exact absurd hp (by simp)
  · obtain ⟨-, hchecks⟩ := Option.filter_eq_some_iff.mp hp
    simp only [awaitsRecovery, Bool.and_eq_true, decide_eq_true_eq] at hchecks
    obtain ⟨⟨⟨⟨⟨⟨-, hblocking⟩, -⟩, hcomplete⟩, hepoch⟩, -⟩, -⟩ := hchecks
    exact ⟨hblocking, hcomplete, hepoch⟩

lemma acceptable_timely (h : HistorySound t) {packet : Bytes} {engine : EngineAnswer} {now : ℤ} {p : WaitHeartbeatPayload}
    (hp : p ∈ acceptable cfg t.node packet engine now) : ¬Acceptance.Late ⟨p, now, t.past, t.applied⟩ := by
  obtain ⟨hblocking, hcomplete, hepoch⟩ := admissible_open (Option.filter_eq_some_iff.mp hp).1
  rintro (⟨s, hs, hcleared⟩ | happlied)
  · have hrank := h.risen s hs p.incident
    rw [hcleared, hblocking] at hrank
    exact absurd hrank (by decide)
  · rcases h.idle _ happlied with hinactive | hother
    · exact absurd (hcomplete.symm.trans hinactive) (by decide)
    · exact hother hepoch

lemma traceOwn_history (h : HistorySound t) {ev : WaitEvent} (hok : OwnOk cfg t ev) : HistorySound (traceOwn cfg t ev) := by
  have haccepted : ∀ a ∈ (traceOwn cfg t ev).accepted, ¬a.Late := by
    intro a ha
    rcases List.mem_append.mp ha with hnew | hold
    · cases ev with
      | heartbeat packet engine now =>
        obtain ⟨p, hp, rfl⟩ := Option.map_eq_some_iff.mp (Option.mem_toList.mp hnew)
        exact acceptable_timely h hp
      | _ => exact absurd hnew (List.not_mem_nil)
    · exact h.timely a hold
  rcases waitOwn_rollback cfg t.node ev with ⟨e, engine, now, rfl, hfollows, hstep⟩ | ⟨hnone, requested, hsame⟩
  · refine ⟨fun s hs incident => ?_, fun epoch hepoch => ?_, haccepted⟩
    · rw [traceOwn, hstep] at hs ⊢
      rcases List.mem_cons.mp hs with rfl | hpast
      · exact le_rfl
      · exact (h.risen s hpast incident).trans (evidenceStep_moved _ _ _ incident).rank_le
    · rw [traceOwn, hstep]
      rcases List.mem_append.mp hepoch with hnew | hold
      · obtain ⟨order, horder, -⟩ := Option.map_eq_some_iff.mp (Option.mem_toList.mp hnew)
        exact Or.inl (appliedOrder_inactive horder)
      · exact evidenceStep_discovery t.node.rollback hfollows (h.idle epoch hold) fun dec hdec heq =>
          hok dec hdec (heq ▸ hold)
  · refine ⟨fun s hs incident => ?_, fun epoch hepoch => ?_, haccepted⟩
    · rw [traceOwn, hsame] at hs ⊢
      rcases List.mem_cons.mp hs with rfl | hpast
      · exact le_rfl
      · exact h.risen s hpast incident
    · rw [traceOwn, hnone, List.nil_append] at hepoch
      rw [traceOwn, hsame]
      exact h.idle epoch hepoch

lemma traceCall_history (h : HistorySound t) (call : WaitCall) : HistorySound (traceCall cfg t call) := by
  have hsame : (traceCall cfg t call).node.rollback = t.node.rollback := (waitCall_rest cfg t.node call).1
  refine ⟨fun s hs incident => ?_, fun epoch hepoch => ?_, h.timely⟩
  · rw [hsame]
    exact h.risen s hs incident
  · rw [hsame]
    exact h.idle epoch hepoch

structure TraceSound (cfg : WaitConfig) (t : WaitTrace) : Prop where
  leader : LeaderSound t
  follower : FollowerSound cfg t
  history : HistorySound t

lemma start_sound (cfg : WaitConfig) (now : ℤ) : TraceSound cfg (.start now) where
  leader := ⟨fun _ => List.Pairwise.nil, fun _ _ hp => absurd hp List.not_mem_nil, fun _ _ hp => absurd hp List.not_mem_nil⟩
  follower := ⟨fun _ _ => List.Pairwise.nil, fun _ ha => absurd ha List.not_mem_nil, fun _ ha => absurd ha List.not_mem_nil⟩
  history :=
    ⟨fun s hs incident => by rw [List.mem_singleton.mp hs]; exact le_rfl, fun _ he => absurd he List.not_mem_nil,
      fun _ ha => absurd ha List.not_mem_nil⟩

lemma traceStep_sound {ev : WaitEvent} (h : TraceSound cfg t) (hok : WaitOk cfg t ev) :
    TraceSound cfg (traceStep cfg t ev) := by
  obtain ⟨hown, hcalls⟩ := hok
  have howned : TraceSound cfg (traceOwn cfg t ev) :=
    ⟨traceOwn_leader h.leader ev, traceOwn_follower h.follower hown, traceOwn_history h.history hown⟩
  have hcall : ∀ t call, TraceSound cfg t → CallOk cfg t call → TraceSound cfg (traceCall cfg t call) :=
    fun _ call hsound hcall =>
      ⟨traceCall_leader hsound.leader hcall, traceCall_follower hsound.follower call, traceCall_history hsound.history call⟩
  exact hcalls.invariant hcall howned

lemma TraceSound.protected (h : TraceSound cfg t) : ReplayProtected cfg t :=
  ⟨h.leader.ordered, h.follower.ordered, h.follower.lease, h.history.timely⟩

theorem replayProtected_of_guarded (cfg : WaitConfig) (now : ℤ) {events : List WaitEvent}
    (h : Guarded (traceStep cfg) (WaitOk cfg) (.start now) events) :
    ReplayProtected cfg (run (traceStep cfg) (.start now) events) :=
  (h.invariant (fun _ _ => traceStep_sound) (start_sound cfg now)).protected

def seconds (s : ℤ) : ℤ := s * 1000000000000

-- the longest deferral is half a microsecond over 2.5 s
def waitCar (replicaId : ℤ) : WaitConfig where
  toRollbackConfig :=
    { fourRollbackCars with replicaId := replicaId, registeredKeys := [0, 1, 2, 3].map fun car => (car, zeros 33) }
  packSignedPacket := fun bytes => zeros 33 ++ [1, 7] ++ bytes
  waitHeartbeatInterval := seconds 1
  waitHeartbeatMaxDeferral := 2500000500000
  waitClockSkew := 0

def waitRun (replicaId : ℤ) (events : List WaitEvent) : WaitTrace :=
  run (traceStep (waitCar replicaId)) (.start 0) events

def ledBy (primary : ℤ) : EngineAnswer := ⟨true, primary⟩

def evidenceAt (now : ℤ) (events : List EvidenceEvent) : List WaitEvent := events.map fun ev => .evidence ev (ledBy 0) now

def completeRound : EvidenceEvent := .rollback fourCertified rfl

def blockedRecovery : List WaitEvent :=
  evidenceAt 8 (afterOrder [blockedReceived, .rollback (.orderDecided (crashCancelBytes 0)) crashCancel_plain, .order false (stopped 8),
    completeRound])

def heartbeatOf (batch index validUntilUs : ℕ) : Bytes :=
  zeros 33 ++ [1, 7] ++ WaitHeartbeatPayload.bytes ⟨kWaitHeartbeatMagic, 1, 0, batch, 0, index, 10000000, validUntilUs⟩

def leads : List WaitEvent :=
  evidenceAt (seconds 10) [.rollback (.orderReadiness (ledBy 0)) rfl] ++ [.leaderSend (ledBy 0) (seconds 11)]

def follows : List WaitEvent :=
  [.heartbeat (heartbeatOf 1 3 12000000) (ledBy 0) (seconds 10), .heartbeat (heartbeatOf 1 4 12500000) (ledBy 0) (seconds 11)]

theorem replayProtected_of_guarded_leads :
    (indicesFor ⟨0, 1⟩ (waitRun 0 (blockedRecovery ++ leads)).signed = [1, 0] ∧
      ReplayProtected (waitCar 0) (waitRun 0 (blockedRecovery ++ leads))) ∧
    indicesFor ⟨0, 1⟩ (acceptedFrom 0 (waitRun 2 (blockedRecovery ++ follows)).accepted) = [4, 3] ∧
      ReplayProtected (waitCar 2) (waitRun 2 (blockedRecovery ++ follows)) :=
  ⟨⟨by decide +kernel, replayProtected_of_guarded (waitCar 0) 0 (by decide +kernel)⟩, by decide +kernel,
    replayProtected_of_guarded (waitCar 2) 0 (by decide +kernel)⟩

def waitingEchoes : Bytes :=
  ascii "|2:" ++ toHex (zeros 33) ++ ascii ",07|3:" ++ toHex (zeros 33) ++ ascii ",07"

def secondBlocked : EvidenceEvent :=
  .rollback (.cancelCert 2 (ascii "CANCEL_CERT|0|0|blocked_batch:0:0" ++ waitingEchoes) (stopped 10)) rfl

def secondCleared : EvidenceEvent := .clearCert 2 (zeros 33 ++ [1, 7] ++ ascii "CLEAR_CERT|0|0" ++ waitingEchoes)

-- the CLEAR of the second incident stops the leader, and readiness starts it over for the first
def restarts : List WaitEvent :=
  evidenceAt (seconds 12) [secondBlocked, secondCleared, .rollback (.orderReadiness (ledBy 0)) rfl]

-- a heartbeat for the second incident takes the record over, and the first one is sent again
def replays : List WaitEvent :=
  [.heartbeat (heartbeatOf 1 3 12000000) (ledBy 0) (seconds 10)] ++ evidenceAt (seconds 10) [secondBlocked] ++
    [.heartbeat (heartbeatOf 0 4 12500000) (ledBy 0) (seconds 11), .heartbeat (heartbeatOf 1 3 12000000) (ledBy 0) (seconds 11)]

def appliedThenCancelled : List WaitEvent :=
  evidenceAt 9 [.rollback (.orderDecided (orderDecisionBytes 1 [(0, 0), (1, 0), (2, 1), (3, 1)])) rfl, .order false (stopped 9),
    .rollback (.orderDecided (crashCancelBytes 0)) crashCancel_plain, .order false (stopped 9), completeRound]

theorem waitHeartbeats_unprotected :
    indicesFor ⟨0, 1⟩ (waitRun 0 (blockedRecovery ++ leads ++ restarts)).signed = [0, 1, 0] ∧
    indicesFor ⟨0, 1⟩ (acceptedFrom 0 (waitRun 2 (blockedRecovery ++ replays)).accepted) = [3, 3] ∧
    (∃ a ∈ (waitRun 2 (blockedRecovery ++ [.heartbeat (heartbeatOf 1 3 12500001) (ledBy 0) (seconds 10)])).accepted,
      a.acceptedAt + (waitCar 2).waitClockSkew + (waitCar 2).waitHeartbeatMaxDeferral < a.heartbeat.validUntil) ∧
    (∃ a ∈ (waitRun 2 (blockedRecovery ++ appliedThenCancelled ++ follows)).accepted,
      nextEpoch a.heartbeat.cancelledEpoch ∈ a.applied) ∧
    ¬∀ cfg now events, ReplayProtected cfg (run (traceStep cfg) (.start now) events) := by
  have hrestart : indicesFor ⟨0, 1⟩ (waitRun 0 (blockedRecovery ++ leads ++ restarts)).signed = [0, 1, 0] := by
    decide +kernel
  refine ⟨hrestart, by decide +kernel, by decide +kernel, by decide +kernel, fun h => ?_⟩
  have hordered := (h (waitCar 0) 0 (blockedRecovery ++ leads ++ restarts)).signed ⟨0, 1⟩
  rw [← waitRun, hrestart] at hordered
  exact absurd hordered (by decide)

end V2vBft.Rollback
