import V2vBft.Bridge.ViewValidity
import V2vBft.Library.GuardedRun

/-! The primary reported to the application and the one the engine checks, over every order of the operations on them. -/

namespace V2vBft.Bridge

open Wire Pbft Library.GuardedRun

variable {env : BridgeEnv} {s t : ConsensusState} {request : Request} {view : ProposalView} {replicas : ℕ}

def enginePrimary (s : ConsensusState) : ℤ := resdbSenderToOmnet s.info.primaryId

def forcedPrimary (s : ConsensusState) : Option ℤ :=
  s.registry.latest.bind fun forced => if forced.primaryOmnet ≥ 0 then some forced.primaryOmnet else none

def resdbOmnetGetPrimary (s : ConsensusState) : ℤ :=
  (forcedPrimary s).getD (if enginePrimary s < 0 then 0 else enginePrimary s)

inductive PrimaryOp
  | preVerify (env : BridgeEnv) (request : Request)
  | findForRequest (request : Request)
  | installForRequest (request : Request) (view : OmnetForcedView)
  | installPending (view : OmnetForcedView)
  | promotePrimaryFromCert (primaryOmnet : ℤ)
  | setPrimary (primary : ℤ) (version : ℕ)
  | newView (viewNumber : ℕ)
  | recoverView (viewNumber : ℕ)
  | checkSysStatus (primary : ℤ) (view : ℕ)

def setCurrentViewAndNewPrimary (replicas : ℕ) (s : ConsensusState) (viewNumber : ℕ) : ConsensusState :=
  { s with info := ⟨newPrimary replicas viewNumber, viewNumber⟩ }

def promotes (replicas : ℕ) (primaryOmnet : ℤ) : Bool := decide (0 ≤ primaryOmnet) && decide (primaryOmnet < replicas)

def movesView (s : ConsensusState) (primary : ℤ) (view : ℕ) : Bool :=
  decide (0 < primary) && decide (primary ≠ s.info.primaryId) && decide (s.info.currentView < view)

-- a NEW-VIEW is refused once a forced view exists, a recovered or a synchronized view is not
def primaryStep (replicas : ℕ) (s : ConsensusState) : PrimaryOp → ConsensusState
  | .preVerify env request => (preVerify env s request).2
  | .findForRequest request => { s with registry := (s.registry.findForRequest request).2 }
  | .installForRequest request view => (s.installOmnetForcedViewForRequest request view).getD s
  | .installPending view => (s.installOmnetPendingForcedView view).getD s
  | .promotePrimaryFromCert primaryOmnet =>
    if promotes replicas primaryOmnet then { s with info := { s.info with primaryId := primaryOmnet + 1 } } else s
  | .setPrimary primary version => { s with info := s.info.setPrimary primary version }
  | .newView viewNumber => if s.registry.hasAny then s else setCurrentViewAndNewPrimary replicas s viewNumber
  | .recoverView viewNumber => setCurrentViewAndNewPrimary replicas s viewNumber
  | .checkSysStatus primary view => if movesView s primary view then { s with info := ⟨primary, view⟩ } else s

def orderView (request : Request) : Option ProposalView :=
  (request.data.checkedPayload.bind unwrapRollbackIfPresent).filter fun view => !view.isCancel

def ledBy (replicas : ℕ) (s : ConsensusState) : PrimaryOp → Option ℤ
  | .preVerify env request =>
    if decide (request.type = .prePrepare) && (preVerify env s request).1 then
      (orderView request).map fun view => (orderHdr view).leaderId
    else none
  | .promotePrimaryFromCert primaryOmnet => if promotes replicas primaryOmnet then some primaryOmnet else none
  | _ => none

def Agree (s : ConsensusState) : Prop := resdbOmnetGetPrimary s = enginePrimary s

structure OpAgrees (replicas : ℕ) (s : ConsensusState) (op : PrimaryOp) : Prop where
  agree : Agree (primaryStep replicas s op)
  led : ∀ leader, ledBy replicas s op = some leader →
    resdbOmnetGetPrimary (primaryStep replicas s op) = leader ∧ enginePrimary (primaryStep replicas s op) = leader

def follows (s : ConsensusState) (primaryOmnet : ℤ) : Bool :=
  (forcedPrimary s).all fun forced => decide (forced = primaryOmnet)

def copiedView (reg : Registry) (request : Request) : Option OmnetForcedView :=
  if request.hash = [] ∨ request.seq = 0 ∨ (reg.views.any fun v => v.matches request) then none
  else reg.pendingByHash.find? fun v => decide (v.requestHash = request.hash)

-- an ORDER led by the lowest signed car that is not the primary, and that brings no view of its own
def handsOverBare (env : BridgeEnv) (s : ConsensusState) (request : Request) : Bool :=
  decide (request.type = .prePrepare) && request.data.checkedPayload.any fun payload =>
    (unwrapRollbackIfPresent payload).any fun view =>
      !view.isCancel && orderAdmissible env s request payload view && !view.isRollback &&
        (epochView env view request).isNone && leaderIsCertPrimary env.expected (orderHdr view) (orderEntries view) &&
        !leaderIsPbftPrimary env.expected s.info (orderHdr view) (orderEntries view)

def keepsPrimary (replicas : ℕ) (s : ConsensusState) : PrimaryOp → Bool
  | .preVerify env request =>
    !handsOverBare env s request ||
      decide (forcedPrimary s = none) && decide (s.info.currentView < request.currentView)
  | .findForRequest request =>
    (copiedView s.registry request).all fun v => decide (v.primaryOmnet < 0) || decide (v.primaryOmnet = enginePrimary s)
  | .promotePrimaryFromCert primaryOmnet => !promotes replicas primaryOmnet || follows s primaryOmnet
  | .setPrimary primary version =>
    decide (version ≤ s.info.currentView) || decide (0 < primary) && follows s (primary - 1)
  | .recoverView viewNumber => follows s (newPrimary replicas viewNumber - 1)
  | .checkSysStatus primary view => !movesView s primary view || follows s (primary - 1)
  | _ => true

lemma agree_iff : Agree s ↔ 0 ≤ enginePrimary s ∧ follows s (enginePrimary s) = true := by
  rw [Agree, resdbOmnetGetPrimary, follows]
  cases hforced : forcedPrimary s with
  | none =>
    simp only [Option.getD_none, Option.all_none, and_true]
    split <;> omega
  | some forced =>
    have hpos : 0 ≤ forced := by
      obtain ⟨view, -, hview⟩ := Option.bind_eq_some_iff.mp hforced
      split at hview
      next hge => exact Option.some.inj hview ▸ hge
      next => exact absurd hview (by simp)
    simp only [Option.getD_some, Option.all_some, decide_eq_true_eq]
    omega

lemma enginePrimary_of_succ {p : ℤ} (h : s.info.primaryId = p + 1) (hp : 0 ≤ p) : enginePrimary s = p := by
  rw [enginePrimary, h, resdbSenderToOmnet, if_neg (by omega)]
  omega

lemma enginePrimary_nonneg : 0 ≤ enginePrimary s ↔ 0 < s.info.primaryId := by
  rw [enginePrimary, resdbSenderToOmnet]
  split <;> omega

lemma follows_congr (h : t.registry.latest = s.registry.latest) (p : ℤ) : follows t p = follows s p := by
  rw [follows, follows, forcedPrimary, forcedPrimary, h]

lemma agree_moved {p : ℤ} (hlatest : t.registry.latest = s.registry.latest) (hid : t.info.primaryId = p + 1)
    (hp : 0 ≤ p) : Agree t ↔ follows s p = true := by
  rw [agree_iff, enginePrimary_of_succ hid hp, follows_congr hlatest]
  exact and_iff_right hp

lemma forcedPrimary_latest {w : OmnetForcedView} (h : s.registry.latest = some w) :
    forcedPrimary s = if w.primaryOmnet ≥ 0 then some w.primaryOmnet else none := by
  rw [forcedPrimary, h, Option.bind_some]

lemma adopt_agree {reg : Registry} {forced w : OmnetForcedView} (hagree : Agree s) (hlatest : reg.latest = some w)
    (hprimary : w.primaryOmnet = forced.primaryOmnet) :
    Agree (s.adopt reg forced) ∧ (0 ≤ forced.primaryOmnet → enginePrimary (s.adopt reg forced) = forced.primaryOmnet) := by
  have hforced := forcedPrimary_latest (s := s.adopt reg forced) hlatest
  rw [hprimary] at hforced
  by_cases hp : 0 ≤ forced.primaryOmnet
  · have hid : (s.adopt reg forced).info.primaryId = forced.primaryOmnet + 1 := by rw [ConsensusState.adopt, if_pos hp]
    have hengine := enginePrimary_of_succ hid hp
    refine ⟨agree_iff.mpr ⟨hengine ▸ hp, ?_⟩, fun _ => hengine⟩
    rw [follows, hforced, if_pos hp, hengine]
    exact decide_eq_true rfl
  · have hinfo : (s.adopt reg forced).info = s.info := by rw [ConsensusState.adopt, if_neg hp]
    have hengine : enginePrimary (s.adopt reg forced) = enginePrimary s := by rw [enginePrimary, hinfo, enginePrimary]
    refine ⟨agree_iff.mpr ⟨hengine ▸ (agree_iff.mp hagree).1, ?_⟩, fun h => absurd h hp⟩
    rw [follows, hforced, if_neg hp]
    rfl

lemma normalize_primary {forced n : OmnetForcedView} (h : forced.normalize = some n) :
    n.primaryOmnet = forced.primaryOmnet := by
  obtain ⟨quorum, _, rfl⟩ := Option.map_eq_some_iff.mp h
  rfl

lemma installForRequest_agree {forced : OmnetForcedView} (hagree : Agree s)
    (h : s.installOmnetForcedViewForRequest request forced = some t) :
    Agree t ∧ (0 ≤ forced.primaryOmnet → enginePrimary t = forced.primaryOmnet) := by
  obtain ⟨reg, hreg, rfl⟩ := Option.map_eq_some_iff.mp h
  obtain ⟨n, hn, hlatest⟩ := installForRequest_latest hreg
  have hprimary := normalize_primary hn
  exact adopt_agree hagree hlatest hprimary

lemma installPending_agree {forced : OmnetForcedView} (hagree : Agree s)
    (h : s.installOmnetPendingForcedView forced = some t) :
    Agree t ∧ (0 ≤ forced.primaryOmnet → enginePrimary t = forced.primaryOmnet) := by
  obtain ⟨reg, hreg, rfl⟩ := Option.map_eq_some_iff.mp h
  obtain ⟨n, hn, hlatest⟩ := installPending_latest hreg
  exact adopt_agree hagree hlatest (normalize_primary hn)

lemma installView_agree {forced : OmnetForcedView} (hagree : Agree s) (h : installView s request forced = some t) :
    Agree t ∧ (0 ≤ forced.primaryOmnet → enginePrimary t = forced.primaryOmnet) := by
  rw [installView] at h
  split at h
  · exact installForRequest_agree hagree h
  · exact installPending_agree hagree h

lemma installView_primaryId {forced : OmnetForcedView} (h : installView s request forced = some t)
    (hpos : 0 ≤ forced.primaryOmnet) : t.info.primaryId = forced.primaryOmnet + 1 := by
  rw [installView] at h
  split at h
  all_goals
    obtain ⟨reg, -, rfl⟩ := Option.map_eq_some_iff.mp h
    rw [ConsensusState.adopt, if_pos hpos]

lemma findForRequest_latest (reg : Registry) (request : Request) :
    ((reg.findForRequest request).2.latest = reg.latest ∧ copiedView reg request = none) ∨
      ∃ v w, copiedView reg request = some v ∧ (reg.findForRequest request).2.latest = some w ∧
        w.primaryOmnet = v.primaryOmnet := by
  rw [copiedView, Registry.findForRequest]
  by_cases hhash : request.hash = []
  · exact Or.inl ⟨by rw [if_pos hhash], by simp [hhash]⟩
  rw [if_neg hhash]
  cases hfound : reg.views.find? fun v => v.matches request with
  | some v =>
    have hany : (reg.views.any fun v => v.matches request) = true :=
      List.any_eq_true.mpr ⟨v, List.mem_of_find?_eq_some hfound, by simpa using List.find?_some hfound⟩
    exact Or.inl ⟨rfl, by simp [hany]⟩
  | none =>
    have hany : (reg.views.any fun v => v.matches request) = false :=
      List.any_eq_false.mpr fun v hv => by simpa using List.find?_eq_none.mp hfound v hv
    cases hpending : reg.pendingByHash.find? fun v => decide (v.requestHash = request.hash) with
    | none => exact Or.inl ⟨rfl, by simp⟩
    | some pending =>
      by_cases hseq : request.seq = 0
      · exact Or.inl ⟨by simp [hseq], by simp [hseq]⟩
      · exact Or.inr ⟨pending, { pending with seq := request.seq }, by simp [hhash, hseq, hany], by simp [hseq], rfl⟩

lemma findForRequest_agrees (hagree : Agree s) (request : Request) :
    OpAgrees replicas s (.findForRequest request) ↔ keepsPrimary replicas s (.findForRequest request) = true := by
  have hopen : OpAgrees replicas s (.findForRequest request) ↔
      Agree (primaryStep replicas s (.findForRequest request)) :=
    ⟨OpAgrees.agree, fun h => ⟨h, fun _ hled => absurd hled (by simp [ledBy])⟩⟩
  rw [hopen, keepsPrimary, agree_iff]
  have hengine : enginePrimary (primaryStep replicas s (.findForRequest request)) = enginePrimary s := rfl
  rw [hengine]
  obtain ⟨hpos, hfollows⟩ := agree_iff.mp hagree
  rw [and_iff_right hpos]
  rcases findForRequest_latest s.registry request with ⟨hlatest, hnone⟩ | ⟨v, w, hcopy, hlatest, hprimary⟩
  · rw [follows_congr hlatest, hnone, hfollows]
    simp
  · rw [follows, forcedPrimary_latest hlatest, hprimary, hcopy, Option.all_some]
    by_cases hp : 0 ≤ v.primaryOmnet
    · simp [hp, not_lt.mpr hp]
    · simp [hp, not_le.mp hp]

lemma moved_agrees {op : PrimaryOp} {p : ℤ} (hlatest : (primaryStep replicas s op).registry.latest = s.registry.latest)
    (hid : (primaryStep replicas s op).info.primaryId = p + 1) (hp : 0 ≤ p)
    (hled : ∀ leader, ledBy replicas s op = some leader → leader = p) :
    OpAgrees replicas s op ↔ follows s p = true := by
  have hmoved := agree_moved hlatest hid hp
  refine ⟨fun h => hmoved.mp h.agree, fun h => ⟨hmoved.mpr h, fun leader hleader => ?_⟩⟩
  obtain rfl := hled leader hleader
  have hengine := enginePrimary_of_succ hid hp
  exact ⟨(hmoved.mpr h).trans hengine, hengine⟩

lemma still_agrees {op : PrimaryOp} (hagree : Agree s) (hstep : primaryStep replicas s op = s)
    (hled : ledBy replicas s op = none) : OpAgrees replicas s op :=
  ⟨hstep.symm ▸ hagree, fun leader h => absurd (hled.symm.trans h) (by simp)⟩

inductive Verdict (env : BridgeEnv) (s : ConsensusState) (request : Request) : Prop
  | kept (hstep : (preVerify env s request).2 = s) (hbare : handsOverBare env s request = false)
      (hled : ∀ replicas leader, ledBy replicas s (.preVerify env request) = some leader → leader = enginePrimary s)
  | installed (forced : OmnetForcedView) (t : ConsensusState) (hinstall : installView s request forced = some t)
      (hpos : 0 ≤ forced.primaryOmnet) (hregistry : (preVerify env s request).2.registry = t.registry)
      (hid : (preVerify env s request).2.info.primaryId = forced.primaryOmnet + 1)
      (hbare : handsOverBare env s request = false)
      (hled : ∀ replicas leader, ledBy replicas s (.preVerify env request) = some leader → leader = forced.primaryOmnet)
  | bare (leader : ℤ) (hpos : 0 ≤ leader) (hother : leader ≠ enginePrimary s)
      (hstep : (preVerify env s request).2 = { s with info := s.info.setPrimary (leader + 1) request.currentView })
      (hbare : handsOverBare env s request = true)
      (hled : ∀ replicas, ledBy replicas s (.preVerify env request) = some leader)

lemma Verdict.rejected (h : preVerify env s request = (false, s)) (hbare : handsOverBare env s request = false) :
    Verdict env s request :=
  .kept (by rw [h]) hbare fun _ _ hled => absurd hled (by simp [ledBy, h])

lemma Verdict.agrees (h : Verdict env s request) (hagree : Agree s) :
    OpAgrees replicas s (.preVerify env request) ↔ keepsPrimary replicas s (.preVerify env request) = true := by
  cases h with
  | kept hstep hbare hled =>
    refine iff_of_true ⟨?_, fun leader hleader => ?_⟩ (by simp [keepsPrimary, hbare])
    · rw [primaryStep, hstep]
      exact hagree
    · rw [primaryStep, hstep, hled _ _ hleader]
      exact ⟨hagree, rfl⟩
  | installed forced t hinstall hpos hregistry hid hbare hled =>
    obtain ⟨hagreet, hengine⟩ := installView_agree hagree hinstall
    have hsame := enginePrimary_of_succ hid hpos
    have hstep : Agree (preVerify env s request).2 := by
      obtain ⟨-, hfollows⟩ := agree_iff.mp hagreet
      rw [hengine hpos] at hfollows
      exact (agree_moved (by rw [hregistry]) hid hpos).mpr hfollows
    refine iff_of_true ⟨hstep, fun leader hleader => ?_⟩ (by simp [keepsPrimary, hbare])
    rw [hled _ _ hleader]
    exact ⟨hstep.trans hsame, hsame⟩
  | bare leader hpos hother hstep hbare hled =>
    obtain ⟨hengine, hfollows⟩ := agree_iff.mp hagree
    simp only [keepsPrimary, hbare, Bool.not_true, Bool.false_or, Bool.and_eq_true, decide_eq_true_eq]
    by_cases hview : s.info.currentView < request.currentView
    · have hid : (preVerify env s request).2.info.primaryId = leader + 1 := by
        rw [hstep, SystemInfo.setPrimary]
        exact congrArg SystemInfo.primaryId (if_pos hview)
      have hmoved : OpAgrees replicas s (.preVerify env request) ↔ follows s leader = true :=
        moved_agrees (by rw [primaryStep, hstep]) hid hpos fun l hl => Option.some.inj (hl.symm.trans (hled replicas))
      rw [hmoved, and_iff_left hview, follows]
      rw [follows] at hfollows
      cases hforced : forcedPrimary s with
      | none => simp
      | some forced =>
        rw [hforced, Option.all_some, decide_eq_true_eq] at hfollows
        simp only [Option.all_some, decide_eq_true_eq, reduceCtorEq, iff_false]
        exact fun h => hother (h.symm.trans hfollows)
    · refine iff_of_false (fun h => ?_) fun h => hview h.2
      have hsame : (preVerify env s request).2 = s := by
        rw [hstep, SystemInfo.setPrimary, if_neg hview]
      have hled' := (h.led leader (hled replicas)).2
      rw [primaryStep, hsame] at hled'
      exact hother hled'.symm

section

variable {payload : Bytes} {rest : List Bytes} (hdata : request.data = .batch (payload :: rest))
  (hunwrap : unwrapRollbackIfPresent payload = some view)

include hdata hunwrap

lemma handsOverBare_eq : handsOverBare env s request =
    (decide (request.type = .prePrepare) && (!view.isCancel && orderAdmissible env s request payload view &&
      !view.isRollback && (epochView env view request).isNone &&
      leaderIsCertPrimary env.expected (orderHdr view) (orderEntries view) &&
      !leaderIsPbftPrimary env.expected s.info (orderHdr view) (orderEntries view))) := by
  rw [handsOverBare, hdata, BatchData.checkedPayload, Option.any_some, hunwrap, Option.any_some]

lemma ledBy_order {leader : ℤ} (h : ledBy replicas s (.preVerify env request) = some leader) :
    leader = (orderHdr view).leaderId ∧ view.isCancel = false := by
  rw [ledBy] at h
  split at h
  next =>
    rw [orderView, hdata, BatchData.checkedPayload, Option.bind_some, hunwrap] at h
    obtain ⟨v, hv, rfl⟩ := Option.map_eq_some_iff.mp h
    obtain ⟨hv, hcancel⟩ := Option.filter_eq_some_iff.mp hv
    obtain rfl := Option.some.inj hv
    exact ⟨rfl, by simpa using hcancel⟩
  next => exact absurd h (by simp)

lemma preVerify_order (htype : request.type = .prePrepare ∨ request.type = .newTxns) (hcancel : view.isCancel = false) :
    preVerify env s request =
      if orderAdmissible env s request payload view then installOrder env s request view else (false, s) := by
  have hnot : ¬(request.type ≠ .prePrepare ∧ request.type ≠ .newTxns) := by
    rcases htype with ht | ht <;> simp [ht]
  rw [preVerify, if_neg hnot, hdata]
  dsimp only
  rw [preVerifyPayload, hunwrap]
  simp [hcancel]

end

lemma handOver_primary {hdr : ProposeHdr} {entries : List VehicleEntry} (hid : t.info.primaryId = hdr.leaderId + 1) :
    (handOver env s t request hdr entries).info.primaryId = hdr.leaderId + 1 := by
  rw [handOver, SystemInfo.setPrimary]
  split
  · dsimp only
    split <;> [rfl; exact hid]
  · exact hid

lemma of_ite_some {c : Prop} [Decidable c] {a b : OmnetForcedView} (h : (if c then some a else none) = some b) :
    a = b := by
  split at h
  · exact Option.some.inj h
  · cases h

lemma buildForcedViewCandidate_leader {hdr : ProposeHdr} {expected : ℤ} {faults : ToleratedFaultState}
    {candidate : OmnetForcedView} (h : buildForcedViewCandidate view hdr expected faults request = some candidate) :
    candidate.primaryOmnet = hdr.leaderId := by
  rw [buildForcedViewCandidate] at h
  split at h
  · split at h
    · rw [← of_ite_some h, candidateView_primary]
    · rw [← of_ite_some h, candidateView_primary]
  · cases h

lemma buildToleratedFaultViewCandidate_leader {hdr : ProposeHdr} {data : Bytes} {expected : ℤ}
    {faults : ToleratedFaultState} {candidate : OmnetForcedView}
    (h : buildToleratedFaultViewCandidate faults hdr data expected request = some candidate) :
    candidate.primaryOmnet = hdr.leaderId := by
  rw [buildToleratedFaultViewCandidate] at h
  rw [← of_ite_some h, candidateView_primary]

lemma buildEpochOrderViewCandidate_leader {hdr : ProposeHdr} {data : Bytes} {expected : ℤ}
    {faults : ToleratedFaultState} {candidate : OmnetForcedView}
    (h : buildEpochOrderViewCandidate faults hdr data expected request = some candidate) :
    candidate.primaryOmnet = hdr.leaderId := by
  rw [buildEpochOrderViewCandidate] at h
  split at h
  · exact absurd h (by simp)
  split at h
  · exact buildToleratedFaultViewCandidate_leader h
  split at h
  · exact absurd h (by simp)
  split at h
  · rw [← of_ite_some h, candidateView_primary]
  · rw [← of_ite_some h, candidateView_primary]

lemma preVerify_cancel_verdict {payload : Bytes} {rest : List Bytes} (hdata : request.data = .batch (payload :: rest))
    (hunwrap : unwrapRollbackIfPresent payload = some view) (hcancel : view.isCancel = true)
    (htype : request.type = .prePrepare ∨ request.type = .newTxns) : Verdict env s request := by
  have hbare : handsOverBare env s request = false := by simp [handsOverBare_eq hdata hunwrap, hcancel]
  have hled : ∀ replicas leader, ledBy replicas s (.preVerify env request) ≠ some leader := fun _ _ h =>
    absurd (ledBy_order hdata hunwrap h).2 (by simp [hcancel])
  have hnot : ¬(request.type ≠ .prePrepare ∧ request.type ≠ .newTxns) := by
    rcases htype with ht | ht <;> simp [ht]
  have hverify : preVerify env s request = preVerifyCancel env s request view := by
    rw [preVerify, if_neg hnot, hdata]
    dsimp only
    rw [preVerifyPayload, hunwrap]
    simp [hcancel]
  rw [preVerifyCancel] at hverify
  split at hverify
  · split at hverify
    · exact .rejected hverify hbare
    next forced hforced =>
      cases hinstall : installView s request forced with
      | none => exact .rejected (by rw [hverify, hinstall]; rfl) hbare
      | some t =>
        obtain ⟨hbuilt, -⟩ := buildCancelViewCandidate_built hforced
        have hpos := (hbuilt.range _ hbuilt.primary).1
        have hid := installView_primaryId hinstall hpos
        exact .installed forced t hinstall hpos (by rw [hverify, hinstall]; rfl) (by rw [hverify, hinstall]; exact hid)
          hbare fun r l h => absurd h (hled r l)
  · exact .rejected hverify hbare

lemma installOrder_verdict {payload : Bytes} {rest : List Bytes} (hdata : request.data = .batch (payload :: rest))
    (hunwrap : unwrapRollbackIfPresent payload = some view) (hcancel : view.isCancel = false)
    (hverify : preVerify env s request = installOrder env s request view)
    (hadm : orderAdmissible env s request payload view = true) : Verdict env s request := by
  have hchecks := hadm
  simp only [orderAdmissible, Bool.and_eq_true] at hchecks
  obtain ⟨⟨⟨-, hrange⟩, hleader⟩, -⟩ := hchecks
  have hpos : 0 ≤ (orderHdr view).leaderId := (inRange_iff.mp hrange).1
  have hled : ∀ replicas leader, ledBy replicas s (.preVerify env request) = some leader →
      leader = (orderHdr view).leaderId := fun _ _ h => (ledBy_order hdata hunwrap h).1
  rw [installOrder] at hverify
  split at hverify
  next hroll =>
    have hbare : handsOverBare env s request = false := by simp [handsOverBare_eq hdata hunwrap, hroll]
    split at hverify
    next => exact .rejected hverify hbare
    next forced hforced =>
      have hprimary : forced.primaryOmnet = (orderHdr view).leaderId := buildForcedViewCandidate_leader hforced
      cases hinstall : installView s request forced with
      | none => exact .rejected (by rw [hverify, hinstall]; rfl) hbare
      | some t =>
        have hverify' : preVerify env s request = (true, t) := by rw [hverify, hinstall]; rfl
        exact .installed forced t hinstall (hprimary ▸ hpos) (by rw [hverify'])
          (by rw [hverify']; exact installView_primaryId hinstall (hprimary ▸ hpos)) hbare
          fun r l h => (hled r l h).trans hprimary.symm
  next hroll =>
    have hnormal : view.isRollback = false := by simpa using hroll
    cases hactive : epochView env view request with
    | some active =>
      have hbare : handsOverBare env s request = false := by simp [handsOverBare_eq hdata hunwrap, hactive]
      have hprimary : active.primaryOmnet = (orderHdr view).leaderId := by
        rw [epochView, hnormal] at hactive
        exact buildEpochOrderViewCandidate_leader hactive
      rw [hactive] at hverify
      dsimp only at hverify
      cases hinstall : installView s request active with
      | none => exact .rejected (by rw [hverify, hinstall]; rfl) hbare
      | some t =>
        have hid := installView_primaryId hinstall (hprimary ▸ hpos)
        rw [hinstall] at hverify
        refine .installed active t hinstall (hprimary ▸ hpos) ?_ ?_ hbare fun r l h => (hled r l h).trans hprimary.symm
        · rw [hverify]
          dsimp only [Option.map_some, orDrop]
          split <;> [exact handOver_registry ..; rfl]
        · rw [hverify]
          dsimp only [Option.map_some, orDrop]
          split
          · rw [hprimary] at hid ⊢
            exact handOver_primary hid
          · exact hid
    | none =>
      rw [hactive] at hverify
      dsimp only at hverify
      have hok := (Bool.or_eq_true_iff.mp hleader).resolve_left hroll
      simp only [normalLeaderOk, Bool.and_eq_true, Bool.or_eq_true] at hok
      have hbare : handsOverBare env s request = (decide (request.type = .prePrepare) &&
          (leaderIsCertPrimary env.expected (orderHdr view) (orderEntries view) &&
            !leaderIsPbftPrimary env.expected s.info (orderHdr view) (orderEntries view))) := by
        simp [handsOverBare_eq hdata hunwrap, hcancel, hadm, hnormal, hactive]
      by_cases htype : request.type = .prePrepare
      · rw [if_pos htype] at hverify
        cases hhand : leaderIsCertPrimary env.expected (orderHdr view) (orderEntries view) &&
            !leaderIsPbftPrimary env.expected s.info (orderHdr view) (orderEntries view) with
        | true =>
          have hhandOver : handOver env s s request (orderHdr view) (orderEntries view) =
              { s with info := s.info.setPrimary ((orderHdr view).leaderId + 1) request.currentView } := if_pos hhand
          refine .bare (orderHdr view).leaderId hpos ?_ (by rw [hverify]; exact hhandOver) (by simp [hbare, htype, hhand])
            fun replicas => ?_
          · simp only [leaderIsCertPrimary, leaderIsPbftPrimary, Bool.and_eq_true, Bool.not_eq_true', decide_eq_true_eq] at hhand
            obtain ⟨⟨-, hsigned⟩, hnot⟩ := hhand
            rw [hsigned, Bool.and_true, decide_eq_false_iff_not] at hnot
            exact hnot
          · rw [ledBy, hverify, orderView, hdata, BatchData.checkedPayload, Option.bind_some, hunwrap]
            simp [htype, hcancel]
        | false =>
          have hsame : preVerify env s request = (true, s) := by
            rw [hverify]
            exact congrArg (Prod.mk true) (if_neg (by rw [Bool.not_eq_true]; exact hhand))
          refine .kept (by rw [hsame]) (by rw [hbare, hhand, Bool.and_false]) fun r l h => ?_
          rw [hled r l h]
          have hpbft : leaderIsPbftPrimary env.expected s.info (orderHdr view) (orderEntries view) = true := by
            rcases hok.2 with hcert | hpbft
            · change leaderIsCertPrimary env.expected (orderHdr view) (orderEntries view) = true at hcert
              simpa [hcert] using hhand
            · exact hpbft
          exact of_decide_eq_true (Bool.and_eq_true_iff.mp hpbft).1
      · rw [if_neg htype] at hverify
        exact .kept (by rw [hverify]) (by simp [hbare, htype]) fun r l h => absurd h (by simp [ledBy, htype])

lemma preVerify_verdict (env : BridgeEnv) (s : ConsensusState) (request : Request) : Verdict env s request := by
  by_cases hother : request.type ≠ .prePrepare ∧ request.type ≠ .newTxns
  · have hbare : handsOverBare env s request = false := by simp [handsOverBare, hother.1]
    exact .kept (by rw [preVerify, if_pos hother]) hbare fun r l h => absurd h (by simp [ledBy, hother.1])
  have htype : request.type = .prePrepare ∨ request.type = .newTxns := by
    rw [not_and_or, not_not, not_not] at hother
    exact hother
  cases hdata : request.data with
  | malformed raw parsed =>
    refine .rejected (by rw [preVerify, if_neg hother, hdata]) ?_
    rw [handsOverBare, hdata, BatchData.checkedPayload, Option.any_none, Bool.and_false]
    all_goals simp
  | batch payloads =>
    cases payloads with
    | nil =>
      refine .rejected (by rw [preVerify, if_neg hother, hdata]) ?_
      rw [handsOverBare, hdata, BatchData.checkedPayload, Option.any_none, Bool.and_false]
      all_goals simp
    | cons payload rest =>
      cases hunwrap : unwrapRollbackIfPresent payload with
      | none =>
        refine .rejected ?_ (by simp [handsOverBare, hdata, BatchData.checkedPayload, hunwrap])
        rw [preVerify, if_neg hother, hdata]
        dsimp only
        rw [preVerifyPayload, hunwrap]
      | some view =>
        cases hcancel : view.isCancel with
        | true => exact preVerify_cancel_verdict hdata hunwrap hcancel htype
        | false =>
          have hverify : preVerify env s request =
              if orderAdmissible env s request payload view then installOrder env s request view else (false, s) :=
            preVerify_order hdata hunwrap htype hcancel
          cases hadm : orderAdmissible env s request payload view with
          | true =>
            rw [hadm, if_pos rfl] at hverify
            exact installOrder_verdict hdata hunwrap hcancel hverify hadm
          | false =>
            rw [hadm, if_neg (by simp)] at hverify
            exact .rejected hverify (by simp [handsOverBare_eq hdata hunwrap, hadm])

lemma newPrimary_pos (replicas viewNumber : ℕ) : 0 ≤ newPrimary replicas viewNumber - 1 := by
  rw [newPrimary, add_sub_cancel_right]
  exact Nat.cast_nonneg _

lemma setPrimary_agrees (hagree : Agree s) (primary : ℤ) (version : ℕ) :
    OpAgrees replicas s (.setPrimary primary version) ↔ keepsPrimary replicas s (.setPrimary primary version) = true := by
  by_cases hview : s.info.currentView < version
  · simp only [keepsPrimary, not_le.mpr hview, decide_false, Bool.false_or, Bool.and_eq_true, decide_eq_true_eq]
    have hid : (primaryStep replicas s (.setPrimary primary version)).info.primaryId = primary := by
      rw [primaryStep, SystemInfo.setPrimary, if_pos hview]
    by_cases hpos : 0 < primary
    · have hmoved : OpAgrees replicas s (.setPrimary primary version) ↔ follows s (primary - 1) = true :=
        moved_agrees rfl (by rw [hid, sub_add_cancel]) (by omega) fun _ h => absurd h (by simp [ledBy])
      rw [hmoved, and_iff_right hpos]
    · refine iff_of_false (fun h => ?_) fun h => hpos h.1
      have hengine := (agree_iff.mp h.agree).1
      rw [enginePrimary_nonneg, hid] at hengine
      exact hpos hengine
  · have hstep : primaryStep replicas s (.setPrimary primary version) = s := by
      rw [primaryStep, SystemInfo.setPrimary, if_neg hview]
    exact iff_of_true (still_agrees hagree hstep rfl) (by simp [keepsPrimary, not_lt.mp hview])

lemma opAgrees_iff (s : ConsensusState) (op : PrimaryOp) (hagree : Agree s) :
    OpAgrees replicas s op ↔ keepsPrimary replicas s op = true := by
  cases op with
  | preVerify env request => exact (preVerify_verdict env s request).agrees hagree
  | findForRequest request => exact findForRequest_agrees hagree request
  | setPrimary primary version => exact setPrimary_agrees hagree primary version
  | installForRequest request view =>
    refine iff_of_true ⟨?_, fun _ h => absurd h (by simp [ledBy])⟩ rfl
    rw [primaryStep]
    cases hinstall : s.installOmnetForcedViewForRequest request view with
    | none => exact hagree
    | some t => exact (installForRequest_agree hagree hinstall).1
  | installPending view =>
    refine iff_of_true ⟨?_, fun _ h => absurd h (by simp [ledBy])⟩ rfl
    rw [primaryStep]
    cases hinstall : s.installOmnetPendingForcedView view with
    | none => exact hagree
    | some t => exact (installPending_agree hagree hinstall).1
  | promotePrimaryFromCert primaryOmnet =>
    cases hpromotes : promotes replicas primaryOmnet with
    | false =>
      refine iff_of_true (still_agrees hagree ?_ ?_) (by simp [keepsPrimary, hpromotes])
      · simp [primaryStep, hpromotes]
      · simp [ledBy, hpromotes]
    | true =>
      have hpos : 0 ≤ primaryOmnet := of_decide_eq_true (Bool.and_eq_true_iff.mp hpromotes).1
      simp only [keepsPrimary, hpromotes, Bool.not_true, Bool.false_or]
      refine moved_agrees (by simp [primaryStep, hpromotes]) (by simp [primaryStep, hpromotes]) hpos fun leader h => ?_
      simpa [ledBy, hpromotes, eq_comm] using h
  | newView viewNumber =>
    refine iff_of_true ?_ rfl
    cases hany : s.registry.hasAny with
    | true => exact still_agrees hagree (by simp [primaryStep, hany]) rfl
    | false =>
      have hnone : s.registry.latest = none := by simpa [Registry.hasAny] using hany
      refine (moved_agrees (p := newPrimary replicas viewNumber - 1) ?_ ?_ (newPrimary_pos ..) ?_).mpr ?_
      · simp [primaryStep, hany, setCurrentViewAndNewPrimary]
      · simp [primaryStep, hany, setCurrentViewAndNewPrimary]
      · exact fun _ h => absurd h (by simp [ledBy])
      · simp [follows, forcedPrimary, hnone]
  | recoverView viewNumber =>
    exact moved_agrees (p := newPrimary replicas viewNumber - 1) rfl (by simp [primaryStep, setCurrentViewAndNewPrimary])
      (newPrimary_pos ..) fun _ h => absurd h (by simp [ledBy])
  | checkSysStatus primary view =>
    cases hmoves : movesView s primary view with
    | false =>
      exact iff_of_true (still_agrees hagree (by simp [primaryStep, hmoves]) rfl) (by simp [keepsPrimary, hmoves])
    | true =>
      have hpos : 0 < primary := by
        simp only [movesView, Bool.and_eq_true, decide_eq_true_eq] at hmoves
        exact hmoves.1.1
      simp only [keepsPrimary, hmoves, Bool.not_true, Bool.false_or]
      refine moved_agrees (by simp [primaryStep, hmoves]) ?_ (by omega) fun _ h => absurd h (by simp [ledBy])
      simp [primaryStep, hmoves]

def startState (primaryOmnet : ℕ) : ConsensusState := ⟨.empty, ⟨primaryOmnet + 1, 1⟩⟩

lemma startState_agree (primaryOmnet : ℕ) : Agree (startState primaryOmnet) :=
  agree_iff.mpr ⟨by rw [enginePrimary_of_succ rfl (Nat.cast_nonneg _)]; exact Nat.cast_nonneg _, rfl⟩

abbrev PrimaryAgreement (replicas primaryOmnet : ℕ) (ops : List PrimaryOp) : Prop :=
  Guarded (primaryStep replicas) (OpAgrees replicas) (startState primaryOmnet) ops

theorem primaryAgreement_iff (replicas primaryOmnet : ℕ) (ops : List PrimaryOp) :
    PrimaryAgreement replicas primaryOmnet ops ↔
      Guarded (primaryStep replicas) (fun s op => keepsPrimary replicas s op = true) (startState primaryOmnet) ops :=
  guarded_congr opAgrees_iff (fun _ _ _ h => h.agree) (startState_agree primaryOmnet)

-- the certified primary of the next epoch is promoted while the last ORDER's view still names its own
theorem promotion_unreported :
    ¬PrimaryAgreement 8 0 [.preVerify eightCarEnv (listingRequest 0 [0, 1, 2, 3]), .promotePrimaryFromCert 1] := by
  rintro ⟨-, hpromote, -⟩
  have hled := (hpromote.led 1 (by decide +kernel)).1
  have hreported : resdbOmnetGetPrimary (primaryStep 8 (primaryStep 8 (startState 0)
      (.preVerify eightCarEnv (listingRequest 0 [0, 1, 2, 3]))) (.promotePrimaryFromCert 1)) = 0 := by decide +kernel
  exact absurd (hreported.symm.trans hled) (by decide)

end V2vBft.Bridge
