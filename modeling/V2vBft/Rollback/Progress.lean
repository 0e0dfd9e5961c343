import V2vBft.Rollback.OrderEvidence

/-! The course of a pending CANCEL: which steps leave it without a timer that would propose it. -/

namespace V2vBft.Rollback

open Wire App Arrival Library.GuardedRun

variable {cfg : RollbackConfig} {s : RollbackState}

def CancelProgress (s : RollbackState) : Prop :=
  s.app.cancelConsensusPending = true →
    s.cancelState = .draining ∧ s.cancelDrainTimer = true ∨ s.cancelState = .consensus ∧ s.cancelVcTimer = true

def offered (cfg : RollbackConfig) (s : RollbackState) : RollbackEvent → List CancelCert
  | .cancelCert _ payload _ =>
    if cfg.enableRollback then (deserializeCancelCert payload).toList.filter fun cert => decide (cert.reasonRef ≠ [])
    else []
  | .cancelCertFormed cert _ _ => [cert]
  | .clearancePoll formed _ _ => if s.app.pollScheduled && cfg.enableRollback then formed.map Prod.fst else []
  | _ => []

-- no CANCEL is justified while the one before is committed and unanswered
def keepsProgress (cfg : RollbackConfig) (s : RollbackState) (ev : RollbackEvent) : Bool :=
  !(decide (s.cancelState = .committed) && (offered cfg s ev).any (justifies cfg s))

structure Course where
  pending : Bool
  state : CancelState
  draining : Bool
  leased : Bool
  submitted : Bool
  recovering : Bool

def RollbackState.course (s : RollbackState) : Course where
  pending := s.app.cancelConsensusPending
  state := s.cancelState
  draining := s.cancelDrainTimer
  leased := s.cancelVcTimer
  submitted := s.cancelProposeSubmitted
  recovering := s.app.cancelPending

def Course.justified (c : Course) : Course :=
  match c.state with
  | .inactive | .witnessing => { c with pending := true, state := .draining, draining := true, submitted := false }
  | .draining | .consensus | .committed => { c with pending := true, submitted := false }

structure Course.Sound (c : Course) : Prop where
  progress : c.pending = true → c.state = .draining ∧ c.draining = true ∨ c.state = .consensus ∧ c.leased = true
  pending : c.state = .draining ∨ c.state = .consensus → c.pending = true
  unsubmitted : c.state = .draining → c.submitted = false
  recovering : c.recovering = true → c.state = .committed

structure Course.Tried (c c' : Course) : Prop where
  pending : c'.pending = c.pending
  state : c'.state = c.state
  draining : c'.draining = c.draining
  leased : c'.leased = (c.leased || (decide (c.state = .consensus) && c.pending && !c.submitted))
  submitted : c'.submitted = true → c.submitted = true ∨ c.state = .consensus
  recovering : c'.recovering = c.recovering

variable {c c' : Course}

lemma Course.Sound.committed (h : c.Sound) (hcommitted : c.state = .committed) : c.pending = false := by
  by_contra hpending
  rcases h.progress (Bool.of_not_eq_false hpending) with ⟨hstate, -⟩ | ⟨hstate, -⟩ <;> simp [hcommitted] at hstate

lemma Course.Sound.idle (h : c.Sound) (hidle : c.state = .inactive) : c.pending = false := by
  by_contra hpending
  rcases h.progress (Bool.of_not_eq_false hpending) with ⟨hstate, -⟩ | ⟨hstate, -⟩ <;> simp [hidle] at hstate

lemma Course.Sound.justified (h : c.Sound) (hopen : c.state ≠ .committed) : c.justified.Sound := by
  have hrecovering : c.recovering = true → c.justified.state = .committed := fun hrec => absurd (h.recovering hrec) hopen
  obtain ⟨pending, state, draining, leased, submitted, recovering⟩ := c
  cases state with
  | inactive | witnessing => exact ⟨fun _ => Or.inl ⟨rfl, rfl⟩, fun _ => rfl, fun _ => rfl, hrecovering⟩
  | draining | consensus => exact ⟨fun _ => h.progress (h.pending (by simp)), fun _ => rfl, fun _ => rfl, hrecovering⟩
  | committed => exact absurd rfl hopen

lemma Course.justified_open (hopen : c.state ≠ .committed) : c.justified.state ≠ .committed := by
  obtain ⟨pending, state, draining, leased, submitted, recovering⟩ := c
  cases state <;> simp_all [Course.justified]

lemma Course.Sound.settled (leased recovering : Bool) :
    Course.Sound ⟨false, .committed, false, leased, false, recovering⟩ where
  progress := by simp
  pending := by simp
  unsubmitted := by simp
  recovering := fun _ => rfl

lemma Course.Sound.resting (hpending : c.pending = false) (hrecovering : c.recovering = false)
    (hdraining : c.state ≠ .draining) (hconsensus : c.state ≠ .consensus) : c.Sound where
  progress := by simp [hpending]
  pending := fun hor => (hor.elim hdraining hconsensus).elim
  unsubmitted := fun hstate => absurd hstate hdraining
  recovering := by simp [hrecovering]

lemma Course.Sound.drained (h : c.Sound)
    (htried : Course.Tried { c with draining := false, state := .consensus } c') (hpending : c.pending = true)
    (hdraining : c.state = .draining) : c'.Sound where
  progress := by
    intro _
    refine Or.inr ⟨htried.state, ?_⟩
    rw [htried.leased]
    simp [hpending, h.unsubmitted hdraining]
  pending := fun _ => htried.pending.trans hpending
  unsubmitted := fun hstate => by simp [htried.state] at hstate
  recovering := by
    intro hrec
    rw [htried.recovering] at hrec
    simp [h.recovering hrec] at hdraining

lemma Course.Sound.undrained (h : c.Sound) (hother : c.pending = false ∨ c.state ≠ .draining) :
    Course.Sound { c with draining := false } where
  progress := by
    intro hpending
    have hstate : c.state ≠ .draining := hother.resolve_left (by simp [show c.pending = true from hpending])
    exact (h.progress hpending).imp (fun hdraining => absurd hdraining.1 hstate) id
  pending := h.pending
  unsubmitted := h.unsubmitted
  recovering := h.recovering

lemma Course.Sound.rotated (h : c.Sound) (htried : Course.Tried { c with leased := false, submitted := false } c') :
    c'.Sound where
  progress := by
    intro hpending
    rw [htried.pending] at hpending
    rw [htried.state, htried.draining, htried.leased]
    refine (h.progress hpending).imp id fun hconsensus => ⟨hconsensus.1, ?_⟩
    simp [hconsensus.1, show c.pending = true from hpending]
  pending := by
    rw [htried.state, htried.pending]
    exact h.pending
  unsubmitted := by
    intro hdraining
    by_contra hsubmitted
    rw [htried.state] at hdraining
    rcases htried.submitted (Bool.of_not_eq_false hsubmitted) with hold | hconsensus
    · simp at hold
    · simp [show c.state = .draining from hdraining] at hconsensus
  recovering := by
    rw [htried.recovering, htried.state]
    exact h.recovering

lemma proposeCancel_course (s : RollbackState) :
    (proposeCancel cfg s).course = s.course ∨ (proposeCancel cfg s).course = { s.course with submitted := true } := by
  rw [proposeCancel]
  repeat' split
  · exact Or.inl rfl
  · exact Or.inl rfl
  · exact Or.inr rfl

lemma Course.Tried.skipped (h : c.state ≠ .consensus ∨ c.pending = false ∨ c.submitted = true) : c.Tried c where
  pending := rfl
  state := rfl
  draining := rfl
  leased := by rcases h with h | h | h <;> simp [h]
  submitted := Or.inl
  recovering := rfl

lemma Course.Tried.leasing (hstate : c.state = .consensus) (hpending : c.pending = true) (hopen : c.submitted = false)
    (hsame : c' = { c with leased := true } ∨ c' = { c with leased := true, submitted := true }) : c.Tried c' where
  pending := by rcases hsame with rfl | rfl <;> rfl
  state := by rcases hsame with rfl | rfl <;> rfl
  draining := by rcases hsame with rfl | rfl <;> rfl
  leased := by
    simp only [hstate, hpending, hopen]
    rcases hsame with rfl | rfl <;> simp
  submitted := fun _ => Or.inr hstate
  recovering := by rcases hsame with rfl | rfl <;> rfl

lemma trySubmitCancelProposal_tried (hfailover : cfg.enableCancelLeaderFailover = true) (s : RollbackState) :
    s.course.Tried (trySubmitCancelProposal cfg s).course := by
  have hproposer : (if s.cancelLeaderCandidates = [] then s
      else { s with cancelPrimary := chooseCancelProposer s }).course = s.course := by
    split <;> rfl
  rw [trySubmitCancelProposal, ← hproposer]
  dsimp only
  generalize (if s.cancelLeaderCandidates = [] then s else { s with cancelPrimary := chooseCancelProposer s }) = u
  split
  next hstate => exact .skipped (Or.inl hstate)
  next hstate =>
    have hconsensus : u.cancelState = .consensus := not_not.mp hstate
    split
    next hclosed =>
      rw [Bool.or_eq_true, Bool.not_eq_true'] at hclosed
      exact .skipped (Or.inr hclosed)
    next hopen =>
      rw [Bool.or_eq_true, not_or, Bool.not_eq_true', Bool.not_eq_false, Bool.not_eq_true] at hopen
      rw [hfailover, Bool.or_true]
      split
      · exact .leasing hconsensus hopen.1 hopen.2 (Or.inl rfl)
      · exact .leasing hconsensus hopen.1 hopen.2 (proposeCancel_course { u with cancelVcTimer := true })

lemma beginCancelDrain_course (s : RollbackState) (sense : Sense) (hpending : s.app.cancelConsensusPending = true)
    (hopen : s.cancelProposeSubmitted = false) : (beginCancelDrain s sense).course = s.course.justified := by
  rw [beginCancelDrain, Course.justified]
  cases hstate : s.cancelState <;> simp [RollbackState.course, hstate, hpending, hopen]

lemma handleValidCancelJustification_course (s : RollbackState) (cert : CancelCert) (justification : Bytes)
    (sense : Sense) :
    (handleValidCancelJustification cfg s cert justification sense).course =
      if acceptsJustification cfg s.app cert.cancelledEpoch then s.course.justified else s.course := by
  rw [handleValidCancelJustification]
  split
  next haccepts =>
    have happ : (App.handleValidCancelJustification cfg.toAppConfig s.app cert.cancelledEpoch
          (s.isRecallable sense)).1.cancelConsensusPending = true ∧
        (App.handleValidCancelJustification cfg.toAppConfig s.app cert.cancelledEpoch
          (s.isRecallable sense)).1.cancelPending = s.app.cancelPending := by
      simp only [acceptsJustification, Bool.and_eq_true, Bool.not_eq_true'] at haccepts
      obtain ⟨⟨henable, hother⟩, hfresh⟩ := haccepts
      simp [App.handleValidCancelJustification, henable, hother, hfresh, AppState.cancelTimers]
    rw [beginCancelDrain_course _ sense happ.1 rfl]
    simp only [Course.justified, RollbackState.course, happ.2]
  next => rfl

lemma broadcastCancelCert_course (s : RollbackState) (cert : CancelCert) (payload : Bytes) (sense : Sense) :
    (broadcastCancelCert cfg s cert payload sense).course =
      if justifies cfg s cert then s.course.justified else s.course := by
  rw [broadcastCancelCert, justifies]
  split
  next hvalid =>
    rw [handleValidCancelJustification_course, scheduleNextCancelCertRetry_eq, registerBlockedIncidentIfCrash_eq, hvalid,
      Bool.true_and]
    rfl
  next hinvalid => rw [Bool.not_eq_true] at hinvalid; simp [hinvalid]

lemma handleCancelCert_course (s : RollbackState) (senderId : ℤ) (payload : Bytes) (sense : Sense) :
    let s' := handleCancelCert cfg s senderId payload sense
    let justified := (offered cfg s (.cancelCert senderId payload sense)).any (justifies cfg s)
    s'.course = s.course.justified ∧ justified = true ∨
      s'.course = s.course ∧ (justified = true → s.app.cancelConsensusPending = true) := by
  dsimp only
  rw [handleCancelCert, offered]
  cases hcert : deserializeCancelCert payload with
  | none => exact Or.inr ⟨rfl, by simp⟩
  | some cert =>
    dsimp only
    split
    next hclosed =>
      refine Or.inr ⟨rfl, fun hjustified => ?_⟩
      rw [Bool.or_eq_true, Bool.not_eq_true', decide_eq_true_eq] at hclosed
      rcases hclosed with hdisabled | href <;> simp_all
    next hopen =>
      rw [Bool.or_eq_true, not_or, Bool.not_eq_true', Bool.not_eq_false, decide_eq_true_eq] at hopen
      rw [if_pos hopen.1, Option.toList_some, List.filter_cons_of_pos (by simpa using hopen.2), List.filter_nil,
        List.any_cons, List.any_nil, Bool.or_false, justifies]
      rw [registerBlockedIncidentIfCrash_eq]
      split
      next hvalid =>
        rw [hvalid, Bool.true_and]
        split
        next =>
          rw [handleValidCancelJustification_course]
          dsimp only
          split
          next haccepts => exact Or.inl ⟨rfl, haccepts⟩
          next hrefuses => exact Or.inr ⟨rfl, fun haccepts => absurd haccepts hrefuses⟩
        next hseen =>
          rw [Bool.or_eq_true, not_or, Bool.not_eq_true', Bool.not_eq_false] at hseen
          exact Or.inr ⟨rfl, fun _ => hseen.2⟩
      next hinvalid => exact Or.inr ⟨rfl, fun hjustified => absurd (Bool.and_eq_true_iff.mp hjustified).1 hinvalid⟩

lemma perceiveCrashes_sound (formed : List (CancelCert × Bytes)) (s : RollbackState) (sense : Sense) (h : s.course.Sound)
    (hok : s.cancelState = .committed → (formed.map Prod.fst).any (justifies cfg s) = false) :
    (perceiveCrashes cfg s formed sense).course.Sound := by
  induction formed generalizing s with
  | nil => exact h
  | cons first formed ih =>
    have hcourse := @broadcastCancelCert_course cfg s first.1 first.2 sense
    by_cases hcommitted : s.cancelState = .committed
    · have hnone := hok hcommitted
      rw [List.map_cons, List.any_cons, Bool.or_eq_false_iff] at hnone
      rw [hnone.1, if_neg (by simp)] at hcourse
      obtain ⟨-, hsame⟩ := broadcastCancelCert_grip hnone.1 first.2 sense
      exact ih _ (hcourse ▸ h) fun _ => hsame ▸ hnone.2
    · have hopen : (broadcastCancelCert cfg s first.1 first.2 sense).cancelState ≠ .committed := by
        have hstate := congrArg Course.state hcourse
        split at hstate
        · exact fun hclosed => Course.justified_open hcommitted (hstate.symm.trans hclosed)
        · exact fun hclosed => hcommitted (hstate.symm.trans hclosed)
      refine ih _ ?_ fun hclosed => absurd hclosed hopen
      rw [hcourse]
      split
      · exact h.justified hcommitted
      · exact h

def Course.Stuck (c : Course) : Prop := c.pending = true ∧ c.state = .committed

lemma Course.justified_stuck (h : c.state = .committed) : c.justified.Stuck := by
  obtain ⟨pending, state, draining, leased, submitted, recovering⟩ := c
  subst h
  exact ⟨rfl, rfl⟩

lemma Course.Stuck.not_sound (h : c.Stuck) : ¬(c.pending = true →
    c.state = .draining ∧ c.draining = true ∨ c.state = .consensus ∧ c.leased = true) := by
  intro hprogress
  rcases hprogress h.1 with ⟨hstate, -⟩ | ⟨hstate, -⟩ <;> simp [h.2] at hstate

lemma perceiveCrashes_stays (formed : List (CancelCert × Bytes)) (s : RollbackState) (sense : Sense)
    (h : s.course.Stuck) : (perceiveCrashes cfg s formed sense).course.Stuck := by
  induction formed generalizing s with
  | nil => exact h
  | cons first formed ih =>
    refine ih _ ?_
    rw [broadcastCancelCert_course]
    split
    · exact Course.justified_stuck h.2
    · exact h

lemma perceiveCrashes_stuck (formed : List (CancelCert × Bytes)) (s : RollbackState) (sense : Sense)
    (hcommitted : s.cancelState = .committed) (h : (formed.map Prod.fst).any (justifies cfg s) = true) :
    (perceiveCrashes cfg s formed sense).course.Stuck := by
  induction formed generalizing s with
  | nil => simp at h
  | cons first formed ih =>
    have hcourse := @broadcastCancelCert_course cfg s first.1 first.2 sense
    cases hfirst : justifies cfg s first.1 with
    | true =>
      rw [hfirst, if_pos rfl] at hcourse
      exact perceiveCrashes_stays formed _ sense (hcourse ▸ Course.justified_stuck hcommitted)
    | false =>
      rw [hfirst, if_neg (by simp)] at hcourse
      obtain ⟨-, hsame⟩ := broadcastCancelCert_grip hfirst first.2 sense
      rw [List.map_cons, List.any_cons, hfirst, Bool.false_or] at h
      exact ih _ ((congrArg Course.state hcourse).trans hcommitted) (hsame ▸ h)

lemma releaseWaiting_cancels (a : AppState) (cleared : List ℤ) (now : ℤ) :
    (releaseWaiting cfg.toAppConfig a cleared now).1.cancelConsensusPending = a.cancelConsensusPending ∧
      (releaseWaiting cfg.toAppConfig a cleared now).1.cancelPending = a.cancelPending := by
  rw [releaseWaiting]
  repeat' split
  all_goals exact ⟨rfl, rfl⟩

lemma clearancePoll_course (s : RollbackState) (formed : List (CancelCert × Bytes)) (cleared : List ℤ) (sense : Sense) :
    (clearancePoll cfg s formed cleared sense).course =
      if s.app.pollScheduled && cfg.enableRollback then
        (perceiveCrashes cfg { s with app := { s.app with pollScheduled := false } } formed sense).course
      else s.course := by
  rw [clearancePoll]
  cases s.app.pollScheduled with
  | false => rfl
  | true =>
    cases cfg.enableRollback with
    | false =>
      simp only [if_true, Bool.true_and, Bool.false_eq_true, if_false, RollbackState.course, releaseWaiting_cancels]
    | true =>
      simp only [if_true, Bool.true_and, RollbackState.course, releaseWaiting_cancels]

lemma armDiscoveryTimers_course (s : RollbackState) : (armDiscoveryTimers s).course = s.course := by
  rw [armDiscoveryTimers_eq]
  rfl

lemma startDiscoveryRound_course (s : RollbackState) (sense : Sense) : (startDiscoveryRound s sense).course = s.course := by
  rw [startDiscoveryRound]
  split
  · rfl
  · dsimp only
    split
    · rw [armDiscoveryTimers_course]
      rfl
    · rfl

lemma beginPostCancelDiscovery_course (s : RollbackState) (e : ℕ) (reason : ℤ) (ref justification : Bytes)
    (sense : Sense) :
    ∃ recovering, (beginPostCancelDiscovery cfg s e reason ref justification sense).course =
      { s.course with recovering := recovering } := by
  rw [beginPostCancelDiscovery]
  split
  next => exact ⟨s.app.cancelPending, rfl⟩
  next hnew =>
    have happ : (App.beginPostCancelDiscovery cfg.toAppConfig s.app e (s.isRecallable sense)).cancelConsensusPending =
        s.app.cancelConsensusPending := by
      rw [App.beginPostCancelDiscovery, if_neg hnew]
      rfl
    refine ⟨(App.beginPostCancelDiscovery cfg.toAppConfig s.app e (s.isRecallable sense)).cancelPending, ?_⟩
    rw [armDiscoveryTimers_course]
    refine (startDiscoveryRound_course _ sense).trans ?_
    simp only [RollbackState.course, RollbackState.resetOrderCandidate, happ]

lemma handleCancelCommitGossip_course (s : RollbackState) (senderId : ℤ) (inner : Bytes) (sense : Sense) :
    (handleCancelCommitGossip cfg s senderId inner sense).course = s.course ∨
      ∃ leased recovering, (handleCancelCommitGossip cfg s senderId inner sense).course =
        ⟨false, .committed, false, leased, false, recovering⟩ := by
  cases hadopt : adoptedAttestation cfg.toAppConfig s.app senderId inner with
  | none =>
    refine Or.inl ?_
    rw [handleCancelCommitGossip, hadopt]
    dsimp only
    rw [recordCancelVote_eq]
    rfl
  | some dec =>
    rw [handleCancelCommitGossip_adopted _ hadopt, settleAdopted_eq]
    obtain ⟨recovering, hcourse⟩ := @beginPostCancelDiscovery_course cfg _ _ _ _ _ sense
    exact Or.inr ⟨s.cancelVcTimer, recovering, hcourse⟩

lemma app_applyOrder_cancels {acfg : AppConfig} (a : AppState) (order : OrderDecision) (now : ℤ) :
    (App.applyOrder acfg a order now).1.cancelConsensusPending = a.cancelConsensusPending ∧
      (App.applyOrder acfg a order now).1.cancelPending =
        (a.cancelPending && !decide (order.epoch = a.rollbackNewEpoch)) := by
  rw [App.applyOrder]
  dsimp only
  split
  · exact ⟨rfl, rfl⟩
  · cases ownBatch acfg order with
    | none => exact ⟨rfl, rfl⟩
    | some batch =>
      dsimp only
      rw [takeSlot]
      dsimp only
      split <;> exact ⟨rfl, rfl⟩

lemma completeRollback_course (s : RollbackState) (order : OrderDecision) :
    (completeRollback s order).course =
      if s.app.cancelPending && decide (order.epoch = s.app.rollbackNewEpoch) then { s.course with state := .inactive }
      else s.course := by
  rw [completeRollback]
  split <;> rfl

lemma applyOrder_course (s : RollbackState) (order : OrderDecision) (clears : List (BlockedIncident × Bytes)) (now : ℤ) :
    (applyOrder cfg s order clears now).course =
      if s.app.cancelPending && decide (order.epoch = s.app.rollbackNewEpoch) then
        { s.course with state := .inactive, recovering := false }
      else s.course := by
  obtain ⟨registry, hfold⟩ : ∃ registry,
      clears.foldl (fun s clear => onIncidentCleared s clear.1 clear.2) s.clearConsensusRetries =
        { s with consensusRetries := [], incidentRegistry := registry } :=
    ⟨_, foldl_onIncidentCleared_eq clears s.clearConsensusRetries⟩
  have hcomplete : (completeRollback { s with consensusRetries := [], incidentRegistry := registry } order).course =
      if s.app.cancelPending && decide (order.epoch = s.app.rollbackNewEpoch) then { s.course with state := .inactive }
      else s.course := completeRollback_course _ order
  have hrest : ∀ (deactivates : Bool) (u : RollbackState) (a : AppState),
      RollbackState.course { (if deactivates then deactivateDiscovery u else u) with app := a } =
        { u.course with pending := a.cancelConsensusPending, recovering := a.cancelPending } := by
    intro deactivates u a
    split <;> rfl
  rw [applyOrder, hfold]
  dsimp only
  rw [hrest, hcomplete, (app_applyOrder_cancels s.app order now).1, (app_applyOrder_cancels s.app order now).2]
  cases hpending : s.app.cancelPending with
  | false => simp [RollbackState.course, hpending]
  | true => cases decide (order.epoch = s.app.rollbackNewEpoch) <;> simp [RollbackState.course, hpending]

lemma processOrder_course (s : RollbackState) (completed : Bool) (clears : List (BlockedIncident × Bytes)) (sense : Sense) :
    (∃ leased recovering, (processOrder cfg s completed clears sense).course =
        ⟨false, .committed, false, leased, false, recovering⟩) ∨
      (s.app.cancelPending = true ∧ (processOrder cfg s completed clears sense).course =
        { s.course with state := .inactive, recovering := false }) ∨
      (processOrder cfg s completed clears sense).course = s.course := by
  rw [processOrder]
  cases s.app.pendingOrders with
  | nil => exact Or.inr (Or.inr rfl)
  | cons dec rest =>
    dsimp only
    split
    next =>
      rw [handleCancelCommitDecision_eq, settleCommitted_eq]
      obtain ⟨recovering, hcourse⟩ := @beginPostCancelDiscovery_course cfg _ _ _ _ _ sense
      exact Or.inl ⟨false, recovering, hcourse⟩
    next =>
      refine Or.inr ?_
      cases admittedOrder { s.app with pendingOrders := rest } dec completed with
      | none => exact Or.inr rfl
      | some order =>
        dsimp only
        rw [applyOrder_course]
        split
        next hcompletes => exact Or.inl ⟨(Bool.and_eq_true_iff.mp hcompletes).1, rfl⟩
        next => exact Or.inr rfl

lemma sendCancelEcho_course (s : RollbackState) (fresh : Bool) :
    (sendCancelEcho cfg s fresh).course = s.course ∨
      s.cancelState = .inactive ∧ (sendCancelEcho cfg s fresh).course = { s.course with state := .witnessing } := by
  rw [sendCancelEcho]
  split
  · exact Or.inl rfl
  · split
    next hidle => exact Or.inr ⟨hidle, rfl⟩
    next => exact Or.inl rfl

lemma Course.Sound.witnessed (h : c.Sound) (hidle : c.state = .inactive) : Course.Sound { c with state := .witnessing } :=
  .resting (h.idle hidle) (Bool.eq_false_of_not_eq_true fun hrec => by simp [h.recovering hrec] at hidle) (by simp)
    (by simp)

lemma sendCancelEcho_sound (h : s.course.Sound) (fresh : Bool) : (sendCancelEcho cfg s fresh).course.Sound := by
  obtain hsame | ⟨hidle, hwitness⟩ := @sendCancelEcho_course cfg s fresh
  · rwa [hsame]
  · rw [hwitness]
    exact h.witnessed hidle

lemma cancelDrainTimer_sound (hfailover : cfg.enableCancelLeaderFailover = true) (h : s.course.Sound) :
    (cancelDrainTimer cfg s).course.Sound := by
  rw [cancelDrainTimer]
  split
  · exact h
  · dsimp only
    split
    next hclosed =>
      rw [Bool.or_eq_true, Bool.not_eq_true', decide_eq_true_eq] at hclosed
      exact h.undrained hclosed
    next hopen =>
      rw [Bool.or_eq_true, not_or, Bool.not_eq_true', Bool.not_eq_false, decide_eq_true_eq, not_not] at hopen
      exact h.drained (trySubmitCancelProposal_tried hfailover
        { s with cancelDrainTimer := false, cancelState := .consensus }) hopen.1 hopen.2

lemma cancelVcTimer_sound (hfailover : cfg.enableCancelLeaderFailover = true) (h : s.course.Sound) :
    (cancelVcTimer cfg s).course.Sound := by
  rw [cancelVcTimer]
  split
  · exact h
  · exact h.rotated (trySubmitCancelProposal_tried hfailover
      { s with
        cancelVcTimer := false
        cancelRotationIndex := s.cancelRotationIndex + 1
        cancelProposeSubmitted := false
        proposeSubmitted := false })

def leavesCourse : RollbackEvent → Bool
  | .cancelCert _ _ _ | .cancelCertFormed _ _ _ | .clearancePoll _ _ _ | .cancelCommitGossip _ _ _ | .processOrder _ _ _
  | .cancelDrainTimer | .cancelVcTimer | .crashSeen _ | .emergencySeen _ _ => false
  | _ => true

lemma rollbackStep_course (s : RollbackState) {ev : RollbackEvent} (hleaves : leavesCourse ev = true) :
    (rollbackStep cfg s ev).course = s.course := by
  cases ev with
  | cancelCert _ _ _ | cancelCertFormed _ _ _ | clearancePoll _ _ _ | cancelCommitGossip _ _ _ | processOrder _ _ _
  | cancelDrainTimer | cancelVcTimer | crashSeen _ | emergencySeen _ _ => simp [leavesCourse] at hleaves
  | decisionGossip senderId inner completed =>
    have happ : (handleDecisionGossip cfg.toAppConfig s.app senderId inner completed).cancelConsensusPending =
          s.app.cancelConsensusPending ∧
        (handleDecisionGossip cfg.toAppConfig s.app senderId inner completed).cancelPending = s.app.cancelPending := by
      rw [handleDecisionGossip, recordOrderVote]
      repeat' split
      all_goals exact ⟨rfl, rfl⟩
    rw [rollbackStep, RollbackState.course, happ.1, happ.2]
    rfl
  | resumeTimer =>
    rw [rollbackStep, App.resumeTimer]
    split
    · dsimp only
      split <;> rfl
    · rfl
  | orderTimeout =>
    rw [rollbackStep, App.orderTimeout]
    split <;> rfl
  | cancelCertRetryTimer =>
    rw [rollbackStep, cancelCertRetryTimer]
    dsimp only
    repeat' split
    all_goals first | rfl | rw [scheduleNextCancelCertRetry_eq]; rfl
  | cancelGossipTimer =>
    rw [rollbackStep, cancelGossipTimer]
    repeat' split
    all_goals rfl
  | orderReadiness engine =>
    rw [rollbackStep, evaluateOrderReadiness]
    split <;> rfl
  | orderDecided _ | disableCrashComms | clearCert _ _ | discovery _ _ _ _ _ | consensus _ _ | viewChange _ _
  | enterStopZone | depart => rfl

lemma keepsProgress_offered {ev : RollbackEvent} (hok : keepsProgress cfg s ev = true)
    (hcommitted : s.cancelState = .committed) : (offered cfg s ev).any (justifies cfg s) = false := by
  simpa [keepsProgress, hcommitted] using hok

lemma rollbackStep_sound (hfailover : cfg.enableCancelLeaderFailover = true) (h : s.course.Sound) {ev : RollbackEvent}
    (hok : keepsProgress cfg s ev = true) : (rollbackStep cfg s ev).course.Sound := by
  by_cases hleaves : leavesCourse ev = true
  · rw [rollbackStep_course s hleaves]
    exact h
  cases ev with
  | cancelCert senderId payload sense =>
    obtain ⟨hcourse, hjustified⟩ | ⟨hcourse, -⟩ := @handleCancelCert_course cfg s senderId payload sense
    · rw [rollbackStep, hcourse]
      refine h.justified fun hcommitted => ?_
      rw [keepsProgress_offered hok hcommitted] at hjustified
      exact absurd hjustified (by simp)
    · rw [rollbackStep, hcourse]
      exact h
  | cancelCertFormed cert payload sense =>
    rw [rollbackStep, broadcastCancelCert_course]
    split
    next hjustified =>
      refine h.justified fun hcommitted => ?_
      have hnone := keepsProgress_offered hok hcommitted
      rw [offered, List.any_cons, List.any_nil, Bool.or_false] at hnone
      exact absurd hjustified (by simp [hnone])
    next => exact h
  | clearancePoll formed cleared sense =>
    rw [rollbackStep, clearancePoll_course]
    split
    next hpoll =>
      refine perceiveCrashes_sound formed _ sense h fun hcommitted => ?_
      have hnone := keepsProgress_offered hok hcommitted
      rwa [offered, if_pos hpoll] at hnone
    next => exact h
  | cancelCommitGossip senderId inner sense =>
    rw [rollbackStep]
    obtain hsame | ⟨leased, recovering, hsettled⟩ := @handleCancelCommitGossip_course cfg s senderId inner sense
    · rwa [hsame]
    · rw [hsettled]
      exact .settled leased recovering
  | processOrder completed clears sense =>
    rw [rollbackStep]
    obtain ⟨leased, recovering, hsettled⟩ | ⟨hrec, hanswered⟩ | hsame :=
      @processOrder_course cfg s completed clears sense
    · rw [hsettled]
      exact .settled leased recovering
    · rw [hanswered]
      exact .resting (h.committed (h.recovering hrec)) rfl (by simp) (by simp)
    · rwa [hsame]
  | cancelDrainTimer => exact cancelDrainTimer_sound hfailover h
  | cancelVcTimer => exact cancelVcTimer_sound hfailover h
  | crashSeen fresh => exact sendCancelEcho_sound h fresh
  | emergencySeen rid fresh =>
    rw [rollbackStep, maybeTriggerEmergencyRollback]
    split
    · exact h
    · split
      · exact h
      · exact sendCancelEcho_sound (s := { s with rollbackCancelInitiated := true }) h fresh
  | _ => exact absurd rfl hleaves

lemma rollbackStep_breaks (h : s.course.Sound) {ev : RollbackEvent} (hbad : keepsProgress cfg s ev = false) :
    ¬CancelProgress (rollbackStep cfg s ev) := by
  rw [keepsProgress, Bool.not_eq_false', Bool.and_eq_true, decide_eq_true_eq] at hbad
  obtain ⟨hcommitted, hjustified⟩ := hbad
  refine Course.Stuck.not_sound (c := (rollbackStep cfg s ev).course) ?_
  cases ev with
  | cancelCert senderId payload sense =>
    obtain ⟨hcourse, -⟩ | ⟨-, hskipped⟩ := @handleCancelCert_course cfg s senderId payload sense
    · rw [rollbackStep, hcourse]
      exact Course.justified_stuck hcommitted
    · have hidle : s.app.cancelConsensusPending = false := h.committed hcommitted
      exact absurd (hskipped hjustified) (by simp [hidle])
  | cancelCertFormed cert payload sense =>
    rw [offered, List.any_cons, List.any_nil, Bool.or_false] at hjustified
    rw [rollbackStep, broadcastCancelCert_course, if_pos hjustified]
    exact Course.justified_stuck hcommitted
  | clearancePoll formed cleared sense =>
    rw [offered] at hjustified
    rw [rollbackStep, clearancePoll_course]
    split
    next hpoll =>
      rw [if_pos hpoll] at hjustified
      exact perceiveCrashes_stuck formed _ sense hcommitted hjustified
    next hidle =>
      rw [if_neg hidle] at hjustified
      simp at hjustified
  | _ => simp [offered] at hjustified

lemma course_initial : RollbackState.initial.course.Sound :=
  .resting rfl rfl (by simp [RollbackState.course, RollbackState.initial])
    (by simp [RollbackState.course, RollbackState.initial])

theorem cancelProgress_iff (cfg : RollbackConfig) (hfailover : cfg.enableCancelLeaderFailover = true)
    (events : List RollbackEvent) :
    (∀ pre post, events = pre ++ post → CancelProgress (run (rollbackStep cfg) .initial pre)) ↔
      Guarded (rollbackStep cfg) (fun s ev => keepsProgress cfg s ev = true) .initial events := by
  have hiff : ∀ s ev, s.course.Sound → (keepsProgress cfg s ev = true ↔ CancelProgress (rollbackStep cfg s ev)) := by
    intro s ev hsound
    refine ⟨fun hok => (rollbackStep_sound hfailover hsound hok).progress, fun hprogress => ?_⟩
    by_contra hbad
    exact rollbackStep_breaks hsound (Bool.not_eq_true _ ▸ hbad) hprogress
  have hstep : ∀ s ev, s.course.Sound → keepsProgress cfg s ev = true → (rollbackStep cfg s ev).course.Sound :=
    fun s ev hsound hok => rollbackStep_sound hfailover hsound hok
  have hinitial : CancelProgress .initial := course_initial.progress
  rw [forall_prefix_iff, and_iff_right hinitial, guarded_congr hiff hstep course_initial]

def nextCancel : RollbackEvent := .cancelCert 0 (crashCertBytes "1") (stopped 11)

theorem cancelProgress_iff_recovered :
    fourRollbackCars.enableCancelLeaderFailover = true ∧
      ∀ pre post, recovered ++ [nextCancel, .cancelDrainTimer, .cancelVcTimer] = pre ++ post →
        CancelProgress (run (rollbackStep fourRollbackCars) .initial pre) :=
  ⟨rfl, (cancelProgress_iff fourRollbackCars rfl
    (recovered ++ [nextCancel, .cancelDrainTimer, .cancelVcTimer])).mpr (by decide +kernel)⟩

def cancelCommitted : List RollbackEvent :=
  [.orderDecided (orderDecisionBytes 0 [(0, 0), (1, 0), (2, 1), (3, 1)]), .processOrder false [] (stopped 5),
    .orderDecided (crashCancelBytes 0), .processOrder false [] (stopped 6)]

theorem secondCancel_without_timer :
    (∃ pre post, cancelCommitted ++ [nextCancel] = pre ++ post ∧ ¬CancelProgress (rollbackRun pre)) ∧
      (rollbackRun (cancelCommitted ++ [nextCancel])).app.cancelConsensusPending = true ∧
      (rollbackRun (cancelCommitted ++ [nextCancel])).cancelDrainTimer = false ∧
      (rollbackRun (cancelCommitted ++ [nextCancel])).cancelVcTimer = false := by
  have hstuck : (rollbackRun (cancelCommitted ++ [nextCancel])).app.cancelConsensusPending = true ∧
      (rollbackRun (cancelCommitted ++ [nextCancel])).cancelDrainTimer = false ∧
      (rollbackRun (cancelCommitted ++ [nextCancel])).cancelVcTimer = false := by decide +kernel
  refine ⟨⟨cancelCommitted ++ [nextCancel], [], (List.append_nil _).symm, fun hprogress => ?_⟩, hstuck⟩
  obtain ⟨-, hdrain⟩ | ⟨-, hlease⟩ := hprogress hstuck.1
  · simp [hstuck.2.1] at hdrain
  · simp [hstuck.2.2] at hlease

end V2vBft.Rollback
