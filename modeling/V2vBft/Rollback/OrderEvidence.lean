import V2vBft.Rollback.Incidents

/-! What a recovery ORDER is built from: a candidate frozen at its first evaluation, over whole runs of the proposer. -/

namespace V2vBft.Rollback

open Wire App Arrival Library.GuardedRun

variable {cfg : RollbackConfig} {s s' : RollbackState} {registry : IncidentRegistry} {c : OrderCandidate}

def prevEpoch (epoch : ℕ) : ℕ := (epoch + uint32Modulus - 1) % uint32Modulus

structure AmbulanceCars where
  certified : List Bytes
  observed : List Bytes

def RollbackState.rollbackOrderEpoch (s : RollbackState) : Bool :=
  s.app.cancelPending && decide (s.discovery.state = .complete) && decide (s.app.currentEpoch = s.app.rollbackNewEpoch)

def packsCar (cfg : RollbackConfig) (s : RollbackState) (ambulances : List Bytes) (carId : Bytes) : Bool :=
  let rid := extractReplicaId carId
  if s.rollbackOrderEpoch then shouldIncludeInRollbackMembership cfg s rid
  else decide (0 ≤ rid) && (decide (rid < cfg.totalVehicles) || decide (carId ∈ ambulances))

def packedIds (cfg : RollbackConfig) (s : RollbackState) (stores : DiscoveryStores) (cars : AmbulanceCars) : List ℤ :=
  let signed := (stores.collectedCerts.filter fun carId =>
    packsCar cfg s cars.certified carId && decide (carId ∈ stores.collectedDistanceCerts)).map extractReplicaId
  let observed := (stores.localVehicleStates.filter (packsCar cfg s cars.observed)).map extractReplicaId
  signed ++ observed.filter fun rid => decide (rid ∉ signed)

def currentOrderPrimary (s : RollbackState) (engine : EngineAnswer) (candidate : OrderCandidate) : ℤ :=
  if s.orderVcAuthoritative then engine.primary else candidate.initialPrimary

-- some: the candidate whose ORDER is handed to the engine; a missing candidate was frozen by the caller just before
def proposeAll (cfg : RollbackConfig) (s : RollbackState) (engine : EngineAnswer) (cars : AmbulanceCars) :
    RollbackState × Option OrderCandidate :=
  if s.app.cancelConsensusPending then (trySubmitCancelProposal cfg s, none)
  else if s.app.cancelPending && !s.rollbackOrderEpoch then (s, none)
  else if s.rollbackCancelInitiated && !s.rollbackOrderEpoch then (s, none)
  else if s.proposeSubmitted || decide (s.discovery.state ≠ .complete) then (s, none)
  else
    match s.orderCandidate with
    | none => (s, none)
    | some candidate =>
      let orderPrimary := currentOrderPrimary s engine candidate
      if candidate.epoch ≠ s.app.currentEpoch then (s, none)
      else if orderPrimary < 0 ∨ orderPrimary ≠ cfg.replicaId then (s, none)
      else if !s.orderVcAuthoritative && !engine.installed then (s, none)
      else if packedIds cfg s candidate.stores cars = [] then (s, none)
      else ({ s with proposeSubmitted := true }, some candidate)

def evaluateAndPropose (cfg : RollbackConfig) (s : RollbackState) (engine : EngineAnswer) (cars : AmbulanceCars) :
    RollbackState × Option OrderCandidate :=
  let (s, outcome) := evaluateOrderReadiness cfg s engine
  match outcome with
  | .ready primary => if primary = cfg.replicaId then proposeAll cfg s engine cars else (s, none)
  | _ => (s, none)

def submitted (cfg : RollbackConfig) (s : RollbackState) (engine : EngineAnswer) (cars : AmbulanceCars) :
    Option OrderCandidate := (evaluateAndPropose cfg s engine cars).2

-- a round that collects again drops the candidate: startDiscoveryRound and noteDiscoveryIntent
def reopens (s : RollbackState) (round : DiscoveryRound) : Bool :=
  decide (s.discovery.state ≠ .collecting) && decide (round.state = .collecting)

def discoveryStep (s : RollbackState) (round : DiscoveryRound) (stores : DiscoveryStores)
    (deadline settle announcement : Bool) : RollbackState :=
  let s := if reopens s round then s.resetOrderCandidate else s
  { s with
    discovery := round
    stores := stores
    discoveryDeadline := deadline
    discoverySettle := settle
    announcementTimer := announcement }

def movesCandidate : EvidenceEvent → Bool
  | .rollback (.orderReadiness _) _ => true
  | .rollback (.discovery _ _ _ _ _) _ => true
  | _ => false

inductive OrderEvent
  | evidence (ev : EvidenceEvent) (other : movesCandidate ev = false)
  | discovery (round : DiscoveryRound) (stores : DiscoveryStores) (deadline settle announcement : Bool)
  | orderReadiness (engine : EngineAnswer) (cars : AmbulanceCars)

def orderStep (cfg : RollbackConfig) (s : RollbackState) : OrderEvent → RollbackState
  | .evidence ev _ => evidenceStep cfg s ev
  | .discovery round stores deadline settle announcement => discoveryStep s round stores deadline settle announcement
  | .orderReadiness engine cars => (evaluateAndPropose cfg s engine cars).1

def IsClearCert (incident : BlockedIncident) (clearCertBytes : Bytes) : Prop :=
  ∃ cert, clearedIncident cert = incident ∧
    (deserializeClearCert clearCertBytes = some cert ∨ serializeClearCert cert = clearCertBytes)

structure EvidenceComplete (cfg : RollbackConfig) (s : RollbackState) (engine : EngineAnswer) (cars : AmbulanceCars) :
    Prop where
  clears : ∀ c, submitted cfg s engine cars = some c → s.recovery = true → ∀ entry ∈ s.incidentRegistry,
    entry.1.cancelledEpoch = prevEpoch c.epoch →
      entry.2.clearCertBytes ∈ c.clearCerts ∧ IsClearCert entry.1 entry.2.clearCertBytes
  membership : (evaluateOrderReadiness cfg s engine).2 = .blocked .membershipTooSmall →
    ((voterIds cfg s).length : ℤ) < minRollbackMembershipSize cfg s

def frozen (s : RollbackState) : Option OrderCandidate :=
  s.orderCandidate.filter fun c => decide (c.epoch = s.app.currentEpoch) && s.recovery && !s.departed

def registersLate (s : RollbackState) : Evidence → Bool
  | .blocked incident =>
    decide (incident.cancelledEpoch = s.app.cancelledEpoch) && decide (incident ∉ s.incidentRegistry.map Prod.fst)
  | .clear _ _ => false

def broughtCerts : EvidenceEvent → List CancelCert
  | .rollback (.cancelCert _ payload _) _ => (deserializeCancelCert payload).toList
  | .rollback (.cancelCertFormed cert _ _) _ => [cert]
  | .rollback (.clearancePoll formed _ _) _ => formed.map Prod.fst
  | _ => []

def justifies (cfg : RollbackConfig) (s : RollbackState) (cert : CancelCert) : Bool :=
  validateCancelCert (s.app.witnessContext cfg.toAppConfig) cert && acceptsJustification cfg s.app cert.cancelledEpoch

def tooSmall (cfg : RollbackConfig) (s : RollbackState) (voters : List ℤ) : Bool :=
  decide ((voters.length : ℤ) < minRollbackMembershipSize cfg s)

-- no incident of the cancelled epoch is learnt of behind a frozen candidate, no other CANCEL is justified during the
-- recovery, and no certificate completes the membership that a frozen candidate falls short of
def timely (cfg : RollbackConfig) (s : RollbackState) : OrderEvent → Bool
  | .evidence ev _ =>
    !((frozen s).isSome && (evidence cfg s ev).any (registersLate s)) &&
      !(s.recovery && (broughtCerts ev).any (justifies cfg s))
  | .discovery round stores _ _ _ =>
    reopens s round ||
      (frozen s).all fun c => !tooSmall cfg s c.voterIds || tooSmall cfg s (voterIds cfg { s with stores := stores })
  | .orderReadiness _ _ => true

def EachClear (P : BlockedIncident → Bytes → Prop) (registry : IncidentRegistry) : Prop :=
  ∀ entry ∈ registry, entry.2.cleared = true → P entry.1 entry.2.clearCertBytes

def Evidence.Clears (P : BlockedIncident → Bytes → Prop) : Evidence → Prop
  | .blocked _ => True
  | .clear incident clearCertBytes => P incident clearCertBytes

def IsGenuine (incident : BlockedIncident) (clearCertBytes : Bytes) : Prop :=
  clearCertBytes ≠ [] ∧ IsClearCert incident clearCertBytes

def Held (registry : IncidentRegistry) (epoch : ℕ) (clearCerts : List Bytes) : Prop :=
  ∀ entry ∈ registry, entry.1.cancelledEpoch = epoch → entry.2.cleared = true ∧ entry.2.clearCertBytes ∈ clearCerts

structure Covers (cfg : RollbackConfig) (s : RollbackState) (c : OrderCandidate) : Prop where
  clears : Held s.incidentRegistry s.app.cancelledEpoch c.clearCerts
  voters : tooSmall cfg s c.voterIds = true → tooSmall cfg s (voterIds cfg s) = true

structure Fresh (cfg : RollbackConfig) (s : RollbackState) : Prop where
  genuine : EachClear IsGenuine s.incidentRegistry
  cancelled : s.recovery = true → s.app.cancelledEpoch = prevEpoch s.app.currentEpoch
  candidate : ∀ c, frozen s = some c → Covers cfg s c

lemma frozen_some : frozen s = some c ↔
    s.orderCandidate = some c ∧ c.epoch = s.app.currentEpoch ∧ s.recovery = true ∧ s.departed = false := by
  rw [frozen, Option.filter_eq_some_iff]
  simp [and_assoc]

lemma fresh_initial : Fresh cfg .initial where
  genuine := fun _ h => absurd h List.not_mem_nil
  cancelled := fun h => absurd h (by decide)
  candidate := fun c h => absurd (frozen_some.mp h).1 (by simp [RollbackState.initial])

lemma eachClear_absorb {P : BlockedIncident → Bytes → Prop} {e : Evidence} (h : EachClear P registry) (he : e.Clears P) :
    EachClear P (absorb registry e) := by
  cases e with
  | blocked incident =>
    rw [absorb]
    split
    · exact h
    · intro entry hentry hcleared
      rcases List.mem_append.mp hentry with hold | hnew
      · exact h entry hold hcleared
      · rw [List.mem_singleton.mp hnew] at hcleared
        exact absurd hcleared (by simp)
  | clear incident clearCertBytes =>
    intro entry hentry hcleared
    obtain ⟨old, hold, rfl⟩ := List.mem_map.mp hentry
    by_cases hmatch : old.1 = incident ∧ old.2.cleared = false
    · rw [if_pos hmatch, hmatch.1]
      exact he
    · rw [if_neg hmatch] at hcleared ⊢
      exact h old hold hcleared

lemma eachClear_foldl {P : BlockedIncident → Bytes → Prop} {es : List Evidence} (h : EachClear P registry)
    (hes : ∀ e ∈ es, e.Clears P) : EachClear P (es.foldl absorb registry) := by
  induction es generalizing registry with
  | nil => exact h
  | cons e es ih =>
    exact ih (eachClear_absorb h (hes e List.mem_cons_self)) fun e' he' => hes e' (List.mem_cons_of_mem e he')

lemma held_absorb {e : Evidence} {epoch : ℕ} {clearCerts : List Bytes} (h : Held registry epoch clearCerts)
    (hnew : ∀ incident, e = .blocked incident → incident.cancelledEpoch = epoch → incident ∈ registry.map Prod.fst) :
    Held (absorb registry e) epoch clearCerts := by
  cases e with
  | blocked incident =>
    rw [absorb]
    split
    · exact h
    next hnot =>
      intro entry hentry hepoch
      rcases List.mem_append.mp hentry with hold | hlast
      · exact h entry hold hepoch
      · rw [List.mem_singleton.mp hlast] at hepoch
        exact absurd (hnew incident rfl hepoch) hnot
  | clear incident clearCertBytes =>
    intro entry hentry hepoch
    obtain ⟨old, hold, rfl⟩ := List.mem_map.mp hentry
    by_cases hmatch : old.1 = incident ∧ old.2.cleared = false
    · rw [if_pos hmatch] at hepoch
      have hcleared := (h old hold hepoch).1
      exact absurd (hcleared.symm.trans hmatch.2) (by simp)
    · rw [if_neg hmatch] at hepoch ⊢
      exact h old hold hepoch

lemma absorb_known (e : Evidence) : registry.map Prod.fst ⊆ (absorb registry e).map Prod.fst := by
  intro incident hmem
  cases e with
  | blocked i =>
    rw [absorb]
    split
    · exact hmem
    · rw [List.map_append]
      exact List.mem_append_left _ hmem
  | clear i clearCertBytes =>
    have hkeys : (absorb registry (.clear i clearCertBytes)).map Prod.fst = registry.map Prod.fst := by
      rw [absorb, List.map_map]
      refine List.map_congr_left fun entry _ => ?_
      rw [Function.comp_apply]
      split <;> rfl
    rw [hkeys]
    exact hmem

lemma held_foldl {es : List Evidence} {epoch : ℕ} {clearCerts : List Bytes} (h : Held registry epoch clearCerts)
    (hnew : ∀ incident, .blocked incident ∈ es → incident.cancelledEpoch = epoch →
      incident ∈ registry.map Prod.fst) : Held (es.foldl absorb registry) epoch clearCerts := by
  induction es generalizing registry with
  | nil => exact h
  | cons e es ih =>
    refine ih (held_absorb h ?_) fun incident hmem hepoch => ?_
    · rintro incident rfl
      exact hnew incident List.mem_cons_self
    · exact absorb_known e (hnew incident (List.mem_cons_of_mem e hmem) hepoch)

lemma clearCert_text_ne_nil (cert : ClearCert) : serializeClearCert cert ≠ [] := by
  simp [serializeClearCert, ascii]

lemma clearBytes_ne_nil {cert : ClearCert} {clearCertBytes : Bytes}
    (hparse : deserializeClearCert clearCertBytes = some cert) (hechoes : cert.echoes.isEmpty = false) :
    clearCertBytes ≠ [] := by
  rintro rfl
  obtain rfl : (⟨0, 0, []⟩ : ClearCert) = cert := Option.some.inj hparse
  exact absurd hechoes (by simp)

lemma carriedClear_genuine {carrier : ℤ} {packet clearCertBytes : Bytes} {cert : ClearCert}
    (h : carriedClear cfg s carrier packet = some (cert, clearCertBytes)) :
    IsGenuine (clearedIncident cert) clearCertBytes := by
  obtain ⟨hparse, hechoes, -⟩ := carriedClear_valid h
  exact ⟨clearBytes_ne_nil hparse hechoes, cert, rfl, Or.inl hparse⟩

lemma trailerEvidence_genuine {completed : Bool} {e : Evidence} (h : e ∈ trailerEvidence cfg s completed) :
    e.Clears IsGenuine := by
  rw [trailerEvidence] at h
  split at h
  · exact absurd h List.not_mem_nil
  next dec order _ =>
    cases hparse : parsedCerts (decisionClearCerts dec) with
    | none => simp [hparse] at h
    | some certs =>
      simp only [hparse, Option.map_some, Option.getD_some, clearedBy, validClears, List.map_map, List.mem_map,
        List.mem_filter, Function.comp_apply] at h
      obtain ⟨cert, ⟨hcert, hvalid⟩, rfl⟩ := h
      rw [Bool.and_eq_true, Bool.not_eq_true'] at hvalid
      have hread := parsedCerts_mem hparse hcert
      exact ⟨clearBytes_ne_nil hread hvalid.1, cert.1, rfl, Or.inl hread⟩

lemma blockedBy_clears {P : BlockedIncident → Bytes → Prop} {ctx : WitnessContext} {cert : CancelCert} {e : Evidence}
    (h : e ∈ blockedBy ctx cert) : e.Clears P := by
  rw [blockedBy] at h
  split at h
  · obtain ⟨incident, -, rfl⟩ := Option.map_eq_some_iff.mp (Option.mem_toList.mp h)
    trivial
  · exact absurd h List.not_mem_nil

lemma rollbackEvidence_clears {P : BlockedIncident → Bytes → Prop} {ev : RollbackEvent} {e : Evidence}
    (h : e ∈ rollbackEvidence cfg s ev) : e.Clears P := by
  cases ev with
  | cancelCert senderId payload sense =>
    rw [rollbackEvidence] at h
    split at h
    · obtain ⟨cert, -, hblocked⟩ := List.mem_flatMap.mp h
      exact blockedBy_clears hblocked
    · exact absurd h List.not_mem_nil
  | cancelCertFormed cert payload sense => exact blockedBy_clears h
  | clearancePoll formed cleared sense =>
    rw [rollbackEvidence] at h
    split at h
    · obtain ⟨cert, -, hblocked⟩ := List.mem_flatMap.mp h
      exact blockedBy_clears hblocked
    · exact absurd h List.not_mem_nil
  | _ => exact absurd h List.not_mem_nil

lemma evidence_genuine {ev : EvidenceEvent} {e : Evidence} (h : e ∈ evidence cfg s ev) : e.Clears IsGenuine := by
  cases ev with
  | rollback ev plain => exact rollbackEvidence_clears h
  | order completed sense => exact trailerEvidence_genuine h
  | clearCert carrier packet =>
    rw [evidence] at h
    split at h
    · obtain ⟨⟨cert, clearCertBytes⟩, hcarried, rfl⟩ := List.mem_map.mp h
      exact carriedClear_genuine (Option.mem_toList.mp hcarried)
    · exact absurd h List.not_mem_nil
  | clearCertFormed cert =>
    rw [evidence] at h
    split at h
    · obtain rfl := List.mem_singleton.mp h
      exact ⟨clearCert_text_ne_nil cert, cert, rfl, Or.inr rfl⟩
    · exact absurd h List.not_mem_nil

structure Footing where
  view : List ℤ
  epoch : ℕ
  pending : Bool
  newEpoch : ℕ
  departed : Bool
  stores : DiscoveryStores
  expected : ℤ
  candidate : Option OrderCandidate

def RollbackState.footing (s : RollbackState) : Footing where
  view := s.app.committedOrderVehicleIds
  epoch := s.app.currentEpoch
  pending := s.app.cancelPending
  newEpoch := s.app.rollbackNewEpoch
  departed := s.departed
  stores := s.stores
  expected := s.rollbackExpectedMembershipSize
  candidate := s.orderCandidate

def RollbackState.grip (s : RollbackState) : ℕ × Bool := (s.app.cancelledEpoch, s.rollbackLocalRecallable)

lemma recovery_of_footing (h : s'.footing = s.footing) : s'.recovery = s.recovery := by
  have hepoch : s'.app.currentEpoch = s.app.currentEpoch := congrArg Footing.epoch h
  have hpending : s'.app.cancelPending = s.app.cancelPending := congrArg Footing.pending h
  have hnew : s'.app.rollbackNewEpoch = s.app.rollbackNewEpoch := congrArg Footing.newEpoch h
  rw [RollbackState.recovery, RollbackState.recovery, hepoch, hpending, hnew]

lemma beginCancelDrain_footing (s : RollbackState) (sense : Sense) :
    (beginCancelDrain s sense).footing = s.footing := by
  rw [beginCancelDrain]
  repeat' split
  all_goals rfl

lemma handleValidCancelJustification_footing (s : RollbackState) (cert : CancelCert) (justification : Bytes)
    (sense : Sense) : (handleValidCancelJustification cfg s cert justification sense).footing = s.footing := by
  rw [handleValidCancelJustification]
  split
  · rw [beginCancelDrain_footing, App.handleValidCancelJustification]
    repeat' split
    all_goals rfl
  · rfl

lemma handleValidCancelJustification_refused (s : RollbackState) (cert : CancelCert) (justification : Bytes)
    (sense : Sense) (h : acceptsJustification cfg s.app cert.cancelledEpoch = false) :
    handleValidCancelJustification cfg s cert justification sense = s := by
  rw [handleValidCancelJustification, h]
  rfl

lemma broadcastCancelCert_footing (s : RollbackState) (cert : CancelCert) (payload : Bytes) (sense : Sense) :
    (broadcastCancelCert cfg s cert payload sense).footing = s.footing := by
  rw [broadcastCancelCert]
  split
  · rw [handleValidCancelJustification_footing, scheduleNextCancelCertRetry_eq, registerBlockedIncidentIfCrash_eq]
    rfl
  · rfl

lemma broadcastCancelCert_grip {cert : CancelCert} (h : justifies cfg s cert = false) (payload : Bytes) (sense : Sense) :
    (broadcastCancelCert cfg s cert payload sense).grip = s.grip ∧
      justifies cfg (broadcastCancelCert cfg s cert payload sense) = justifies cfg s := by
  rw [broadcastCancelCert]
  split
  next hvalid =>
    rw [justifies, hvalid, Bool.true_and] at h
    dsimp only
    rw [scheduleNextCancelCertRetry_eq, registerBlockedIncidentIfCrash_eq,
      handleValidCancelJustification_refused _ cert payload sense (by exact h)]
    exact ⟨rfl, funext fun _ => rfl⟩
  next => exact ⟨rfl, rfl⟩

lemma perceiveCrashes_footing (formed : List (CancelCert × Bytes)) (s : RollbackState) (sense : Sense) :
    (perceiveCrashes cfg s formed sense).footing = s.footing := by
  induction formed generalizing s with
  | nil => rfl
  | cons first formed ih => exact (ih _).trans (broadcastCancelCert_footing s first.1 first.2 sense)

lemma perceiveCrashes_grip (formed : List (CancelCert × Bytes)) (s : RollbackState) (sense : Sense)
    (h : (formed.map Prod.fst).any (justifies cfg s) = false) : (perceiveCrashes cfg s formed sense).grip = s.grip := by
  induction formed generalizing s with
  | nil => rfl
  | cons first formed ih =>
    rw [List.map_cons, List.any_cons, Bool.or_eq_false_iff] at h
    obtain ⟨hgrip, hsame⟩ := broadcastCancelCert_grip h.1 first.2 sense
    exact (ih _ (hsame ▸ h.2)).trans hgrip

lemma handleCancelCert_footing (s : RollbackState) (senderId : ℤ) (payload : Bytes) (sense : Sense) :
    (handleCancelCert cfg s senderId payload sense).footing = s.footing := by
  rw [handleCancelCert]
  split
  · rfl
  · split
    · rfl
    · split
      · dsimp only
        rw [registerBlockedIncidentIfCrash_eq]
        split
        · exact handleValidCancelJustification_footing _ _ _ sense
        · rfl
      · rfl

lemma handleCancelCert_grip (s : RollbackState) (senderId : ℤ) (payload : Bytes) (sense : Sense)
    (h : (deserializeCancelCert payload).toList.any (justifies cfg s) = false) :
    (handleCancelCert cfg s senderId payload sense).grip = s.grip := by
  rw [handleCancelCert]
  cases hcert : deserializeCancelCert payload with
  | none => rfl
  | some cert =>
    rw [hcert, Option.toList_some, List.any_cons, List.any_nil, Bool.or_false, justifies] at h
    dsimp only
    split
    · rfl
    · split
      next hvalid =>
        rw [hvalid, Bool.true_and] at h
        rw [registerBlockedIncidentIfCrash_eq, handleValidCancelJustification_refused _ cert _ sense (by exact h)]
        split <;> rfl
      next => rfl

lemma releaseWaiting_footing (s : RollbackState) (cleared : List ℤ) (now : ℤ) :
    let s' : RollbackState := { s with app := (releaseWaiting cfg.toAppConfig s.app cleared now).1 }
    s'.footing = s.footing ∧ s'.grip = s.grip := by
  rw [releaseWaiting]
  repeat' split
  all_goals exact ⟨rfl, rfl⟩

lemma clearancePoll_footing (s : RollbackState) (formed : List (CancelCert × Bytes)) (cleared : List ℤ) (sense : Sense) :
    (clearancePoll cfg s formed cleared sense).footing = s.footing := by
  rw [clearancePoll]
  split
  · refine (releaseWaiting_footing _ cleared sense.now).1.trans ?_
    split
    · exact perceiveCrashes_footing formed _ sense
    · rfl
  · rfl

lemma clearancePoll_grip (s : RollbackState) (formed : List (CancelCert × Bytes)) (cleared : List ℤ) (sense : Sense)
    (h : (formed.map Prod.fst).any (justifies cfg s) = false) :
    (clearancePoll cfg s formed cleared sense).grip = s.grip := by
  rw [clearancePoll]
  split
  · refine (releaseWaiting_footing _ cleared sense.now).2.trans ?_
    split
    · exact perceiveCrashes_grip formed _ sense h
    · rfl
  · rfl

def takenOrder (s : RollbackState) : EvidenceEvent → Option OrderDecision
  | .order completed _ => (admitted s completed).map Prod.snd
  | _ => none

def takenCancel (cfg : RollbackConfig) (s : RollbackState) : EvidenceEvent → Option Bytes
  | .order _ _ => s.app.pendingOrders.head?.filter isCancelDecision
  | .rollback (.cancelCommitGossip senderId inner _) _ => adoptedAttestation cfg.toAppConfig s.app senderId inner
  | _ => none

structure Kept (order : Option OrderDecision) (s s' : RollbackState) : Prop where
  epoch : s'.app.currentEpoch = s.app.currentEpoch
  recovery : s'.recovery = true → s.recovery = true
  grip : s'.recovery = true → s'.grip = s.grip
  departed : s'.departed = false → s.departed = false
  stores : s'.stores = s.stores
  expected : s'.rollbackExpectedMembershipSize = s.rollbackExpectedMembershipSize
  candidate : s'.orderCandidate = none ∨ s'.orderCandidate = s.orderCandidate
  view : s'.app.committedOrderVehicleIds = s.app.committedOrderVehicleIds ∨
    ∃ o, order = some o ∧ (s'.recovery = true → o.epoch ≠ s.app.rollbackNewEpoch)

structure Begun (s s' : RollbackState) (dec : Bytes) : Prop where
  candidate : s'.orderCandidate = none
  cancelled : s'.app.cancelledEpoch = (CancelDecisionHdr.read dec).cancelledEpoch
  epoch : s'.app.currentEpoch = ((CancelDecisionHdr.read dec).cancelledEpoch + 1) % uint32Modulus
  view : s'.app.committedOrderVehicleIds = s.app.committedOrderVehicleIds

lemma kept_of_footing {order : Option OrderDecision} (h : s'.footing = s.footing)
    (hgrip : s.recovery = true → s'.grip = s.grip) : Kept order s s' where
  epoch := congrArg Footing.epoch h
  recovery := fun hrec => recovery_of_footing h ▸ hrec
  grip := fun hrec => hgrip (recovery_of_footing h ▸ hrec)
  departed := fun hdep => (congrArg Footing.departed h).symm.trans hdep
  stores := congrArg Footing.stores h
  expected := congrArg Footing.expected h
  candidate := Or.inr (congrArg Footing.candidate h)
  view := Or.inl (congrArg Footing.view h)

lemma prevEpoch_succ {e : ℕ} (he : e < uint32Modulus) : prevEpoch ((e + 1) % uint32Modulus) = e := by
  rw [prevEpoch]
  simp only [uint32Modulus] at he ⊢
  omega

lemma cancelledEpoch_lt (dec : Bytes) : (CancelDecisionHdr.read dec).cancelledEpoch < uint32Modulus := readU32_lt _ _

lemma Begun.prevEpoch {dec : Bytes} (h : Begun s s' dec) : s'.app.cancelledEpoch = prevEpoch s'.app.currentEpoch := by
  rw [h.cancelled, h.epoch, prevEpoch_succ (cancelledEpoch_lt dec)]

lemma beginPostCancelDiscovery_step {u : RollbackState} (hfooting : u.footing = s.footing) (hgrip : u.grip = s.grip)
    {order : Option OrderDecision} (dec : Bytes) (reason : ℤ) (ref justification : Bytes) (sense : Sense) :
    let s' := beginPostCancelDiscovery cfg u (CancelDecisionHdr.read dec).cancelledEpoch reason ref justification sense
    Kept order s s' ∨ Begun s s' dec := by
  intro s'
  cases hrep : u.app.repeatsCancel (CancelDecisionHdr.read dec).cancelledEpoch with
  | true =>
    have hsame : s' = u := beginPostCancelDiscovery_repeated hrep reason ref justification
    rw [hsame]
    exact Or.inl (kept_of_footing hfooting fun _ => hgrip)
  | false =>
    have hcond : ¬(u.app.cancelPending && decide (u.app.cancelledEpoch = (CancelDecisionHdr.read dec).cancelledEpoch)) =
        true := by
      rw [← AppState.repeatsCancel, hrep]
      exact Bool.false_ne_true
    have happ : s'.app = _ := beginPostCancelDiscovery_app u _ reason ref justification sense
    rw [App.beginPostCancelDiscovery, if_neg hcond] at happ
    refine Or.inr ⟨?_, by rw [happ], by rw [happ], ?_⟩
    · change (beginPostCancelDiscovery cfg u _ reason ref justification sense).orderCandidate = none
      rw [beginPostCancelDiscovery, if_neg hcond, armDiscoveryTimers_eq, startDiscoveryRound]
      split
      · rfl
      · dsimp only
        split
        · rw [armDiscoveryTimers_eq]
          rfl
        · rfl
    · rw [happ]
      exact congrArg Footing.view hfooting

lemma app_applyOrder_pending (s : AppState) (order : OrderDecision) (now : ℤ) {acfg : AppConfig} :
    (App.applyOrder acfg s order now).1.cancelPending = (s.cancelPending && !decide (order.epoch = s.rollbackNewEpoch)) ∧
      (App.applyOrder acfg s order now).1.rollbackNewEpoch = s.rollbackNewEpoch ∧
      (App.applyOrder acfg s order now).1.cancelledEpoch = s.cancelledEpoch := by
  rw [App.applyOrder]
  dsimp only
  split
  · exact ⟨rfl, rfl, rfl⟩
  · split
    · exact ⟨rfl, rfl, rfl⟩
    · rw [takeSlot]
      dsimp only
      split <;> exact ⟨rfl, rfl, rfl⟩

lemma foldl_onIncidentCleared_eq (clears : List (BlockedIncident × Bytes)) (s : RollbackState) :
    clears.foldl (fun s clear => onIncidentCleared s clear.1 clear.2) s =
      { s with
        incidentRegistry :=
          (clears.foldl (fun s clear => onIncidentCleared s clear.1 clear.2) s).incidentRegistry } := by
  induction clears generalizing s with
  | nil => rfl
  | cons clear clears ih =>
    rw [List.foldl_cons, ih]
    rfl

lemma applyOrder_recovery {order : OrderDecision} {clears : List (BlockedIncident × Bytes)} {now : ℤ}
    (hrec : (applyOrder cfg s order clears now).recovery = true) :
    s.recovery = true ∧ order.epoch ≠ s.app.rollbackNewEpoch := by
  obtain ⟨hpending, hnew, -⟩ := @app_applyOrder_pending s.app order now cfg.toAppConfig
  have hepoch := (@applyOrder_sameEpochs cfg.toAppConfig s.app order now).current
  rw [← @applyOrder_app cfg s order clears now] at hpending hnew hepoch
  rw [RollbackState.recovery, hpending, hepoch, hnew] at hrec
  rw [RollbackState.recovery]
  simp only [Bool.and_eq_true, Bool.not_eq_true', decide_eq_false_iff_not] at hrec ⊢
  exact ⟨⟨hrec.1.1, hrec.2⟩, hrec.1.2⟩

lemma applyOrder_kept (s : RollbackState) (order : OrderDecision) (clears : List (BlockedIncident × Bytes)) (now : ℤ) :
    Kept (some order) s (applyOrder cfg s order clears now) := by
  have hcancelled : (applyOrder cfg s order clears now).app.cancelledEpoch = s.app.cancelledEpoch :=
    (app_applyOrder_pending s.app order now).2.2
  have hepoch : (applyOrder cfg s order clears now).app.currentEpoch = s.app.currentEpoch :=
    (applyOrder_sameEpochs order now).current
  have hrest : (applyOrder cfg s order clears now).departed = s.departed ∧
      (applyOrder cfg s order clears now).stores = s.stores ∧
      (applyOrder cfg s order clears now).rollbackExpectedMembershipSize = s.rollbackExpectedMembershipSize ∧
      (applyOrder cfg s order clears now).rollbackLocalRecallable = s.rollbackLocalRecallable ∧
      ((applyOrder cfg s order clears now).orderCandidate = none ∨
        (applyOrder cfg s order clears now).orderCandidate = s.orderCandidate) := by
    rw [applyOrder, foldl_onIncidentCleared_eq, completeRollback]
    dsimp only
    repeat' split
    all_goals first
      | exact ⟨rfl, rfl, rfl, rfl, Or.inl rfl⟩
      | exact ⟨rfl, rfl, rfl, rfl, Or.inr rfl⟩
  obtain ⟨hdeparted, hstores, hexpected, hrecallable, hcandidate⟩ := hrest
  refine ⟨hepoch, fun hrec => (applyOrder_recovery hrec).1, fun _ => ?_, fun hdep => hdeparted ▸ hdep, hstores,
    hexpected, hcandidate, Or.inr ⟨order, rfl, fun hrec => (applyOrder_recovery hrec).2⟩⟩
  rw [RollbackState.grip, hcancelled, hrecallable, RollbackState.grip]

lemma processOrder_kept (s : RollbackState) (completed : Bool) (clears : List (BlockedIncident × Bytes))
    (sense : Sense) :
    Kept ((admitted s completed).map Prod.snd) s (processOrder cfg s completed clears sense) ∨
      ∃ dec, s.app.pendingOrders.head?.filter isCancelDecision = some dec ∧
        Begun s (processOrder cfg s completed clears sense) dec := by
  rw [processOrder, admitted]
  cases s.app.pendingOrders with
  | nil => exact Or.inl (kept_of_footing rfl fun _ => rfl)
  | cons dec rest =>
    dsimp only
    cases hcancel : isCancelDecision dec with
    | true =>
      rw [if_pos rfl, if_pos rfl, handleCancelCommitDecision_eq]
      refine (beginPostCancelDiscovery_step (s := s) ?_ ?_ dec _ _ _ sense).imp_right fun hbegun =>
        ⟨dec, by simp [hcancel], hbegun⟩
      all_goals
        rw [settleCommitted_eq]
        rfl
    | false =>
      rw [if_neg (by simp), if_neg (by simp), Option.map_map]
      cases admittedOrder { s.app with pendingOrders := rest } dec completed with
      | none => exact Or.inl (kept_of_footing rfl fun _ => rfl)
      | some order =>
        have h := @applyOrder_kept cfg { s with app := { s.app with pendingOrders := rest } } order clears sense.now
        exact Or.inl ⟨h.epoch, h.recovery, h.grip, h.departed, h.stores, h.expected, h.candidate, h.view⟩

lemma handleCancelCommitGossip_kept (s : RollbackState) (senderId : ℤ) (inner : Bytes) (sense : Sense) :
    Kept none s (handleCancelCommitGossip cfg s senderId inner sense) ∨
      ∃ dec, adoptedAttestation cfg.toAppConfig s.app senderId inner = some dec ∧
        Begun s (handleCancelCommitGossip cfg s senderId inner sense) dec := by
  cases hadopt : adoptedAttestation cfg.toAppConfig s.app senderId inner with
  | none =>
    refine Or.inl (kept_of_footing ?_ fun _ => ?_)
    all_goals
      rw [handleCancelCommitGossip, hadopt]
      dsimp only
      rw [recordCancelVote_eq]
      rfl
  | some dec =>
    rw [handleCancelCommitGossip_adopted _ hadopt]
    refine (beginPostCancelDiscovery_step (s := s) ?_ ?_ dec _ _ _ sense).imp_right fun hbegun => ⟨dec, rfl, hbegun⟩
    all_goals
      rw [settleAdopted_eq, recordCancelVote_eq]
      rfl

lemma Undisturbed.footing (h : Undisturbed s s') : s'.footing = s.footing ∧ s'.grip = s.grip := by
  rw [RollbackState.footing, RollbackState.footing, RollbackState.grip, RollbackState.grip, h.view, h.epoch, h.pending,
    h.newEpoch, h.departed, h.stores, h.expected, h.candidate, h.cancelled, h.recallable]
  exact ⟨rfl, rfl⟩

inductive GroundStep (cfg : RollbackConfig) (s : RollbackState) : EvidenceEvent → RollbackState → Prop
  | held {ev : EvidenceEvent} {s' : RollbackState} (footing : s'.footing = s.footing)
      (grip : s.recovery = true → (broughtCerts ev).any (justifies cfg s) = false → s'.grip = s.grip) :
      GroundStep cfg s ev s'
  | commit (completed : Bool) (clears : List (BlockedIncident × Bytes)) (sense : Sense) :
      GroundStep cfg s (.order completed sense) (processOrder cfg s completed clears sense)
  | adopt (senderId : ℤ) (inner : Bytes) (sense : Sense)
      (plain : bringsClears (.cancelCommitGossip senderId inner sense) = false) :
      GroundStep cfg s (.rollback (.cancelCommitGossip senderId inner sense) plain)
        (handleCancelCommitGossip cfg s senderId inner sense)
  | depart (plain : bringsClears .depart = false) :
      GroundStep cfg s (.rollback .depart plain) (rollbackStep cfg s .depart)

lemma evidenceStep_ground {ev : EvidenceEvent} (hother : movesCandidate ev = false) :
    GroundStep cfg s ev (evidenceStep cfg s ev) := by
  have hout := evidenceStep_outcome cfg s ev
  generalize evidenceStep cfg s ev = s' at hout ⊢
  cases hout with
  | recorded registry => exact .held rfl fun _ _ => rfl
  | order completed clears sense => exact .commit completed clears sense
  | rollback ev plain =>
    cases haside : standsAside ev with
    | true =>
      obtain ⟨hfooting, hgrip⟩ := (@rollbackStep_undisturbed cfg s ev haside).footing
      exact .held hfooting fun _ _ => hgrip
    | false =>
      cases ev with
      | processOrder _ _ _ | clearCert _ _ => exact absurd plain (by simp [bringsClears])
      | orderReadiness _ | discovery _ _ _ _ _ => exact absurd hother (by simp [movesCandidate])
      | cancelCert senderId payload sense =>
        exact .held (handleCancelCert_footing s senderId payload sense) fun _ hquiet =>
          handleCancelCert_grip s senderId payload sense hquiet
      | cancelCertFormed cert payload sense =>
        refine .held (broadcastCancelCert_footing s cert payload sense) fun _ hquiet => ?_
        rw [broughtCerts, List.any_cons, List.any_nil, Bool.or_false] at hquiet
        exact (broadcastCancelCert_grip hquiet payload sense).1
      | clearancePoll formed cleared sense =>
        exact .held (clearancePoll_footing s formed cleared sense) fun _ hquiet =>
          clearancePoll_grip s formed cleared sense hquiet
      | cancelCommitGossip senderId inner sense => exact .adopt senderId inner sense plain
      | depart => exact .depart plain
      | _ => exact absurd haside (by simp [standsAside])

lemma evidenceStep_kept {ev : EvidenceEvent} (hother : movesCandidate ev = false)
    (hquiet : s.recovery = true → (broughtCerts ev).any (justifies cfg s) = false) :
    Kept (takenOrder s ev) s (evidenceStep cfg s ev) ∨
      ∃ dec, takenCancel cfg s ev = some dec ∧ Begun s (evidenceStep cfg s ev) dec := by
  have hground := @evidenceStep_ground cfg s ev hother
  generalize evidenceStep cfg s ev = s' at hground ⊢
  cases hground with
  | held hfooting hgrip => exact Or.inl (kept_of_footing hfooting fun hrec => hgrip hrec (hquiet hrec))
  | commit completed clears sense => exact processOrder_kept s completed clears sense
  | adopt senderId inner sense plain => exact handleCancelCommitGossip_kept s senderId inner sense
  | depart plain =>
    exact Or.inl ⟨rfl, id, fun _ => rfl, fun h => absurd h (by simp [rollbackStep]), rfl, rfl, Or.inr rfl, Or.inl rfl⟩

lemma tooSmall_eq (h : s'.rollbackExpectedMembershipSize = s.rollbackExpectedMembershipSize) (voters : List ℤ) :
    tooSmall cfg s' voters = tooSmall cfg s voters := by
  rw [tooSmall, tooSmall, minRollbackMembershipSize, minRollbackMembershipSize, h]

lemma voterIds_eq (hstores : s'.stores = s.stores) (hrec : s'.recovery = s.recovery)
    (hrecallable : s'.rollbackLocalRecallable = s.rollbackLocalRecallable) (hdeparted : s'.departed = s.departed) :
    voterIds cfg s' = voterIds cfg s := by
  have hmember : shouldIncludeInRollbackMembership cfg s' = shouldIncludeInRollbackMembership cfg s := by
    funext rid
    rw [shouldIncludeInRollbackMembership, shouldIncludeInRollbackMembership, hrecallable, hdeparted]
  rw [voterIds, voterIds, hstores, hrec, hmember]

lemma Fresh.kept {order : Option OrderDecision} (h : Fresh cfg s) (hkept : Kept order s s') (hgenuine : EachClear IsGenuine s'.incidentRegistry)
    (hheld : ∀ c, frozen s = some c → Held s'.incidentRegistry s.app.cancelledEpoch c.clearCerts) : Fresh cfg s' where
  genuine := hgenuine
  cancelled := fun hrec => by
    have hcancelled : s'.app.cancelledEpoch = s.app.cancelledEpoch := congrArg Prod.fst (hkept.grip hrec)
    rw [hcancelled, hkept.epoch]
    exact h.cancelled (hkept.recovery hrec)
  candidate := fun c hc => by
    obtain ⟨hcandidate, hepoch, hrec, hdeparted⟩ := frozen_some.mp hc
    have hcancelled : s'.app.cancelledEpoch = s.app.cancelledEpoch := congrArg Prod.fst (hkept.grip hrec)
    have hrecallable : s'.rollbackLocalRecallable = s.rollbackLocalRecallable := congrArg Prod.snd (hkept.grip hrec)
    have hwas : frozen s = some c := by
      refine frozen_some.mpr ⟨?_, hepoch.trans hkept.epoch, hkept.recovery hrec, hkept.departed hdeparted⟩
      rcases hkept.candidate with hnone | hsame
      · exact absurd (hcandidate.symm.trans hnone) (by simp)
      · exact hsame.symm.trans hcandidate
    have hvoters : voterIds cfg s' = voterIds cfg s :=
      voterIds_eq hkept.stores (hrec.trans (hkept.recovery hrec).symm) hrecallable
        (hdeparted.trans (hkept.departed hdeparted).symm)
    constructor
    · rw [hcancelled]
      exact hheld c hwas
    · rw [tooSmall_eq hkept.expected, tooSmall_eq hkept.expected, hvoters]
      exact (h.candidate c hwas).voters

lemma Fresh.begun {dec : Bytes} (hgenuine : EachClear IsGenuine s'.incidentRegistry) (hbegun : Begun s s' dec) : Fresh cfg s' where
  genuine := hgenuine
  cancelled := fun _ => hbegun.prevEpoch
  candidate := fun c hc => absurd ((frozen_some.mp hc).1.symm.trans hbegun.candidate) (by simp)

lemma Fresh.evidence (h : Fresh cfg s) {ev : EvidenceEvent} {other : movesCandidate ev = false}
    (hok : timely cfg s (.evidence ev other) = true) : Fresh cfg (evidenceStep cfg s ev) := by
  rw [timely, Bool.and_eq_true, Bool.not_eq_true', Bool.not_eq_true'] at hok
  obtain ⟨hlate, hjustified⟩ := hok
  have hregistry := @evidenceStep_registry cfg s ev
  have hgenuine : EachClear IsGenuine (evidenceStep cfg s ev).incidentRegistry := by
    rw [hregistry]
    exact eachClear_foldl h.genuine fun e he => evidence_genuine he
  have hquiet : s.recovery = true → (broughtCerts ev).any (justifies cfg s) = false := fun hrec => by
    rwa [hrec, Bool.true_and] at hjustified
  rcases evidenceStep_kept other hquiet with hkept | ⟨dec, -, hbegun⟩
  · refine h.kept hkept hgenuine fun c hc => ?_
    rw [hregistry]
    refine held_foldl (h.candidate c hc).clears fun incident hmem hepoch => ?_
    rw [hc, Option.isSome_some, Bool.true_and, List.any_eq_false] at hlate
    by_contra hunknown
    exact hlate _ hmem (by simp [registersLate, hepoch, hunknown])
  · exact .begun hgenuine hbegun

lemma Fresh.discovery (h : Fresh cfg s) {round : DiscoveryRound} {stores : DiscoveryStores}
    {deadline settle announcement : Bool}
    (hok : timely cfg s (.discovery round stores deadline settle announcement) = true) :
    Fresh cfg (discoveryStep s round stores deadline settle announcement) := by
  rw [timely, Bool.or_eq_true] at hok
  rw [discoveryStep]
  split
  next => exact ⟨h.genuine, h.cancelled, fun c hc => absurd (frozen_some.mp hc).1 (by simp [RollbackState.resetOrderCandidate])⟩
  next hcontinues =>
    refine ⟨h.genuine, h.cancelled, fun c hc => ?_⟩
    have hwas : frozen s = some c := hc
    have hvoters := hok.resolve_left hcontinues
    rw [hwas, Option.all_some] at hvoters
    refine ⟨(h.candidate c hwas).clears, fun hsmall => ?_⟩
    have hsmall' : tooSmall cfg s c.voterIds = true := hsmall
    rw [hsmall', Bool.not_true, Bool.false_or] at hvoters
    exact hvoters

lemma readinessGate_none (h : readinessGate s = none) :
    s.departed = false ∧ (s.recovery = true → hasBlockingIncidentForEpoch s s.app.cancelledEpoch = false) := by
  rw [readinessGate] at h
  split at h
  · exact absurd h (by simp)
  next happlied =>
    repeat' split at h
    any_goals (simp at h; done)
    next hblocking =>
      simp only [Bool.or_eq_true, not_or, Bool.not_eq_true] at happlied
      refine ⟨happlied.2, fun hrec => ?_⟩
      rwa [hrec, Bool.true_and, Bool.not_eq_true] at hblocking

lemma built_held (hgenuine : EachClear IsGenuine s.incidentRegistry) (hgate : readinessGate s = none) (hrec : s.recovery = true) :
    Held s.incidentRegistry s.app.cancelledEpoch (buildOrderCandidate cfg s).clearCerts := by
  have hnone := (readinessGate_none hgate).2 hrec
  rw [hasBlockingIncidentForEpoch, List.any_eq_false] at hnone
  intro entry hentry hepoch
  have hcleared : entry.2.cleared = true := by
    by_contra hblocking
    exact hnone entry hentry (by simp [hepoch, hblocking])
  refine ⟨hcleared, ?_⟩
  rw [buildOrderCandidate, hrec, if_pos rfl, registeredClears]
  refine List.mem_map_of_mem ((List.perm_insertionSort _ _).mem_iff.mpr (List.mem_filter.mpr ⟨hentry, ?_⟩))
  simp [hepoch, hcleared, (hgenuine entry hentry hcleared).1]

lemma frozenCandidate_epoch (cfg : RollbackConfig) (s : RollbackState) :
    (frozenCandidate cfg s).epoch = s.app.currentEpoch := by
  rw [frozenCandidate]
  split
  · split
    next hepoch => exact hepoch
    · rfl
  · rfl

lemma Fresh.covers (h : Fresh cfg s) (hgate : readinessGate s = none) (hrec : s.recovery = true) :
    Covers cfg s (frozenCandidate cfg s) := by
  have hbuilt : Covers cfg s (buildOrderCandidate cfg s) := ⟨built_held h.genuine hgate hrec, id⟩
  rw [frozenCandidate]
  split
  next candidate hcandidate =>
    split
    next hepoch => exact h.candidate candidate (frozen_some.mpr ⟨hcandidate, hepoch, hrec, (readinessGate_none hgate).1⟩)
    · exact hbuilt
  · exact hbuilt

lemma Fresh.freeze (h : Fresh cfg s) (hgate : readinessGate s = none) :
    Fresh cfg { s with orderCandidate := some (frozenCandidate cfg s) } where
  genuine := h.genuine
  cancelled := h.cancelled
  candidate := fun c hc => by
    obtain ⟨hcandidate, -, hrec, -⟩ := frozen_some.mp hc
    obtain rfl : frozenCandidate cfg s = c := Option.some.inj hcandidate
    have hcovers := h.covers hgate hrec
    exact ⟨hcovers.clears, hcovers.voters⟩

lemma evaluateOrderReadiness_gated (engine : EngineAnswer) {outcome : Readiness} (hgate : readinessGate s = some outcome) :
    evaluateOrderReadiness cfg s engine = (s, outcome) := by
  rw [evaluateOrderReadiness, hgate]

lemma evaluateOrderReadiness_open (engine : EngineAnswer) (hgate : readinessGate s = none) :
    evaluateOrderReadiness cfg s engine =
      ({ s with orderCandidate := some (frozenCandidate cfg s) },
        candidateReadiness cfg s (frozenCandidate cfg s) engine) := by
  rw [evaluateOrderReadiness, hgate]

lemma readinessGate_not_ready {primary : ℤ} : readinessGate s ≠ some (.ready primary) := by
  rw [readinessGate]
  repeat' split
  all_goals simp

lemma readinessGate_not_tooSmall : readinessGate s ≠ some (.blocked .membershipTooSmall) := by
  rw [readinessGate]
  repeat' split
  all_goals simp

lemma proposeAll_kept (s : RollbackState) (engine : EngineAnswer) (cars : AmbulanceCars) :
    (proposeAll cfg s engine cars).1.footing = s.footing ∧ (proposeAll cfg s engine cars).1.grip = s.grip ∧
      (proposeAll cfg s engine cars).1.incidentRegistry = s.incidentRegistry := by
  rw [proposeAll]
  dsimp only
  repeat' split
  all_goals first
    | exact ⟨rfl, rfl, rfl⟩
    | exact ⟨(trySubmitCancelProposal_undisturbed s).footing.1, (trySubmitCancelProposal_undisturbed s).footing.2,
        (trySubmitCancelProposal_undisturbed s).registry⟩

lemma proposeAll_submits {engine : EngineAnswer} {cars : AmbulanceCars}
    (h : (proposeAll cfg s engine cars).2 = some c) : s.orderCandidate = some c := by
  rw [proposeAll] at h
  dsimp only at h
  repeat' split at h
  any_goals (simp at h; done)
  next hcandidate _ _ _ _ =>
    rw [hcandidate]
    exact h

lemma submitted_some {engine : EngineAnswer} {cars : AmbulanceCars} (h : submitted cfg s engine cars = some c) :
    readinessGate s = none ∧ c = frozenCandidate cfg s := by
  cases hgate : readinessGate s with
  | some outcome =>
    rw [submitted, evaluateAndPropose, evaluateOrderReadiness_gated engine hgate] at h
    dsimp only at h
    split at h
    · exact absurd hgate readinessGate_not_ready
    · exact absurd h (by simp)
  | none =>
    rw [submitted, evaluateAndPropose, evaluateOrderReadiness_open engine hgate] at h
    dsimp only at h
    refine ⟨rfl, ?_⟩
    split at h
    · split at h
      · exact (Option.some.inj (proposeAll_submits h)).symm
      · exact absurd h (by simp)
    · exact absurd h (by simp)

lemma Fresh.readiness (h : Fresh cfg s) (engine : EngineAnswer) (cars : AmbulanceCars) :
    Fresh cfg (evaluateAndPropose cfg s engine cars).1 := by
  have hfrozen : Fresh cfg (evaluateOrderReadiness cfg s engine).1 := by
    cases hgate : readinessGate s with
    | some outcome => rwa [evaluateOrderReadiness_gated engine hgate]
    | none =>
      rw [evaluateOrderReadiness_open engine hgate]
      exact h.freeze hgate
  rw [evaluateAndPropose]
  dsimp only
  split
  · split
    · obtain ⟨hfooting, hgrip, hregistry⟩ := @proposeAll_kept cfg (evaluateOrderReadiness cfg s engine).1 engine cars
      have hkept : Kept none (evaluateOrderReadiness cfg s engine).1 _ := kept_of_footing hfooting fun _ => hgrip
      refine hfrozen.kept hkept ?_ fun c hc => ?_
      · rw [hregistry]
        exact hfrozen.genuine
      · rw [hregistry]
        exact (hfrozen.candidate c hc).clears
    · exact hfrozen
  · exact hfrozen

lemma Fresh.step (s : RollbackState) (ev : OrderEvent) (h : Fresh cfg s) (hok : timely cfg s ev = true) :
    Fresh cfg (orderStep cfg s ev) := by
  cases ev with
  | evidence ev other => exact h.evidence hok
  | discovery round stores deadline settle announcement => exact h.discovery hok
  | orderReadiness engine cars => exact h.readiness engine cars

lemma Fresh.complete (h : Fresh cfg s) (engine : EngineAnswer) (cars : AmbulanceCars) :
    EvidenceComplete cfg s engine cars where
  clears := fun c hc hrec entry hentry hepoch => by
    obtain ⟨hgate, rfl⟩ := submitted_some hc
    rw [frozenCandidate_epoch, ← h.cancelled hrec] at hepoch
    obtain ⟨hcleared, hmem⟩ := (h.covers hgate hrec).clears entry hentry hepoch
    exact ⟨hmem, (h.genuine entry hentry hcleared).2⟩
  membership := fun hblocked => by
    cases hgate : readinessGate s with
    | some outcome =>
      rw [evaluateOrderReadiness_gated engine hgate] at hblocked
      obtain rfl : outcome = .blocked .membershipTooSmall := hblocked
      exact absurd hgate readinessGate_not_tooSmall
    | none =>
      rw [evaluateOrderReadiness_open engine hgate, candidateReadiness] at hblocked
      dsimp only at hblocked
      split at hblocked
      next hsmall =>
        rw [Bool.and_eq_true] at hsmall
        exact of_decide_eq_true ((h.covers hgate hsmall.1).voters hsmall.2)
      next =>
        repeat' split at hblocked
        all_goals exact absurd hblocked (by simp)

theorem evidenceComplete_of_run (cfg : RollbackConfig) (events : List OrderEvent)
    (htimely : Guarded (orderStep cfg) (fun s ev => timely cfg s ev = true) .initial events) (engine : EngineAnswer)
    (cars : AmbulanceCars) : EvidenceComplete cfg (run (orderStep cfg) .initial events) engine cars :=
  (htimely.invariant Fresh.step fresh_initial).complete engine cars

def evidenceEvents (events : List EvidenceEvent) : List OrderEvent :=
  events.filterMap fun ev => if h : movesCandidate ev = false then some (.evidence ev h) else none

def certifiedCars (cars : List ℕ) : OrderEvent :=
  let ids := cars.map fun i => ascii "veh" ++ decimalNat i
  .discovery ⟨.complete, 1, 8⟩ ⟨ids, ids, ids, ids⟩ false false false

def clearOfBatch (batch : String) : Bytes := ascii ("CLEAR_CERT|0|" ++ batch) ++ echoesText

def blockedAndCleared (batch : String) : List EvidenceEvent :=
  [.rollback (.cancelCert 0 (ascii ("CANCEL_CERT|0|0|blocked_batch:0:" ++ batch) ++ echoesText) (stopped 6)) rfl,
    .clearCert 0 (zeros 33 ++ [1, 7] ++ clearOfBatch batch)]

def recoveryBegun : List OrderEvent :=
  evidenceEvents (afterOrder (blockedAndCleared "1" ++
    [.rollback (.orderDecided (crashCancelBytes 0)) crashCancel_plain, .order false (stopped 7)]))

def evaluated (engine : EngineAnswer) : OrderEvent := .orderReadiness engine ⟨[], []⟩

-- the candidate is frozen behind primary 0; after the view change car 2 is the primary
def followsThenLeads (between : List EvidenceEvent) : List OrderEvent :=
  recoveryBegun ++ [certifiedCars [0, 1, 2, 3], evaluated ⟨true, 0⟩] ++
    evidenceEvents (between ++ [.rollback (.viewChange true true) viewChange_plain])

def lateCertificate : List OrderEvent :=
  recoveryBegun ++ [certifiedCars [0, 1, 2], evaluated ⟨true, 0⟩, certifiedCars [0, 1, 2, 3]]

theorem evidenceComplete_of_run_leads :
    (submitted fourRollbackCars (run (orderStep fourRollbackCars) .initial (followsThenLeads [])) ⟨true, 2⟩
        ⟨[], []⟩).isSome = true ∧
      EvidenceComplete fourRollbackCars (run (orderStep fourRollbackCars) .initial (followsThenLeads [])) ⟨true, 2⟩
        ⟨[], []⟩ :=
  ⟨by decide +kernel, evidenceComplete_of_run fourRollbackCars (followsThenLeads []) (by decide +kernel) ⟨true, 2⟩
    ⟨[], []⟩⟩

-- an incident registered behind the freeze is left out, and a certificate stored behind it does not count
theorem frozenCandidate_stale :
    ¬EvidenceComplete fourRollbackCars
        (run (orderStep fourRollbackCars) .initial (followsThenLeads (blockedAndCleared "2"))) ⟨true, 2⟩ ⟨[], []⟩ ∧
      ¬EvidenceComplete fourRollbackCars (run (orderStep fourRollbackCars) .initial lateCertificate) ⟨true, 0⟩
        ⟨[], []⟩ := by
  constructor
  · intro h
    have hmem := h.clears (frozenCandidate fourRollbackCars
      (run (orderStep fourRollbackCars) .initial (followsThenLeads (blockedAndCleared "2")))) (by decide +kernel)
      (by decide +kernel) (⟨0, 2⟩, ⟨true, clearOfBatch "2"⟩) (by decide +kernel) (by decide +kernel)
    exact absurd hmem.1 (by decide +kernel)
  · intro h
    exact absurd (h.membership (by decide +kernel)) (by decide +kernel)

end V2vBft.Rollback
