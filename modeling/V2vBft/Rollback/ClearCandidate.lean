import V2vBft.Rollback.ClearEchoes

/-! Which CLEAR echoes and certificates a replica with a BLOCKING incident loses. -/

namespace V2vBft.Rollback

open Wire App Arrival Library.GuardedRun

structure Awaits (cfg : WitnessConfig) (s : ClearState) (heard : List (WitnessStatement × WitnessEcho))
    (incident : BlockedIncident) : Prop where
  blocking : incidentState s.rollback incident = .blocking
  known : incidentStatement incident ∈ heard.map Prod.fst
  count : cfg.faults + 1 ≤
    ((supporters (s.view cfg) (incidentStatement incident) (echoesOf (incidentStatement incident) heard)).card : ℤ)

def Scheduled (cfg : WitnessConfig) (s : ClearState) (incident : BlockedIncident) : Prop :=
  s.clearCertCandidateTimer = true ∧ ∃ cert, s.clearCertCandidate = some cert ∧ clearedIncident cert = incident ∧
    validateClearCert (s.view cfg) cert = true

def ClearHeld (cfg : WitnessConfig) (s : ClearState) : Prop :=
  ∀ incident, Awaits cfg s s.heard incident → Scheduled cfg s incident

def memberClear (cfg : WitnessConfig) (s : ClearState) (carrier : ℤ) (packet : Bytes) : Option ClearCert :=
  (unpackSignedPacket packet).bind fun signed =>
    if decide (carrier ∈ (s.view cfg).committedOrderVehicleIds) && (s.view cfg).keyMatches carrier signed.pubKey &&
        cfg.verifyBytes signed.pubKey signed.content signed.sig then
      (deserializeClearCert signed.content).filter fun cert =>
        !cert.echoes.isEmpty && validateClearCert (s.view cfg) cert
    else none

def ClearAdopted (cfg : WitnessConfig) (s : ClearState) : ClearEvent → Prop
  | .clearCert carrier packet =>
    ∀ cert, memberClear cfg s carrier packet = some cert → incidentState s.rollback (clearedIncident cert) = .blocking →
      incidentState (clearStep cfg s (.clearCert carrier packet)).rollback (clearedIncident cert) = .cleared
  | _ => True

def clearBucketWith (s : ClearState) (incident : BlockedIncident) (echo : WitnessEcho) : List WitnessEcho :=
  (s.clearEchoCollector.add (incidentStatement incident) echo).1.bucket (clearKey incident)

structure Schedules (cfg : WitnessConfig) (s : ClearState) (ev : ClearEvent) (incident : BlockedIncident)
    (echo : WitnessEcho) : Prop where
  received : ∃ payload, ev = .clearEcho payload
  enabled : cfg.enableRollback = true
  heeded : s.hushed incident = false
  verified : verifiedEcho (s.view cfg) (incidentStatement incident) echo = true
  taken : (s.clearEchoCollector.add (incidentStatement incident) echo).2 = true
  reached : cfg.faults + 1 ≤ (clearBucketWith s incident echo).length
  active : cfg.replicaId ∈ clearPropagationMembers cfg.toRollbackConfig s.rollback

def OthersSettled (cfg : WitnessConfig) (s : ClearState) (incident : BlockedIncident) : Prop :=
  ∀ other, other ≠ incident → ¬Awaits cfg s s.heard other

-- an echo that is scheduled finds the one candidate free, and f + 1 of the members under their own keys where enough
-- of them are heard; an echo that is not scheduled is not the one that makes them enough
structure EchoKept (cfg : WitnessConfig) (s : ClearState) (ev : ClearEvent) (incident : BlockedIncident)
    (echo : WitnessEcho) : Prop where
  scheduled : Schedules cfg s ev incident echo → OthersSettled cfg s incident ∧
    (Awaits cfg s (heardWith s incident echo) incident →
      cfg.faults + 1 + (hijacked (s.view cfg) (incidentStatement incident)
          (echoesOf (incidentStatement incident) (heardWith s incident echo)) (clearBucketWith s incident echo)).card ≤
        ((supporters (s.view cfg) (incidentStatement incident)
          (echoesOf (incidentStatement incident) (heardWith s incident echo))).card : ℤ))
  unscheduled : ¬Schedules cfg s ev incident echo → Awaits cfg s (heardWith s incident echo) incident →
    Scheduled cfg s incident

-- a certificate that is taken in leaves no other incident waiting, one from a member comes from a carrier of the local
-- arrival certificates, and the timer does not expire behind an applied ORDER
def keepsClear (cfg : WitnessConfig) (s : ClearState) : ClearEvent → Prop
  | .clearCert carrier packet =>
    (∀ cert rawCert, cfg.enableRollback = true →
        carriedClear cfg.toRollbackConfig s.rollback carrier packet = some (cert, rawCert) →
          OthersSettled cfg s (clearedIncident cert)) ∧
      ∀ cert, memberClear cfg s carrier packet = some cert →
        incidentState s.rollback (clearedIncident cert) = .blocking →
          cfg.enableRollback = true ∧ carrier ∈ clearPropagationMembers cfg.toRollbackConfig s.rollback
  | .candidateTimer =>
    s.clearCertCandidateTimer = true → s.rollback.app.orderApplied = true → ∀ incident, ¬Awaits cfg s s.heard incident
  | ev => ∀ incident echo, broughtClear cfg s ev = some (incident, echo) → EchoKept cfg s ev incident echo

variable {cfg : WitnessConfig} {s s' : ClearState} {incident : BlockedIncident} {echo : WitnessEcho}
  {heard : List (WitnessStatement × WitnessEcho)}

lemma awaits_congr (happ : s'.rollback.app = s.rollback.app)
    (hstate : incidentState s'.rollback incident = incidentState s.rollback incident) :
    Awaits cfg s' heard incident ↔ Awaits cfg s heard incident := by
  have hview : s'.view cfg = s.view cfg := by rw [ClearState.view, happ, ClearState.view]
  constructor
  · rintro ⟨hblocking, hknown, hcount⟩
    exact ⟨hstate ▸ hblocking, hknown, hview ▸ hcount⟩
  · rintro ⟨hblocking, hknown, hcount⟩
    exact ⟨hstate.trans hblocking, hknown, hview.symm ▸ hcount⟩

lemma scheduled_congr (happ : s'.rollback.app = s.rollback.app)
    (hcandidate : s'.clearCertCandidate = s.clearCertCandidate)
    (htimer : s'.clearCertCandidateTimer = s.clearCertCandidateTimer) :
    Scheduled cfg s' incident ↔ Scheduled cfg s incident := by
  rw [Scheduled, Scheduled, hcandidate, htimer, ClearState.view, happ, ClearState.view]

lemma held_congr (happ : s'.rollback.app = s.rollback.app)
    (hregistry : s'.rollback.incidentRegistry = s.rollback.incidentRegistry)
    (hcandidate : s'.clearCertCandidate = s.clearCertCandidate)
    (htimer : s'.clearCertCandidateTimer = s.clearCertCandidateTimer) (hheard : s'.heard = s.heard) :
    ClearHeld cfg s' ↔ ClearHeld cfg s := by
  rw [ClearHeld, ClearHeld, hheard]
  refine forall_congr' fun incident => imp_congr (awaits_congr happ ?_) (scheduled_congr happ hcandidate htimer)
  rw [incidentState, incidentState, hregistry]

lemma awaits_other {other : BlockedIncident} (hother : other ≠ incident) :
    Awaits cfg s (heardWith s incident echo) other ↔ Awaits cfg s s.heard other := by
  have hne : incidentStatement other ≠ incidentStatement incident := fun h => hother (incidentStatement_injective h)
  have hechoes : echoesOf (incidentStatement other) (heardWith s incident echo) =
      echoesOf (incidentStatement other) s.heard := by
    rw [heardWith, echoesOf_append]
    simp [echoesOf, hne.symm]
  have hknown : incidentStatement other ∈ (heardWith s incident echo).map Prod.fst ↔
      incidentStatement other ∈ s.heard.map Prod.fst := by
    rw [heardWith, List.map_append, List.mem_append]
    exact or_iff_left (by simpa using hne)
  constructor
  · rintro ⟨hblocking, hmem, hcount⟩
    exact ⟨hblocking, hknown.mp hmem, hechoes ▸ hcount⟩
  · rintro ⟨hblocking, hmem, hcount⟩
    exact ⟨hblocking, hknown.mpr hmem, hechoes.symm ▸ hcount⟩

lemma schedules_slot {payload : Bytes} {e : ClearEcho} (hparse : deserializeClearEcho payload = some e)
    (hformed : formedClearEcho e = true)
    (h : Schedules cfg s (.clearEcho payload) (echoIncident e) e.toWitnessEcho) :
    (s.handleClearEcho cfg payload).clearCertCandidate =
        some (bucketClearCert (echoIncident e) (clearBucketWith s (echoIncident e) e.toWitnessEcho)) ∧
      (s.handleClearEcho cfg payload).clearCertCandidateTimer = true := by
  have hheeded := h.heeded
  simp only [ClearState.hushed, Bool.or_eq_false_iff, decide_eq_false_iff_not] at hheeded
  obtain ⟨⟨-, hunseen⟩, hnokey⟩ := hheeded
  have hmem := add_mem h.taken
  have htaken := h.taken
  have hreached := h.reached
  rw [handleClearEcho_formed hparse hformed, h.enabled, h.heeded, h.verified, if_pos (by rfl),
    ClearState.collectClearEcho]
  rw [clearBucketWith] at hreached ⊢
  cases hadd : s.clearEchoCollector.add (incidentStatement (echoIncident e)) e.toWitnessEcho with
  | mk collector fresh =>
    rw [hadd] at htaken hreached hmem
    cases htaken
    have hechoes : (bucketClearCert (echoIncident e) (collector.bucket (clearKey (echoIncident e)))).echoes ≠ [] :=
      fun hnil => List.ne_nil_of_mem hmem (List.map_eq_nil_iff.mp hnil)
    dsimp only
    rw [if_pos ⟨hreached, hunseen⟩]
    exact scheduleClearCertCandidate_free h.enabled hechoes hunseen hnokey h.active

lemma unscheduled_slot {payload : Bytes} {e : ClearEcho} (hparse : deserializeClearEcho payload = some e)
    (hformed : formedClearEcho e = true)
    (h : ¬Schedules cfg s (.clearEcho payload) (echoIncident e) e.toWitnessEcho) :
    (s.handleClearEcho cfg payload).clearCertCandidate = s.clearCertCandidate ∧
      (s.handleClearEcho cfg payload).clearCertCandidateTimer = s.clearCertCandidateTimer := by
  rw [handleClearEcho_formed hparse hformed]
  split
  next hgates =>
    rw [Bool.and_eq_true, Bool.and_eq_true, Bool.not_eq_true'] at hgates
    obtain ⟨⟨henabled, hheeded⟩, hverified⟩ := hgates
    rw [ClearState.collectClearEcho]
    cases hadd : s.clearEchoCollector.add (incidentStatement (echoIncident e)) e.toWitnessEcho with
    | mk collector fresh =>
      cases fresh with
      | false => exact ⟨rfl, rfl⟩
      | true =>
        dsimp only
        split
        next hreached =>
          rw [ClearState.scheduleClearCertCandidate]
          repeat' split
          case isFalse.isFalse.isFalse hrank =>
            refine absurd ⟨⟨payload, rfl⟩, henabled, hheeded, hverified, by rw [hadd], ?_, ?_⟩ h
            · rw [clearBucketWith, hadd]
              exact hreached.1
            · exact not_not.mp fun hno => hrank ((clearPropagationRank_neg cfg.toRollbackConfig s.rollback).mpr hno)
          all_goals exact ⟨rfl, rfl⟩
        next => exact ⟨rfl, rfl⟩
  next => exact ⟨rfl, rfl⟩

lemma echo_scheduled {ev : ClearEvent} (hbrought : broughtClear cfg s ev = some (incident, echo))
    (h : Schedules cfg s ev incident echo) :
    (clearStep cfg s ev).clearCertCandidate = some (bucketClearCert incident (clearBucketWith s incident echo)) ∧
      (clearStep cfg s ev).clearCertCandidateTimer = true := by
  obtain ⟨payload, rfl⟩ := h.received
  obtain ⟨e, hparse, hformed, rfl, rfl⟩ := broughtClear_received hbrought
  exact schedules_slot hparse hformed h

lemma echo_unscheduled {ev : ClearEvent} (hbrought : broughtClear cfg s ev = some (incident, echo))
    (h : ¬Schedules cfg s ev incident echo) :
    (clearStep cfg s ev).clearCertCandidate = s.clearCertCandidate ∧
      (clearStep cfg s ev).clearCertCandidateTimer = s.clearCertCandidateTimer := by
  cases ev with
  | clearEcho payload =>
    obtain ⟨e, hparse, hformed, rfl, rfl⟩ := broughtClear_received hbrought
    exact unscheduled_slot hparse hformed h
  | sendClearEcho own => exact sendClearEcho_kept.2
  | clearCert carrier packet => simp [broughtClear] at hbrought
  | candidateTimer => simp [broughtClear] at hbrought
  | collectedCerts certs => simp [broughtClear] at hbrought

lemma scheduled_bucket (h : s.clearEchoCollector.Heard s.heard) {ev : ClearEvent}
    (hbrought : broughtClear cfg s ev = some (incident, echo)) (hschedules : Schedules cfg s ev incident echo) :
    Scheduled cfg (clearStep cfg s ev) incident ↔
      cfg.faults + 1 + (hijacked (s.view cfg) (incidentStatement incident)
          (echoesOf (incidentStatement incident) (heardWith s incident echo)) (clearBucketWith s incident echo)).card ≤
        ((supporters (s.view cfg) (incidentStatement incident)
          (echoesOf (incidentStatement incident) (heardWith s incident echo))).card : ℤ) := by
  obtain ⟨hcandidate, htimer⟩ := echo_scheduled hbrought hschedules
  have hview : (clearStep cfg s ev).view cfg = s.view cfg := by
    rw [ClearState.view, (echo_step hbrought).1, ClearState.view]
  have hbucket : clearBucketWith s incident echo ⊆ echoesOf (incidentStatement incident) (heardWith s incident echo) :=
    EchoCollector.Heard.bucket h.add
  rw [← validateWitnesses_hijacked hbucket, Scheduled, hcandidate, htimer, hview]
  have hvalid := validateClearCert_bucket (s.view cfg) incident (clearBucketWith s incident echo)
  constructor
  · rintro ⟨-, cert, hcert, -, hok⟩
    cases hcert
    exact hvalid.symm.trans hok
  · intro hok
    exact ⟨rfl, _, rfl, rfl, hvalid.trans hok⟩

lemma echo_held (h : s.clearEchoCollector.Heard s.heard) (hheld : ClearHeld cfg s) {ev : ClearEvent}
    (hbrought : broughtClear cfg s ev = some (incident, echo)) :
    ClearHeld cfg (clearStep cfg s ev) ↔ EchoKept cfg s ev incident echo := by
  obtain ⟨hrollback, hheard⟩ := echo_step hbrought
  have happ : (clearStep cfg s ev).rollback.app = s.rollback.app := by rw [hrollback]
  have hawaits : ∀ i, Awaits cfg (clearStep cfg s ev) (clearStep cfg s ev).heard i ↔
      Awaits cfg s (heardWith s incident echo) i := fun i => by
    rw [hheard]
    exact awaits_congr happ (by rw [hrollback])
  constructor
  · intro hnext
    refine ⟨fun hschedules => ⟨fun other hother hwaits => ?_, fun hwaits => ?_⟩, fun hno hwaits => ?_⟩
    · obtain ⟨-, cert, hcert, hincident, -⟩ := hnext other ((hawaits other).mpr ((awaits_other hother).mpr hwaits))
      rw [(echo_scheduled hbrought hschedules).1] at hcert
      cases hcert
      exact hother hincident.symm
    · exact (scheduled_bucket h hbrought hschedules).mp (hnext incident ((hawaits incident).mpr hwaits))
    · obtain ⟨hcandidate, htimer⟩ := echo_unscheduled hbrought hno
      exact (scheduled_congr happ hcandidate htimer).mp (hnext incident ((hawaits incident).mpr hwaits))
  · intro hkept i hwaits
    replace hwaits := (hawaits i).mp hwaits
    by_cases hschedules : Schedules cfg s ev incident echo
    · obtain ⟨hothers, hcount⟩ := hkept.scheduled hschedules
      by_cases hsame : i = incident
      · subst hsame
        exact (scheduled_bucket h hbrought hschedules).mpr (hcount hwaits)
      · exact absurd ((awaits_other hsame).mp hwaits) (hothers i hsame)
    · obtain ⟨hcandidate, htimer⟩ := echo_unscheduled hbrought hschedules
      refine (scheduled_congr happ hcandidate htimer).mpr ?_
      by_cases hsame : i = incident
      · subst hsame
        exact hkept.unscheduled hschedules hwaits
      · exact hheld i ((awaits_other hsame).mp hwaits)

lemma carriedClear_member {carrier : ℤ} {packet : Bytes} {cert : ClearCert}
    (h : memberClear cfg s carrier packet = some cert)
    (hactive : carrier ∈ clearPropagationMembers cfg.toRollbackConfig s.rollback) :
    ∃ rawCert, carriedClear cfg.toRollbackConfig s.rollback carrier packet = some (cert, rawCert) := by
  obtain ⟨signed, hunpack, hsigned⟩ := Option.bind_eq_some_iff.mp h
  split at hsigned
  next hgates =>
    rw [Bool.and_assoc, Bool.and_eq_true] at hgates
    refine ⟨signed.content, ?_⟩
    rw [carriedClear, hunpack, Option.bind_some, if_pos]
    · exact Option.map_eq_some_iff.mpr ⟨cert, hsigned, rfl⟩
    · rw [Bool.and_assoc, Bool.and_eq_true]
      exact ⟨decide_eq_true hactive, hgates.2⟩
  next => simp at hsigned

lemma carriedClear_active {carrier : ℤ} {packet : Bytes} {carried : ClearCert × Bytes}
    (h : carriedClear cfg.toRollbackConfig s.rollback carrier packet = some carried) :
    carrier ∈ clearPropagationMembers cfg.toRollbackConfig s.rollback := by
  obtain ⟨signed, -, hsigned⟩ := Option.bind_eq_some_iff.mp h
  split at hsigned
  next hgates =>
    rw [Bool.and_assoc, Bool.and_eq_true] at hgates
    exact of_decide_eq_true hgates.1
  next => simp at hsigned

lemma handleClearCert_refused {carrier : ℤ} {packet : Bytes}
    (h : cfg.enableRollback = true → carriedClear cfg.toRollbackConfig s.rollback carrier packet = none) :
    s.handleClearCert cfg carrier packet = s := by
  rw [ClearState.handleClearCert]
  split
  · rfl
  next hon => rw [h (by simpa using hon)]

lemma handleClearCert_accepted {carrier : ℤ} {packet rawCert : Bytes} {cert : ClearCert}
    (henabled : cfg.enableRollback = true)
    (h : carriedClear cfg.toRollbackConfig s.rollback carrier packet = some (cert, rawCert)) :
    (s.handleClearCert cfg carrier packet).rollback.app = s.rollback.app ∧
      (s.handleClearCert cfg carrier packet).clearCertCandidate = none ∧
      ∀ other, incidentState (s.handleClearCert cfg carrier packet).rollback other =
        if clearedIncident cert = other ∧ incidentState s.rollback other = .blocking then .cleared
        else incidentState s.rollback other := by
  rw [ClearState.handleClearCert, henabled, h]
  refine ⟨onIncidentCleared_app rawCert, ?_, onIncidentCleared_state rawCert⟩
  dsimp only [Bool.not_true]
  rw [if_neg (by simp), ClearState.onIncidentCleared]
  split <;> rfl

lemma certificate_adopted {carrier : ℤ} {packet : Bytes} :
    ClearAdopted cfg s (.clearCert carrier packet) ↔
      ∀ cert, memberClear cfg s carrier packet = some cert →
        incidentState s.rollback (clearedIncident cert) = .blocking →
          cfg.enableRollback = true ∧ carrier ∈ clearPropagationMembers cfg.toRollbackConfig s.rollback := by
  refine forall₃_congr fun cert hcert hblocking => ?_
  change incidentState (s.handleClearCert cfg carrier packet).rollback (clearedIncident cert) = .cleared ↔ _
  constructor
  · intro hcleared
    have hchanged : s.handleClearCert cfg carrier packet ≠ s := fun hsame => by
      rw [hsame, hblocking] at hcleared
      simp at hcleared
    by_contra hno
    refine hchanged (handleClearCert_refused fun henabled => ?_)
    by_contra hcarried
    obtain ⟨carried, hcarried⟩ := Option.ne_none_iff_exists'.mp hcarried
    exact hno ⟨henabled, carriedClear_active hcarried⟩
  · rintro ⟨henabled, hactive⟩
    obtain ⟨rawCert, hcarried⟩ := carriedClear_member hcert hactive
    rw [(handleClearCert_accepted henabled hcarried).2.2, if_pos ⟨rfl, hblocking⟩]

lemma certificate_held (hheld : ClearHeld cfg s) {carrier : ℤ} {packet : Bytes} :
    ClearHeld cfg (clearStep cfg s (.clearCert carrier packet)) ↔
      ∀ cert rawCert, cfg.enableRollback = true →
        carriedClear cfg.toRollbackConfig s.rollback carrier packet = some (cert, rawCert) →
          OthersSettled cfg s (clearedIncident cert) := by
  by_cases haccepted : cfg.enableRollback = true ∧
      ∃ carried, carriedClear cfg.toRollbackConfig s.rollback carrier packet = some carried
  · obtain ⟨henabled, ⟨cert, rawCert⟩, hcarried⟩ := haccepted
    obtain ⟨hkept, hnone, hstate⟩ := handleClearCert_accepted henabled hcarried
    have happ : (clearStep cfg s (.clearCert carrier packet)).rollback.app = s.rollback.app := hkept
    have hfree : ∀ i, ¬Scheduled cfg (clearStep cfg s (.clearCert carrier packet)) i := by
      rintro i ⟨-, _, hsome, -⟩
      exact absurd (hnone.symm.trans hsome) (by simp)
    constructor
    · intro hnext cert' rawCert' _ hcarried' other hother hwaits
      cases hcarried.symm.trans hcarried'
      refine hfree other (hnext other ((awaits_congr happ ?_).mpr hwaits))
      exact (hstate other).trans (if_neg fun hsame => hother hsame.1.symm)
    · intro hothers i hwaits
      by_cases hsame : clearedIncident cert = i
      · have hblocking : incidentState (s.handleClearCert cfg carrier packet).rollback i = .blocking := hwaits.blocking
        rw [hstate] at hblocking
        split at hblocking
        · simp at hblocking
        next hno => exact absurd ⟨hsame, hblocking⟩ hno
      · refine absurd ((awaits_congr happ ?_).mp hwaits) (hothers cert rawCert henabled hcarried i (Ne.symm hsame))
        exact (hstate i).trans (if_neg fun hno => hsame hno.1)
  · have hrefused : s.handleClearCert cfg carrier packet = s := handleClearCert_refused fun henabled => by
      by_contra hcarried
      exact haccepted ⟨henabled, Option.ne_none_iff_exists'.mp hcarried⟩
    have hkept : ClearHeld cfg (clearStep cfg s (.clearCert carrier packet)) := by
      have hsame : clearStep cfg s (.clearCert carrier packet) = s := by
        change { s.handleClearCert cfg carrier packet with heard := s.heard } = s
        rw [hrefused]
      rwa [hsame]
    exact iff_of_true hkept fun cert rawCert henabled hcarried => absurd ⟨henabled, _, hcarried⟩ haccepted

lemma fires_cleared (hscheduled : Scheduled cfg s incident) (hblocking : incidentState s.rollback incident = .blocking)
    (happlied : s.rollback.app.orderApplied = false) :
    incidentState (s.candidateTimerFires cfg).rollback incident = .cleared := by
  obtain ⟨-, cert, hcandidate, rfl, hvalid⟩ := hscheduled
  rw [ClearState.candidateTimerFires, hcandidate]
  dsimp only
  rw [if_neg (by simp [hblocking, happlied]), ClearState.broadcastClearCert]
  change incidentState (ClearState.rollback (if validateClearCert (s.view cfg) cert = true then _ else _))
    (clearedIncident cert) = _
  rw [if_pos hvalid, onIncidentCleared_state]
  exact if_pos ⟨rfl, hblocking⟩

lemma timer_held (hheld : ClearHeld cfg s) :
    ClearHeld cfg (clearStep cfg s .candidateTimer) ↔ keepsClear cfg s .candidateTimer := by
  rw [keepsClear]
  cases htimer : s.clearCertCandidateTimer with
  | false =>
    have hsame : clearStep cfg s .candidateTimer = s := by
      change { (if s.clearCertCandidateTimer then s.candidateTimerFires cfg else s) with heard := s.heard } = s
      rw [htimer]
      rfl
    rw [hsame]
    exact iff_of_true hheld (by simp)
  | true =>
    have hstep : clearStep cfg s .candidateTimer = { s.candidateTimerFires cfg with heard := s.heard } := by
      change { (if s.clearCertCandidateTimer then s.candidateTimerFires cfg else s) with heard := s.heard } = _
      rw [htimer]
      rfl
    have hfree : ∀ i, ¬Scheduled cfg (clearStep cfg s .candidateTimer) i := by
      rw [hstep]
      exact fun i hscheduled => Bool.false_ne_true (fires_timer.symm.trans hscheduled.1)
    have happ : (clearStep cfg s .candidateTimer).rollback.app = s.rollback.app := by
      rw [hstep]
      exact fires_app
    have hwaited : ∀ i, Awaits cfg (clearStep cfg s .candidateTimer) s.heard i → Awaits cfg s s.heard i := by
      intro i hwaits
      have hblocking := hwaits.blocking
      rw [hstep] at hblocking
      refine (awaits_congr happ ?_).mp hwaits
      rw [hstep, fires_blocking hblocking]
      exact hblocking
    constructor
    · intro hnext _ happlied i hwaits
      refine hfree i (hnext i ((awaits_congr happ ?_).mpr hwaits))
      rw [hstep, ClearState.candidateTimerFires]
      dsimp only
      split
      · rfl
      · rw [if_pos (Or.inr happlied)]
        rfl
    · intro hguard i hwaits
      have hbefore := hwaited i hwaits
      cases happlied : s.rollback.app.orderApplied with
      | true => exact absurd hbefore (hguard rfl happlied i)
      | false =>
        have hcleared := fires_cleared (hheld i hbefore) hbefore.blocking happlied
        have hblocking := hwaits.blocking
        rw [hstep] at hblocking
        rw [hcleared] at hblocking
        simp at hblocking

lemma silent_held {ev : ClearEvent} (hbrought : broughtClear cfg s ev = none)
    (hev : (∃ payload, ev = .clearEcho payload) ∨ (∃ own, ev = .sendClearEcho own) ∨
      ∃ certs, ev = .collectedCerts certs) :
    ClearHeld cfg (clearStep cfg s ev) ↔ ClearHeld cfg s := by
  have hheard : (clearStep cfg s ev).heard = s.heard := by rw [clearStep, hbrought]
  rcases hev with ⟨payload, rfl⟩ | ⟨own, rfl⟩ | ⟨certs, rfl⟩
  · have hsame : clearHandled cfg s (.clearEcho payload) = s := handleClearEcho_unformed hbrought
    have hkept : clearStep cfg s (.clearEcho payload) = s := by
      rw [clearStep, hbrought, hsame]
    rw [hkept]
  · obtain ⟨hrollback, hcandidate, htimer⟩ := @sendClearEcho_kept cfg s own
    refine held_congr ?_ ?_ hcandidate htimer hheard
    · exact congrArg RollbackState.app hrollback
    · exact congrArg RollbackState.incidentRegistry hrollback
  · exact held_congr rfl rfl rfl rfl hheard

lemma clear_step (h : s.clearEchoCollector.Heard s.heard) (hheld : ClearHeld cfg s) (ev : ClearEvent) :
    ClearHeld cfg (clearStep cfg s ev) ∧ ClearAdopted cfg s ev ↔ keepsClear cfg s ev := by
  have hecho : ((∃ payload, ev = .clearEcho payload) ∨ (∃ own, ev = .sendClearEcho own) ∨
      ∃ certs, ev = .collectedCerts certs) → (ClearHeld cfg (clearStep cfg s ev) ↔
        ∀ incident echo, broughtClear cfg s ev = some (incident, echo) → EchoKept cfg s ev incident echo) := by
    intro hev
    cases hbrought : broughtClear cfg s ev with
    | none => exact iff_of_true ((silent_held hbrought hev).mpr hheld) (by simp)
    | some brought =>
      obtain ⟨incident, echo⟩ := brought
      rw [echo_held h hheld hbrought]
      constructor
      · intro hkept i e hsame
        cases hsame
        exact hkept
      · exact fun hkept => hkept incident echo rfl
  cases ev with
  | clearEcho payload => exact (and_iff_left trivial).trans (hecho (Or.inl ⟨payload, rfl⟩))
  | sendClearEcho own => exact (and_iff_left trivial).trans (hecho (Or.inr (Or.inl ⟨own, rfl⟩)))
  | clearCert carrier packet => exact and_congr (certificate_held hheld) certificate_adopted
  | candidateTimer => exact (and_iff_left trivial).trans (timer_held hheld)
  | collectedCerts certs => exact (and_iff_left trivial).trans (hecho (Or.inr (Or.inr ⟨certs, rfl⟩)))

theorem clearHeld_iff (cfg : WitnessConfig) (s : RollbackState) (seen : List Bytes) (events : List ClearEvent) :
    (∀ pre post, events = pre ++ post → ClearHeld cfg (run (clearStep cfg) (.start s seen) pre)) ∧
        (∀ pre ev post, events = pre ++ ev :: post → ClearAdopted cfg (run (clearStep cfg) (.start s seen) pre) ev) ↔
      Guarded (clearStep cfg) (keepsClear cfg) (.start s seen) events := by
  have hstart : ClearHeld cfg (.start s seen) := fun incident hwaits => by
    simpa [ClearState.start] using hwaits.known
  have hempty : (ClearState.start s seen).clearEchoCollector.Heard (ClearState.start s seen).heard :=
    fun entry hentry => by simp [ClearState.start, EchoCollector.empty] at hentry
  have hiff : ∀ t ev, t.clearEchoCollector.Heard t.heard ∧ ClearHeld cfg t →
      (keepsClear cfg t ev ↔ ClearHeld cfg (clearStep cfg t ev) ∧ ClearAdopted cfg t ev) :=
    fun t ev hsound => (clear_step hsound.1 hsound.2 ev).symm
  have hstep : ∀ t ev, t.clearEchoCollector.Heard t.heard ∧ ClearHeld cfg t → keepsClear cfg t ev →
      (clearStep cfg t ev).clearEchoCollector.Heard (clearStep cfg t ev).heard ∧ ClearHeld cfg (clearStep cfg t ev) :=
    fun t ev hsound hok => ⟨clearStep_collector hsound.1 ev, ((hiff t ev hsound).mp hok).1⟩
  rw [forall_prefix_iff, forall_step_iff, and_iff_right hstart, guarded_congr hiff hstep ⟨hempty, hstart⟩]
  exact ⟨fun hboth => hboth.1.and hboth.2, fun hboth => ⟨hboth.mono fun _ _ h => h.1, hboth.mono fun _ _ h => h.2⟩⟩

def stamped (pubKey msg : Bytes) : Bytes := pubKey.take 1 ++ [msg.foldl (fun acc b => acc * 31 + b) 7]

def clearCars : WitnessConfig where
  toRollbackConfig :=
    { fourRollbackCars with
      registeredKeys := [(0, carKey 0), (1, carKey 1), (2, carKey 2), (3, carKey 3)]
      verifyBytes := fun pubKey msg sig => decide (sig = stamped pubKey msg) }
  ecPubKey := carKey 2
  signBytes := fun msg => some (stamped (carKey 2) msg)

def stampedKey (stmt : WitnessStatement) (signer : ℕ) : Bytes :=
  toHex (carKey signer) ++ ascii "," ++ toHex (stamped (carKey signer) (stmt.signPayload signer))

def echoedByTwo (stmt : WitnessStatement) : Bytes :=
  ascii "|0:" ++ stampedKey stmt 0 ++ ascii "|1:" ++ stampedKey stmt 1

def blockedCars : ClearState :=
  .start (run (rollbackStep clearCars.toRollbackConfig) .initial
    [.orderDecided (orderDecisionBytes 0 [(0, 0), (1, 0), (2, 1)]), .processOrder false [] (stopped 5),
      .cancelCert 0 (ascii "CANCEL_CERT|0|0|blocked_batch:0:1" ++ echoedByTwo batchBlocked) (stopped 6),
      .orderDecided (crashCancelBytes 0), .processOrder false [] (stopped 8)]) []

def batchClear : BlockedIncident := ⟨0, 1⟩

def clearEchoFrom (signer : ℕ) : ClearEvent :=
  .clearEcho (ascii "CLEAR_ECHO|0|1|" ++ decimalNat signer ++ ascii "|" ++ stampedKey (incidentStatement batchClear) signer)

def clearByTwo : Bytes := ascii "CLEAR_CERT|0|1" ++ echoedByTwo (incidentStatement batchClear)

def clearPacket (carrier : ℕ) : Bytes := carKey carrier ++ [2] ++ stamped (carKey carrier) clearByTwo ++ clearByTwo

def strangerFirst : List ClearEvent := [clearEchoFrom 3, clearEchoFrom 0, clearEchoFrom 1]

def ownClearLast : List ClearEvent := [clearEchoFrom 0, .sendClearEcho batchClear]

def oneCertLost : List ClearEvent := [.collectedCerts [myCarId 0, myCarId 2]]

lemma not_held (hblocking : incidentState s.rollback batchClear = .blocking)
    (hknown : incidentStatement batchClear ∈ s.heard.map Prod.fst)
    (hcount : cfg.faults + 1 ≤
      ((supporters (s.view cfg) (incidentStatement batchClear)
        (echoesOf (incidentStatement batchClear) s.heard)).card : ℤ))
    (hinvalid : s.clearCertCandidate.all (fun cert => !validateClearCert (s.view cfg) cert) = true) :
    ¬ClearHeld cfg s := by
  intro hheld
  obtain ⟨-, cert, hcert, -, hvalid⟩ := hheld batchClear ⟨hblocking, hknown, hcount⟩
  simp [hcert, hvalid] at hinvalid

-- a certificate with the echo of a car outside the ORDER silences the members, the own echo is not counted when it comes
-- last, and a member whose arrival certificate was lost does not pass as a carrier
theorem clearEchoes_silenced :
    ¬ClearHeld clearCars (run (clearStep clearCars) blockedCars strangerFirst) ∧
      ¬ClearHeld clearCars (run (clearStep clearCars) blockedCars ownClearLast) ∧
      ¬ClearAdopted clearCars (run (clearStep clearCars) blockedCars oneCertLost) (.clearCert 1 (clearPacket 1)) := by
  refine ⟨not_held (by decide +kernel) (by decide +kernel) (by decide +kernel) (by decide +kernel),
    not_held (by decide +kernel) (by decide +kernel) (by decide +kernel) (by decide +kernel), fun hadopted => ?_⟩
  have hcert : (memberClear clearCars (run (clearStep clearCars) blockedCars oneCertLost) 1 (clearPacket 1)).map
      clearedIncident = some batchClear := by decide +kernel
  obtain ⟨cert, hcarried, hincident⟩ := Option.map_eq_some_iff.mp hcert
  have hcleared := hadopted cert hcarried (by rw [hincident]; decide +kernel)
  rw [hincident] at hcleared
  exact absurd hcleared (by decide +kernel)

example : ((run (clearStep clearCars) blockedCars [clearEchoFrom 0, clearEchoFrom 1]).clearCertCandidate.map
    clearedIncident) = some batchClear := by decide +kernel

end V2vBft.Rollback
