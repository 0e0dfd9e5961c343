import V2vBft.Arrival.DistanceClaimant

/-! The witness of stopped distances: one sensor reading for each attestation, not for each car and epoch. -/

namespace V2vBft.Arrival

open Wire App Library Library.GuardedRun

-- observedCm is llround(observedDistanceToStopM * 100)
structure StoppedDistancePerceptionSample where
  detected : Bool
  stationary : Bool
  distanceValid : Bool
  observedCm : ℤ
  deriving DecidableEq, Repr

def StoppedDistancePerceptionSample.none : StoppedDistancePerceptionSample := ⟨false, false, false, 0⟩

-- toleranceCm is llround(physicalGateK * longitudinalObservationSigmaM * 100)
structure DistanceConfig extends ArrivalConfig where
  toleranceCm : ℤ
  colludesFor : Bytes → Bool

-- `perceived` observes the attestations the sensor was read for and `signed` the echoes, the newest first
structure DistanceWitness where
  node : ArrivalNode
  stoppedDistanceSamples : List (Bytes × StoppedDistancePerceptionSample)
  pendingDistanceAttestations : List (Bytes × StoppedDistanceAttestation)
  perceived : List StoppedDistanceAttestation
  signed : List StoppedDistanceEcho

def DistanceWitness.initial : DistanceWitness := ⟨.initial, [], [], [], []⟩

structure DistanceInputs where
  gates : Gates
  observe : StoppedDistanceAttestation → StoppedDistancePerceptionSample
  sign : Bytes → Option Bytes

def pendingKey (att : StoppedDistanceAttestation) : Bytes :=
  att.targetCarId ++ ascii ":" ++ decimalInt att.epoch ++ ascii ":" ++ toHex att.earlyClaimHash

def sampleKey (cfg : ArrivalConfig) (att : StoppedDistanceAttestation) : Bytes :=
  decimalInt cfg.replicaId ++ ascii ":" ++ att.targetCarId ++ ascii ":" ++ decimalInt att.epoch ++ ascii ":" ++
    toHex (stoppedDistanceAttestationHash cfg att)

def withinTolerance (cfg : DistanceConfig) (sample : StoppedDistancePerceptionSample) (att : StoppedDistanceAttestation) :
    Bool :=
  sample.detected && sample.stationary && sample.distanceValid &&
    decide (((sample.observedCm - att.distanceToStopCm).natAbs : ℤ) ≤ cfg.toleranceCm)

def ArrivalState.bound (s : ArrivalState) (att : StoppedDistanceAttestation) : Bool :=
  decide (s.localClaimHashes.lookup att.targetCarId = some att.earlyClaimHash) ||
    decide ((s.collectedCerts.lookup att.targetCarId).map ArrivalCert.claimHash = some att.earlyClaimHash)

-- a map of the source: sorted by the keys, and the first entry of a key stays
def emplace (key : Bytes) (att : StoppedDistanceAttestation) (pending : List (Bytes × StoppedDistanceAttestation)) :
    List (Bytes × StoppedDistanceAttestation) :=
  if key ∈ pending.map Prod.fst then pending
  else pending.orderedInsert (fun a b => a.1 ≤ b.1) (key, att)

def DistanceWitness.sendEcho (cfg : DistanceConfig) (s : DistanceWitness) (att : StoppedDistanceAttestation)
    (sign : Bytes → Option Bytes) : DistanceWitness :=
  let echo := (distanceEchoOf cfg.toArrivalConfig att []).toStoppedDistanceEcho
  match sign (stoppedDistanceEchoSigningPayload echo) with
  | none => s
  | some signature => { s with signed := { echo with signature := signature } :: s.signed }

def DistanceWitness.perceive (cfg : DistanceConfig) (s : DistanceWitness) (i : DistanceInputs)
    (att : StoppedDistanceAttestation) : DistanceWitness :=
  let key := sampleKey cfg.toArrivalConfig att
  if key ∈ s.stoppedDistanceSamples.map Prod.fst then s
  else
    let colluding := cfg.colludesFor att.targetCarId
    let sample := if colluding then .none else i.observe att
    let s := { s with
      stoppedDistanceSamples := (key, sample) :: s.stoppedDistanceSamples
      perceived := if colluding then s.perceived else att :: s.perceived }
    if colluding || withinTolerance cfg sample att then s.sendEcho cfg att i.sign else s

def DistanceWitness.admits (cfg : DistanceConfig) (s : DistanceWitness) (g : Gates) (att : StoppedDistanceAttestation) :
    Bool :=
  validateStoppedDistanceAttestation cfg.toArrivalConfig s.node.app att && !g.proposeSubmitted &&
    !s.node.app.orderApplied && !g.departed

def DistanceWitness.consider (cfg : DistanceConfig) (s : DistanceWitness) (i : DistanceInputs)
    (att : StoppedDistanceAttestation) : DistanceWitness :=
  if !s.admits cfg i.gates att then s
  else if s.node.arrival.bound att then s.perceive cfg i att
  else { s with pendingDistanceAttestations := emplace (pendingKey att) att s.pendingDistanceAttestations }

def DistanceWitness.handleStoppedDistanceAttestation (cfg : DistanceConfig) (s : DistanceWitness) (i : DistanceInputs)
    (payload : Bytes) : DistanceWitness :=
  match deserializeStoppedDistanceAttestation payload with
  | .value att => s.consider cfg i att
  | _ => s

-- an entry leaves the map and is sent through the handler; the handler may put it back, behind the iterator
def DistanceWitness.processPendingStoppedDistanceAttestation (cfg : DistanceConfig) (s : DistanceWitness)
    (i : DistanceInputs) (carId : Bytes) : DistanceWitness :=
  (s.pendingDistanceAttestations.filter fun entry => decide (entry.2.targetCarId = carId)).foldl
    (fun s entry =>
      ({ s with
          pendingDistanceAttestations := s.pendingDistanceAttestations.filter fun e => decide (e.1 ≠ entry.1) } :
        DistanceWitness).handleStoppedDistanceAttestation cfg i (serializeStoppedDistanceAttestation entry.2))
    s

inductive DistanceWitnessEvent
  | arrival (ev : ArrivalEvent) (i : DistanceInputs)
  | attestation (payload : Bytes) (i : DistanceInputs)

def storedCert (cfg : ArrivalConfig) (n : ArrivalNode) : ArrivalEvent → Option ArrivalCert
  | .cert cert =>
    if cert.carId = [] ∨ validateArrivalCert cfg cert = false ∨ (n.arrival.collectedCerts.lookup cert.carId).isSome then
      none
    else some cert
  | _ => none

def forgetsDistances (cfg : ArrivalConfig) (n : ArrivalNode) : ArrivalEvent → Bool
  | .app ev => restartsDiscovery cfg.toAppConfig n.app ev
  | _ => false

def distanceWitnessStep (cfg : DistanceConfig) (s : DistanceWitness) : DistanceWitnessEvent → DistanceWitness
  | .arrival ev i =>
    let moved := { s with node := (arrivalStep cfg.toArrivalConfig s.node ev).1 }
    if forgetsDistances cfg.toArrivalConfig s.node ev then
      { moved with stoppedDistanceSamples := [], pendingDistanceAttestations := [] }
    else
      match storedCert cfg.toArrivalConfig s.node ev with
      | none => moved
      | some cert => moved.processPendingStoppedDistanceAttestation cfg i cert.carId
  | .attestation payload i => s.handleStoppedDistanceAttestation cfg i payload

variable {cfg : DistanceConfig} {s s' : DistanceWitness} {i : DistanceInputs} {att : StoppedDistanceAttestation}

def DistanceConfig.Honest (cfg : DistanceConfig) : Prop := ∀ carId, cfg.colludesFor carId = false

def attestedFor (att : StoppedDistanceAttestation) : Bytes × ℤ := (att.targetCarId, att.epoch)

def echoedFor (echo : StoppedDistanceEcho) : Bytes × ℤ := (echo.targetCarId, echo.epoch)

structure OneVerdict (s : DistanceWitness) : Prop where
  perceived : (s.perceived.map attestedFor).Nodup
  signed : ∀ e ∈ s.signed, ∀ e' ∈ s.signed, echoedFor e = echoedFor e' → e.distanceToStopCm = e'.distanceToStopCm

def DistanceWitness.Relevant (cfg : DistanceConfig) (s : DistanceWitness) (g : Gates) (att : StoppedDistanceAttestation) :
    Prop := s.admits cfg g att = true ∧ s.node.arrival.bound att = true

def DistanceWitness.Sampled (cfg : DistanceConfig) (s : DistanceWitness) (att : StoppedDistanceAttestation) : Prop :=
  sampleKey cfg.toArrivalConfig att ∈ s.stoppedDistanceSamples.map Prod.fst

structure Quiet (s s' : DistanceWitness) : Prop where
  node : s'.node = s.node
  samples : s'.stoppedDistanceSamples = s.stoppedDistanceSamples
  perceived : s'.perceived = s.perceived
  signed : s'.signed = s.signed

structure Perceived (s s' : DistanceWitness) (att : StoppedDistanceAttestation) : Prop where
  node : s'.node = s.node
  perceived : s'.perceived = att :: s.perceived
  signed : ∀ e ∈ s'.signed, e ∈ s.signed ∨ echoedFor e = attestedFor att ∧ e.distanceToStopCm = att.distanceToStopCm

lemma Quiet.refl (s : DistanceWitness) : Quiet s s := ⟨rfl, rfl, rfl, rfl⟩

lemma Quiet.trans {s'' : DistanceWitness} (h : Quiet s s') (h' : Quiet s' s'') : Quiet s s'' :=
  ⟨h'.node.trans h.node, h'.samples.trans h.samples, h'.perceived.trans h.perceived, h'.signed.trans h.signed⟩

lemma Quiet.relevant (h : Quiet s s') (g : Gates) (att : StoppedDistanceAttestation) :
    s'.Relevant cfg g att ↔ s.Relevant cfg g att := by
  rw [DistanceWitness.Relevant, DistanceWitness.Relevant, DistanceWitness.admits, DistanceWitness.admits, h.node]

lemma perceive_perceived (hcfg : cfg.Honest) (hnew : ¬ s.Sampled cfg att) : Perceived s (s.perceive cfg i att) att := by
  have hsend : ∀ s' : DistanceWitness, s'.node = s.node → s'.perceived = att :: s.perceived → s'.signed = s.signed →
      Perceived s (s'.sendEcho cfg att i.sign) att := by
    intro s' hnode hperceived hsigned
    rw [DistanceWitness.sendEcho]
    split
    next => exact ⟨hnode, hperceived, fun e he => Or.inl (hsigned ▸ he)⟩
    next =>
      refine ⟨hnode, hperceived, fun e he => ?_⟩
      rcases List.mem_cons.mp he with rfl | hold
      · exact Or.inr ⟨rfl, rfl⟩
      · exact Or.inl (hsigned ▸ hold)
  have hnew : sampleKey cfg.toArrivalConfig att ∉ s.stoppedDistanceSamples.map Prod.fst := hnew
  rw [DistanceWitness.perceive, if_neg hnew]
  simp only [hcfg att.targetCarId, Bool.false_eq_true, if_false]
  split
  next => exact hsend _ rfl rfl rfl
  next => exact ⟨rfl, rfl, fun e he => Or.inl he⟩

lemma consider_cases (hcfg : cfg.Honest) (s : DistanceWitness) (i : DistanceInputs) (att : StoppedDistanceAttestation) :
    s.Relevant cfg i.gates att ∧ ¬ s.Sampled cfg att ∧ Perceived s (s.consider cfg i att) att ∨
      (s.Relevant cfg i.gates att → s.Sampled cfg att) ∧ Quiet s (s.consider cfg i att) := by
  rw [DistanceWitness.consider]
  cases hadmits : s.admits cfg i.gates att with
  | false => exact Or.inr ⟨fun h => absurd h.1 (by simp [hadmits]), Quiet.refl s⟩
  | true =>
    rw [Bool.not_true, if_neg (by simp)]
    cases hbound : s.node.arrival.bound att with
    | false => exact Or.inr ⟨fun h => absurd h.2 (by simp [hbound]), ⟨rfl, rfl, rfl, rfl⟩⟩
    | true =>
      rw [if_pos rfl]
      by_cases hsampled : s.Sampled cfg att
      · have hsame : s.perceive cfg i att = s := by rw [DistanceWitness.perceive]; exact if_pos hsampled
        rw [hsame]
        exact Or.inr ⟨fun _ => hsampled, Quiet.refl s⟩
      · exact Or.inl ⟨⟨hadmits, hbound⟩, hsampled, perceive_perceived hcfg hsampled⟩

structure Kept (s : DistanceWitness) : Prop where
  keyed : ∀ e ∈ s.pendingDistanceAttestations, e.1 = pendingKey e.2 ∧ e.2.Fits
  distinct : (s.pendingDistanceAttestations.map Prod.fst).Nodup
  signed : ∀ e ∈ s.signed, ∃ a ∈ s.perceived, echoedFor e = attestedFor a ∧ e.distanceToStopCm = a.distanceToStopCm

lemma Kept.initial : Kept .initial :=
  ⟨fun _ he => absurd he List.not_mem_nil, List.nodup_nil, fun _ he => absurd he List.not_mem_nil⟩

lemma mem_emplace {key : Bytes} {pending : List (Bytes × StoppedDistanceAttestation)}
    {e : Bytes × StoppedDistanceAttestation} (h : e ∈ emplace key att pending) : e = (key, att) ∨ e ∈ pending := by
  rw [emplace] at h
  split at h
  next => exact Or.inr h
  next => exact (List.mem_orderedInsert _).mp h

lemma emplace_nodup {key : Bytes} {pending : List (Bytes × StoppedDistanceAttestation)}
    (h : (pending.map Prod.fst).Nodup) : ((emplace key att pending).map Prod.fst).Nodup := by
  rw [emplace]
  split
  next => exact h
  next hnew =>
    have hperm := (List.perm_orderedInsert (fun a b : Bytes × StoppedDistanceAttestation => a.1 ≤ b.1) (key, att)
      pending).map Prod.fst
    rw [hperm.nodup_iff, List.map_cons, List.nodup_cons]
    exact ⟨hnew, h⟩

lemma perceive_pending (cfg : DistanceConfig) (s : DistanceWitness) (i : DistanceInputs)
    (att : StoppedDistanceAttestation) :
    (s.perceive cfg i att).pendingDistanceAttestations = s.pendingDistanceAttestations := by
  have hsend : ∀ s' : DistanceWitness,
      (s'.sendEcho cfg att i.sign).pendingDistanceAttestations = s'.pendingDistanceAttestations := by
    intro s'
    rw [DistanceWitness.sendEcho]
    split <;> rfl
  rw [DistanceWitness.perceive]
  split
  · rfl
  · simp only [apply_ite DistanceWitness.pendingDistanceAttestations, hsend, ite_self]

lemma Kept.next (h : Kept s)
    (hpending : ∀ e ∈ s'.pendingDistanceAttestations, e ∈ s.pendingDistanceAttestations ∨ e.1 = pendingKey e.2 ∧ e.2.Fits)
    (hdistinct : (s'.pendingDistanceAttestations.map Prod.fst).Nodup) (hmoved : Quiet s s' ∨ ∃ att, Perceived s s' att) :
    Kept s' := by
  refine ⟨fun e he => (hpending e he).elim (h.keyed e) id, hdistinct, fun e he => ?_⟩
  rcases hmoved with hquiet | ⟨att, hperceived⟩
  · rw [hquiet.signed] at he
    rw [hquiet.perceived]
    exact h.signed e he
  · rw [hperceived.perceived]
    rcases hperceived.signed e he with hold | hnew
    · obtain ⟨a, ha, hsame⟩ := h.signed e hold
      exact ⟨a, List.mem_cons_of_mem att ha, hsame⟩
    · exact ⟨att, List.mem_cons_self, hnew⟩

lemma Kept.consider (hcfg : cfg.Honest) (h : Kept s) (i : DistanceInputs) (hfits : att.signature ≠ [] → att.Fits) :
    Kept (s.consider cfg i att) := by
  have hmoved : Quiet s (s.consider cfg i att) ∨ ∃ att', Perceived s (s.consider cfg i att) att' :=
    (consider_cases hcfg s i att).elim (fun hlooks => Or.inr ⟨att, hlooks.2.2⟩) fun hquiet => Or.inl hquiet.2
  revert hmoved
  rw [DistanceWitness.consider]
  split
  next => exact fun _ => h
  next hadmits =>
    split
    next =>
      intro hmoved
      have hpending := perceive_pending cfg s i att
      exact h.next (fun e he => Or.inl (hpending ▸ he)) (hpending ▸ h.distinct) hmoved
    next =>
      intro hmoved
      have hsigned : att.signature ≠ [] := by
        intro hnone
        simp [DistanceWitness.admits, validateStoppedDistanceAttestation, hnone] at hadmits
      refine h.next (fun e he => ?_) (emplace_nodup h.distinct) hmoved
      rcases mem_emplace he with rfl | hold
      · exact Or.inr ⟨rfl, hfits hsigned⟩
      · exact Or.inl hold

def DistanceWitness.resume (cfg : DistanceConfig) (i : DistanceInputs) (s : DistanceWitness)
    (entry : Bytes × StoppedDistanceAttestation) : DistanceWitness :=
  DistanceWitness.consider cfg
    { s with pendingDistanceAttestations := s.pendingDistanceAttestations.filter fun e => decide (e.1 ≠ entry.1) } i
    entry.2

lemma erase_quiet (s : DistanceWitness) (key : Bytes) :
    Quiet s { s with pendingDistanceAttestations := s.pendingDistanceAttestations.filter fun e => decide (e.1 ≠ key) } :=
  ⟨rfl, rfl, rfl, rfl⟩

lemma resume_cases (hcfg : cfg.Honest) (s : DistanceWitness) (i : DistanceInputs)
    (entry : Bytes × StoppedDistanceAttestation) :
    s.Relevant cfg i.gates entry.2 ∧ ¬ s.Sampled cfg entry.2 ∧ Perceived s (s.resume cfg i entry) entry.2 ∨
      (s.Relevant cfg i.gates entry.2 → s.Sampled cfg entry.2) ∧ Quiet s (s.resume cfg i entry) := by
  have herase := erase_quiet s entry.1
  rcases consider_cases hcfg { s with
      pendingDistanceAttestations := s.pendingDistanceAttestations.filter fun e => decide (e.1 ≠ entry.1) } i entry.2 with
    ⟨hrelevant, hnew, hperceived⟩ | ⟨hno, hquiet⟩
  · exact Or.inl ⟨hrelevant, hnew, hperceived.node, hperceived.perceived, hperceived.signed⟩
  · exact Or.inr ⟨hno, herase.trans hquiet⟩

lemma Kept.erase (h : Kept s) (key : Bytes) :
    Kept { s with pendingDistanceAttestations := s.pendingDistanceAttestations.filter fun e => decide (e.1 ≠ key) } :=
  ⟨fun e he => h.keyed e (List.mem_of_mem_filter he), (List.filter_sublist.map Prod.fst).nodup h.distinct, h.signed⟩

lemma resumeAll_kept (hcfg : cfg.Honest) (i : DistanceInputs) {entries : List (Bytes × StoppedDistanceAttestation)}
    (hfits : ∀ e ∈ entries, e.2.Fits) (h : Kept s) : Kept (entries.foldl (DistanceWitness.resume cfg i) s) := by
  induction entries generalizing s with
  | nil => exact h
  | cons e entries ih =>
    obtain ⟨hfirst, hrest⟩ := List.forall_mem_cons.mp hfits
    exact ih hrest ((h.erase e.1).consider hcfg i fun _ => hfirst)

lemma resumeAll_quiet (hcfg : cfg.Honest) (i : DistanceInputs) {entries : List (Bytes × StoppedDistanceAttestation)}
    (h : ∀ e ∈ entries, s.Relevant cfg i.gates e.2 → s.Sampled cfg e.2) :
    Quiet s (entries.foldl (DistanceWitness.resume cfg i) s) := by
  induction entries generalizing s with
  | nil => exact Quiet.refl s
  | cons e entries ih =>
    obtain ⟨hfirst, hrest⟩ := List.forall_mem_cons.mp h
    rcases resume_cases hcfg s i e with ⟨hrelevant, hnew, -⟩ | ⟨-, hquiet⟩
    · exact absurd (hfirst hrelevant) hnew
    · refine hquiet.trans (ih fun e' he' hrelevant => ?_)
      rw [DistanceWitness.Sampled, hquiet.samples]
      exact hrest e' he' ((hquiet.relevant i.gates e'.2).mp hrelevant)

lemma Perceived.quiet {s'' : DistanceWitness} (h : Perceived s s' att) (hquiet : Quiet s' s'') : Perceived s s'' att :=
  ⟨hquiet.node.trans h.node, hquiet.perceived.trans h.perceived, fun e he => h.signed e (hquiet.signed ▸ he)⟩

lemma resumeAll_perceived (hcfg : cfg.Honest) (i : DistanceInputs) {entries : List (Bytes × StoppedDistanceAttestation)}
    (hnodup : entries.Nodup) {e : Bytes × StoppedDistanceAttestation} (he : e ∈ entries)
    (honly : ∀ e' ∈ entries, s.Relevant cfg i.gates e'.2 → e' = e) (hrelevant : s.Relevant cfg i.gates e.2)
    (hnew : ¬ s.Sampled cfg e.2) : Perceived s (entries.foldl (DistanceWitness.resume cfg i) s) e.2 := by
  induction entries generalizing s with
  | nil => exact absurd he List.not_mem_nil
  | cons first entries ih =>
    obtain ⟨hfirst, hnodup⟩ := List.nodup_cons.mp hnodup
    rw [List.foldl_cons]
    rcases List.mem_cons.mp he with rfl | hlater
    · rcases resume_cases hcfg s i e with ⟨-, -, hperceived⟩ | ⟨hsampled, -⟩
      · refine hperceived.quiet (resumeAll_quiet hcfg i fun e' he' hrelevant' => ?_)
        rw [DistanceWitness.Relevant, DistanceWitness.admits, hperceived.node] at hrelevant'
        obtain rfl := honly e' (List.mem_cons_of_mem e he') hrelevant'
        exact absurd he' hfirst
      · exact absurd (hsampled hrelevant) hnew
    · have hquiet : Quiet s (s.resume cfg i first) := by
        rcases resume_cases hcfg s i first with ⟨hrelevant', -, -⟩ | ⟨-, hquiet⟩
        · obtain rfl := honly first List.mem_cons_self hrelevant'
          exact absurd hlater hfirst
        · exact hquiet
      have hrest := ih hnodup hlater
        (fun e' he' hrelevant' => honly e' (List.mem_cons_of_mem first he') ((hquiet.relevant i.gates e'.2).mp hrelevant'))
        ((hquiet.relevant i.gates e.2).mpr hrelevant) (by rw [DistanceWitness.Sampled, hquiet.samples]; exact hnew)
      exact ⟨hrest.node.trans hquiet.node, hrest.perceived.trans (by rw [hquiet.perceived]),
        fun e' he' => (hrest.signed e' he').imp (fun hold => hquiet.signed ▸ hold) id⟩

lemma processPending_eq (h : Kept s) (i : DistanceInputs) (carId : Bytes) :
    s.processPendingStoppedDistanceAttestation cfg i carId =
      (s.pendingDistanceAttestations.filter fun entry => decide (entry.2.targetCarId = carId)).foldl
        (DistanceWitness.resume cfg i) s := by
  rw [DistanceWitness.processPendingStoppedDistanceAttestation]
  refine List.foldl_ext _ _ s fun s' entry hentry => ?_
  have hfits := (h.keyed entry (List.mem_of_mem_filter hentry)).2
  rw [DistanceWitness.handleStoppedDistanceAttestation, deserialize_attestation hfits]
  rfl

-- what a step puts before the sensor: past the gates and about a known claim, off the radio or off the parked ones
def Reaches (cfg : DistanceConfig) (s : DistanceWitness) : DistanceWitnessEvent → StoppedDistanceAttestation → Prop
  | .attestation payload i, att =>
    deserializeStoppedDistanceAttestation payload = .value att ∧ s.Relevant cfg i.gates att
  | .arrival ev i, att =>
    ∃ cert, storedCert cfg.toArrivalConfig s.node ev = some cert ∧
      att ∈ s.pendingDistanceAttestations.map Prod.snd ∧ att.targetCarId = cert.carId ∧
      att.earlyClaimHash = cert.claimHash ∧ s.admits cfg i.gates att = true

-- a further attestation of a car that was looked at in this epoch is one whose reading is cached
def NoSecondVariant (cfg : DistanceConfig) (s : DistanceWitness) (ev : DistanceWitnessEvent) : Prop :=
  ∀ att, Reaches cfg s ev att → attestedFor att ∈ s.perceived.map attestedFor → s.Sampled cfg att

structure StoredFrame (n n' : ArrivalNode) (cert : ArrivalCert) : Prop where
  app : n'.app = n.app
  claim : n'.arrival.localClaimHashes.lookup cert.carId = some cert.claimHash
  cert : n'.arrival.collectedCerts.lookup cert.carId = some cert

lemma storedCert_frame {cfg : ArrivalConfig} {n : ArrivalNode} {ev : ArrivalEvent} {cert : ArrivalCert}
    (h : storedCert cfg n ev = some cert) : StoredFrame n (arrivalStep cfg n ev).1 cert := by
  cases ev with
  | cert c =>
    rw [storedCert] at h
    split at h
    next => cases h
    next hnew =>
      obtain rfl := Option.some.inj h
      rw [arrivalStep, handleArrivalCert, if_neg hnew]
      exact ⟨rfl, List.lookup_cons_self, List.lookup_cons_self⟩
  | app | announcement | announcementGossip | announce | echo | finalizeCert => cases h

lemma StoredFrame.relevant {n : ArrivalNode} {cert : ArrivalCert} (h : StoredFrame s.node n cert) (g : Gates)
    (hcar : att.targetCarId = cert.carId) :
    DistanceWitness.Relevant cfg { s with node := n } g att ↔
      s.admits cfg g att = true ∧ att.earlyClaimHash = cert.claimHash := by
  have hadmits : DistanceWitness.admits cfg { s with node := n } g att = s.admits cfg g att := by
    rw [DistanceWitness.admits, DistanceWitness.admits, h.app]
  rw [DistanceWitness.Relevant, hadmits, ArrivalState.bound, hcar, h.claim, h.cert]
  simp only [Option.map_some, Option.some.injEq, Bool.or_self, decide_eq_true_eq]
  exact and_congr_right fun _ => eq_comm

lemma admits_epoch {g : Gates} (h : s.admits cfg g att = true) : att.epoch = signed32 s.node.app.currentEpoch := by
  by_contra hepoch
  simp [DistanceWitness.admits, validateStoppedDistanceAttestation, hepoch] at h

lemma deserializeAttestation_fits {payload : Bytes} (h : deserializeStoppedDistanceAttestation payload = .value att)
    (hsigned : att.signature ≠ []) : att.Fits := by
  have hdefault : att ≠ .empty := fun heq => hsigned (by rw [heq]; rfl)
  rw [deserializeStoppedDistanceAttestation] at h
  split at h
  · exact absurd (Outcome.value.inj h).symm hdefault
  · have hread := Outcome.caught_eq_value h hdefault
    rw [readDistanceAttestation] at hread
    obtain ⟨epoch, hepoch, hread⟩ := Outcome.bind_eq_value.mp hread
    obtain ⟨early, -, hread⟩ := Outcome.bind_eq_value.mp hread
    split at hread
    · exact absurd (Outcome.value.inj hread).symm hdefault
    next hearly =>
      obtain ⟨distance, hdistance, hread⟩ := Outcome.bind_eq_value.mp hread
      obtain ⟨sigLen, -, hread⟩ := Outcome.bind_eq_value.mp hread
      split at hread
      · exact absurd (Outcome.value.inj hread).symm hdefault
      next hlen =>
        push Not at hlen
        obtain ⟨signature, hcopy, hread⟩ := Outcome.bind_eq_value.mp hread
        obtain rfl := Outcome.value.inj hread
        obtain ⟨-, rfl⟩ := Outcome.copy_eq_value.mp hcopy
        refine ⟨getD_splitStr_notMem _ _ _, stoi_range (Outcome.ofOption_eq_value.mp hepoch), not_not.mp hearly,
          stoi_range (Outcome.ofOption_eq_value.mp hdistance), hsigned, ?_⟩
        dsimp only
        rw [List.length_take]
        omega

structure Looked (cfg : DistanceConfig) (s s' : DistanceWitness) (ev : DistanceWitnessEvent)
    (att : StoppedDistanceAttestation) : Prop where
  reaches : Reaches cfg s ev att
  unsampled : ¬ s.Sampled cfg att
  perceived : s'.perceived = att :: s.perceived
  only : ∀ att', Reaches cfg s ev att' → attestedFor att' = attestedFor att

lemma attestation_step (hcfg : cfg.Honest) (h : Kept s) (payload : Bytes) (i : DistanceInputs) :
    Kept (distanceWitnessStep cfg s (.attestation payload i)) ∧
      ((∃ att, Looked cfg s (distanceWitnessStep cfg s (.attestation payload i)) (.attestation payload i) att) ∨
        (∀ att, Reaches cfg s (.attestation payload i) att → s.Sampled cfg att) ∧
          (distanceWitnessStep cfg s (.attestation payload i)).perceived = s.perceived) := by
  obtain ⟨att, hread⟩ := deserializeAttestation_total payload
  have hsame : ∀ att', deserializeStoppedDistanceAttestation payload = .value att' → att' = att := fun att' hatt' =>
    Outcome.value.inj (hatt'.symm.trans hread)
  rw [distanceWitnessStep, DistanceWitness.handleStoppedDistanceAttestation, hread]
  refine ⟨h.consider hcfg i fun hsigned => deserializeAttestation_fits hread hsigned, ?_⟩
  rcases consider_cases hcfg s i att with ⟨hrelevant, hnew, hperceived⟩ | ⟨hsampled, hquiet⟩
  · exact Or.inl ⟨att, ⟨hread, hrelevant⟩, hnew, hperceived.perceived, fun att' hreach => by rw [hsame att' hreach.1]⟩
  · refine Or.inr ⟨fun att' hreach => ?_, hquiet.perceived⟩
    obtain rfl := hsame att' hreach.1
    exact hsampled hreach.2

lemma Kept.moved (h : Kept s) (n : ArrivalNode) : Kept { s with node := n } := ⟨h.keyed, h.distinct, h.signed⟩

lemma processed_step (hcfg : cfg.Honest) (h : Kept s) {ev : ArrivalEvent} (i : DistanceInputs) {n : ArrivalNode}
    {cert : ArrivalCert} (hstored : storedCert cfg.toArrivalConfig s.node ev = some cert)
    (hframe : StoredFrame s.node n cert) {s' : DistanceWitness}
    (hs' : s' = (s.pendingDistanceAttestations.filter fun entry => decide (entry.2.targetCarId = cert.carId)).foldl
      (DistanceWitness.resume cfg i) { s with node := n }) :
    Kept s' ∧ ((∃ att, Looked cfg s s' (.arrival ev i) att) ∨
      (∀ att, Reaches cfg s (.arrival ev i) att → s.Sampled cfg att) ∧ s'.perceived = s.perceived) := by
  generalize hentries : (s.pendingDistanceAttestations.filter fun entry => decide (entry.2.targetCarId = cert.carId)) =
    entries at hs'
  have hmem : ∀ e, e ∈ entries ↔ e ∈ s.pendingDistanceAttestations ∧ e.2.targetCarId = cert.carId := by
    intro e
    rw [← hentries, List.mem_filter, decide_eq_true_eq]
  have hrelevant : ∀ e ∈ entries, DistanceWitness.Relevant cfg { s with node := n } i.gates e.2 ↔
      s.admits cfg i.gates e.2 = true ∧ e.2.earlyClaimHash = cert.claimHash :=
    fun e he => hframe.relevant i.gates ((hmem e).mp he).2
  have hreaches : ∀ att, Reaches cfg s (.arrival ev i) att →
      ∃ e ∈ entries, e.2 = att ∧ s.admits cfg i.gates att = true ∧ att.earlyClaimHash = cert.claimHash := by
    rintro att ⟨cert', hcert', hpending, hcar, hclaim, hadmits⟩
    obtain rfl := Option.some.inj (hcert'.symm.trans hstored)
    obtain ⟨e, he, rfl⟩ := List.mem_map.mp hpending
    exact ⟨e, (hmem e).mpr ⟨he, hcar⟩, rfl, hadmits, hclaim⟩
  subst hs'
  refine ⟨resumeAll_kept hcfg i (fun e he => (h.keyed e ((hmem e).mp he).1).2) (h.moved n), ?_⟩
  by_cases hlooks : ∃ e ∈ entries, DistanceWitness.Relevant cfg { s with node := n } i.gates e.2 ∧ ¬ s.Sampled cfg e.2
  · obtain ⟨e, he, hrel, hnew⟩ := hlooks
    obtain ⟨hadmits, hclaim⟩ := (hrelevant e he).mp hrel
    obtain ⟨hpending, hcar⟩ := (hmem e).mp he
    have honly : ∀ e' ∈ entries, DistanceWitness.Relevant cfg { s with node := n } i.gates e'.2 → e' = e := by
      intro e' he' hrel'
      obtain ⟨hadmits', hclaim'⟩ := (hrelevant e' he').mp hrel'
      obtain ⟨hpending', hcar'⟩ := (hmem e').mp he'
      refine List.inj_on_of_nodup_map h.distinct hpending' hpending ?_
      rw [(h.keyed e' hpending').1, (h.keyed e hpending).1, pendingKey, pendingKey, hcar, hcar', hclaim, hclaim',
        admits_epoch hadmits, admits_epoch hadmits']
    have hnodup : entries.Nodup := hentries ▸ (List.Nodup.of_map _ h.distinct).filter _
    have hperceived := resumeAll_perceived hcfg i hnodup he honly hrel hnew
    refine Or.inl ⟨e.2, ⟨cert, hstored, List.mem_map_of_mem hpending, hcar, hclaim, hadmits⟩, hnew,
      hperceived.perceived, fun att hatt => ?_⟩
    obtain ⟨e', he', rfl, hadmits', hclaim'⟩ := hreaches att hatt
    rw [honly e' he' ((hrelevant e' he').mpr ⟨hadmits', hclaim'⟩)]
  · push Not at hlooks
    refine Or.inr ⟨fun att hatt => ?_, (resumeAll_quiet hcfg i hlooks).perceived⟩
    obtain ⟨e, he, rfl, hadmits, hclaim⟩ := hreaches att hatt
    exact hlooks e he ((hrelevant e he).mpr ⟨hadmits, hclaim⟩)

lemma arrival_step (hcfg : cfg.Honest) (h : Kept s) (ev : ArrivalEvent) (i : DistanceInputs) :
    Kept (distanceWitnessStep cfg s (.arrival ev i)) ∧
      ((∃ att, Looked cfg s (distanceWitnessStep cfg s (.arrival ev i)) (.arrival ev i) att) ∨
        (∀ att, Reaches cfg s (.arrival ev i) att → s.Sampled cfg att) ∧
          (distanceWitnessStep cfg s (.arrival ev i)).perceived = s.perceived) := by
  rw [distanceWitnessStep]
  cases hstored : storedCert cfg.toArrivalConfig s.node ev with
  | none =>
    have hnone : ∀ att, ¬ Reaches cfg s (.arrival ev i) att := fun att ⟨cert, hcert, _⟩ => by
      rw [hstored] at hcert
      cases hcert
    split
    next =>
      exact ⟨⟨fun e he => absurd he List.not_mem_nil, List.nodup_nil, h.signed⟩,
        Or.inr ⟨fun att hatt => absurd hatt (hnone att), rfl⟩⟩
    next => exact ⟨h.moved _, Or.inr ⟨fun att hatt => absurd hatt (hnone att), rfl⟩⟩
  | some cert =>
    have hframe := storedCert_frame hstored
    have hkeeps : forgetsDistances cfg.toArrivalConfig s.node ev = false := by
      cases ev with
      | app => cases hstored
      | announcement | announcementGossip | announce | echo | cert | finalizeCert => rfl
    rw [hkeeps, if_neg (by simp)]
    dsimp only
    rw [processPending_eq (h.moved _)]
    exact processed_step hcfg h i hstored hframe rfl

lemma step_kept (hcfg : cfg.Honest) (h : Kept s) (ev : DistanceWitnessEvent) : Kept (distanceWitnessStep cfg s ev) := by
  cases ev with
  | arrival ev i => exact (arrival_step hcfg h ev i).1
  | attestation payload i => exact (attestation_step hcfg h payload i).1

lemma step_looked (hcfg : cfg.Honest) (h : Kept s) (ev : DistanceWitnessEvent) :
    (∃ att, Looked cfg s (distanceWitnessStep cfg s ev) ev att) ∨
      (∀ att, Reaches cfg s ev att → s.Sampled cfg att) ∧ (distanceWitnessStep cfg s ev).perceived = s.perceived := by
  cases ev with
  | arrival ev i => exact (arrival_step hcfg h ev i).2
  | attestation payload i => exact (attestation_step hcfg h payload i).2

lemma Kept.oneVerdict (h : Kept s) (hnodup : (s.perceived.map attestedFor).Nodup) : OneVerdict s := by
  refine ⟨hnodup, fun e he e' he' hsame => ?_⟩
  obtain ⟨a, ha, hfor, hvalue⟩ := h.signed e he
  obtain ⟨a', ha', hfor', hvalue'⟩ := h.signed e' he'
  have hone := List.inj_on_of_nodup_map hnodup ha ha' (hfor.symm.trans (hsame.trans hfor'))
  rw [hvalue, hvalue', hone]

lemma oneVerdict_step_iff (hcfg : cfg.Honest) (h : Kept s) (hone : OneVerdict s) (ev : DistanceWitnessEvent) :
    OneVerdict (distanceWitnessStep cfg s ev) ↔ NoSecondVariant cfg s ev := by
  have hkept := step_kept hcfg h ev
  rcases step_looked hcfg h ev with ⟨att, hlooked⟩ | ⟨hsampled, hsame⟩
  · have hfresh : OneVerdict (distanceWitnessStep cfg s ev) ↔ attestedFor att ∉ s.perceived.map attestedFor := by
      constructor
      · intro hnext
        have hnodup := hnext.perceived
        rw [hlooked.perceived, List.map_cons, List.nodup_cons] at hnodup
        exact hnodup.1
      · intro hfirst
        refine hkept.oneVerdict ?_
        rw [hlooked.perceived, List.map_cons]
        exact List.nodup_cons.mpr ⟨hfirst, hone.perceived⟩
    rw [hfresh]
    constructor
    · intro hfirst att' hreaches hold
      rw [hlooked.only att' hreaches] at hold
      exact absurd hold hfirst
    · exact fun hno hold => hlooked.unsampled (hno att hlooked.reaches hold)
  · exact iff_of_true (hkept.oneVerdict (hsame ▸ hone.perceived)) fun att hreaches _ => hsampled att hreaches

theorem oneVerdict_iff (hcfg : cfg.Honest) (events : List DistanceWitnessEvent) :
    (∀ pre post, events = pre ++ post → OneVerdict (run (distanceWitnessStep cfg) .initial pre)) ↔
      Guarded (distanceWitnessStep cfg) (NoSecondVariant cfg) .initial events := by
  have hinit : OneVerdict .initial := Kept.initial.oneVerdict List.nodup_nil
  rw [forall_prefix_iff, and_iff_right hinit]
  have hiff : ∀ s ev, Kept s ∧ OneVerdict s → (OneVerdict (distanceWitnessStep cfg s ev) ↔ NoSecondVariant cfg s ev) :=
    fun s ev hs => oneVerdict_step_iff hcfg hs.1 hs.2 ev
  exact guarded_congr hiff (fun s ev hs hnext => ⟨step_kept hcfg hs.1 ev, hnext⟩) ⟨Kept.initial, hinit⟩

def watchingCar2 : DistanceConfig := { fullSizedCars with toleranceCm := 20, colludesFor := fun _ => false }

def watching : DistanceInputs where
  gates := collectingGates
  observe := fun _ => ⟨true, true, true, 250⟩
  sign := fun msg => some (checksum (fullKey 2 ++ msg))

def declaredByCar0 : ArrivalAnnouncement :=
  let ann := northCar "veh0" 0 .left
  { ann with signature := checksum (fullKey 0 ++ canonicalArrivalAnnouncementPayload fullSizedCars ann) }

def attestationOfCar0 (distanceToStopCm : ℤ) : StoppedDistanceAttestation :=
  let att : StoppedDistanceAttestation :=
    ⟨ascii "veh0", 0, arrivalAnnouncementHash fullSizedCars declaredByCar0, distanceToStopCm, []⟩
  { att with signature := checksum (fullKey 0 ++ canonicalStoppedDistanceAttestationPayload att) }

def attestedByCar0 (distanceToStopCm : ℤ) : Bytes :=
  serializeStoppedDistanceAttestation (attestationOfCar0 distanceToStopCm)

def certOfCar0 : ArrivalCert :=
  let bare : ArrivalCert :=
    ⟨ascii "veh0", ascii "N", 1, 0, 0, .left, arrivalAnnouncementHash fullSizedCars declaredByCar0, false, 0, []⟩
  let echo := fun car : ℕ =>
    let e : ArrivalEcho := ⟨car, bare.carId, bare.lane, 1, 0, 0, .left, .left, bare.claimHash, false, 0, fullKey car, []⟩
    { e with signature := checksum (fullKey car ++ arrivalEchoSigningPayload e) }
  { bare with echoes := [echo 1, echo 3] }

-- parked until the certificate makes the claim known, then received once more
def parkedThenRepeated : List DistanceWitnessEvent :=
  [.attestation (attestedByCar0 245) watching, .arrival (.cert certOfCar0) watching,
    .attestation (attestedByCar0 245) watching]

theorem oneVerdict_iff_parkedThenRepeated :
    (run (distanceWitnessStep watchingCar2) .initial parkedThenRepeated).signed.map
        StoppedDistanceEcho.distanceToStopCm = [245] ∧
      ∀ pre post, parkedThenRepeated = pre ++ post → OneVerdict (run (distanceWitnessStep watchingCar2) .initial pre) := by
  have hread : deserializeStoppedDistanceAttestation (attestedByCar0 245) = .value (attestationOfCar0 245) := by
    decide +kernel
  have hparked : (distanceWitnessStep watchingCar2 .initial (.attestation (attestedByCar0 245) watching)).perceived = [] := by
    decide +kernel
  refine ⟨by decide +kernel, (oneVerdict_iff (fun _ => rfl) _).mpr ⟨?_, ?_, ?_, trivial⟩⟩
  · exact fun att _ hold => absurd hold List.not_mem_nil
  · intro att _ hold
    rw [hparked] at hold
    exact absurd hold List.not_mem_nil
  · intro att hreaches _
    obtain rfl := Outcome.value.inj (hreaches.1.symm.trans hread)
    have hcached : (distanceWitnessStep watchingCar2
        (distanceWitnessStep watchingCar2 .initial (.attestation (attestedByCar0 245) watching))
        (.arrival (.cert certOfCar0) watching)).Sampled watchingCar2 (attestationOfCar0 245) := by
      rw [DistanceWitness.Sampled]
      decide +kernel
    exact hcached

def heardDeclaration : DistanceWitnessEvent :=
  .arrival (.announcement collectingGates (serializeArrivalAnnouncement fullSizedCars declaredByCar0) seenNorth
    watching.sign) watching

def twoVariants : List DistanceWitnessEvent :=
  [heardDeclaration, .attestation (attestedByCar0 245) watching, .attestation (attestedByCar0 260) watching]

theorem twoVariants_notOne :
    ¬ OneVerdict (run (distanceWitnessStep watchingCar2) .initial twoVariants) ∧
      (run (distanceWitnessStep watchingCar2) .initial twoVariants).signed.map
        StoppedDistanceEcho.distanceToStopCm = [260, 245] := by
  have htwice : ¬ ((run (distanceWitnessStep watchingCar2) .initial twoVariants).perceived.map attestedFor).Nodup := by
    decide +kernel
  exact ⟨fun h => htwice h.perceived, by decide +kernel⟩

end V2vBft.Arrival
