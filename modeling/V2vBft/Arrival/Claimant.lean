import V2vBft.Arrival.AnnouncementFacts
import V2vBft.Arrival.EpochFreshness

/-! An honest claimant against forged copies of its announcement: what a witness adopts and echoes. -/

namespace V2vBft.Arrival

open Wire App Library.GuardedRun

variable {cfg : ArrivalConfig} {r : ArrivalRun} {ev : ArrivalEvent} {ann own : ArrivalAnnouncement} {claimant : ℤ}

-- the announcements a claimant signed: one for each epoch, and no other payload verifies under its key
structure HonestClaimant (cfg : ArrivalConfig) (claimant : ℤ) (made : List ArrivalAnnouncement) : Prop where
  inRange : 0 ≤ claimant ∧ claimant < 2147483648
  registered : ∃ key, cfg.registeredKeys.lookup claimant = some key ∧
    ∀ ann sig, cfg.verifyBytes key (canonicalArrivalAnnouncementPayload cfg ann) sig = true →
      ∃ own ∈ made, canonicalArrivalAnnouncementPayload cfg ann = canonicalArrivalAnnouncementPayload cfg own
  once : ∀ own ∈ made, ∀ own' ∈ made, own.epoch = own'.epoch → own = own'
  plain : ∀ own ∈ made, PlainText own ∧ own.carId = myCarId claimant

-- what the claimant keeps of its announcement, see broadcastArrivalAnnouncement
structure OwnRecord (cfg : ArrivalConfig) (app : AppState) (s : ArrivalState) (own : ArrivalAnnouncement) : Prop where
  epoch : own.epoch = signed32 app.currentEpoch
  state : s.localVehicleStates.lookup own.carId = some (vehicleStateOf own own.lane own.isAmbulance)
  hash : s.localClaimHashes.lookup own.carId = some (arrivalAnnouncementHash cfg own)

structure HonestWitness (cfg : ArrivalConfig) : Prop where
  eligible : 0 ≤ cfg.replicaId ∧ cfg.replicaId < cfg.totalVehicles
  registered : cfg.registeredKeys.lookup cfg.replicaId = some cfg.publicKey

def SignsTrue (cfg : ArrivalConfig) (ev : ArrivalEvent) : Prop :=
  ∀ fresh sign payload sig, ev.witness = some (fresh, sign) → sign payload = some sig →
    sig ≠ [] ∧ cfg.verifyBytes cfg.publicKey payload sig = true

def claimantConfig (cfg : ArrivalConfig) (claimant : ℤ) : ArrivalConfig := { cfg with replicaId := claimant }

-- collectArrivalEcho takes the echo wherever the claimant still holds its own record
def AcceptedByClaimant (cfg : ArrivalConfig) (claimant : ℤ) (own : ArrivalAnnouncement) (e : ArrivalEcho) : Prop :=
  ∀ app s, OwnRecord cfg app s own → acceptableEcho (claimantConfig cfg claimant) app s e = true

structure NotStarved (cfg : ArrivalConfig) (claimant : ℤ) (own : ArrivalAnnouncement) (r : ArrivalRun) : Prop where
  adopted : ∀ h, r.node.arrival.firstArrivalClaimHashes.lookup (variantKey own) = some h →
    h = arrivalAnnouncementHash cfg own
  echoed : ∀ e ∈ sentEchoes r.trace, e.variant = variantKey own → AcceptedByClaimant cfg claimant own e

-- a copy of the claim that passes the first-variant rule carries the very signature bytes of the claimant
def OwnSignature (cfg : ArrivalConfig) (own : ArrivalAnnouncement) (r : ArrivalRun) (ev : ArrivalEvent) : Prop :=
  ∀ ann, heard cfg r.node ev = some ann → variantKey ann = variantKey own →
    (admitVariant cfg r.node.arrival ann).2 = true → ann.signature = own.signature

instance (cfg : ArrivalConfig) (own : ArrivalAnnouncement) (r : ArrivalRun) (ev : ArrivalEvent) :
    Decidable (OwnSignature cfg own r ev) :=
  inferInstanceAs (Decidable (∀ ann ∈ heard cfg r.node ev, variantKey ann = variantKey own → _))

lemma heard_sameClaim {made : List ArrivalAnnouncement} (hshow : ∀ t, 124 ∉ cfg.showDouble t)
    (hclaimant : HonestClaimant cfg claimant made) (hown : own ∈ made) {n : ArrivalNode}
    (hheard : heard cfg n ev = some ann) (hkey : variantKey ann = variantKey own) : SameClaim cfg ann own := by
  obtain ⟨payload, hpayload⟩ := heard_authentic hheard
  obtain ⟨hplain, hverified⟩ := authenticAnnouncement_verified hpayload
  obtain ⟨hepoch, hcar⟩ := variantKey_inj hkey
  obtain ⟨hplainOwn, hownCar⟩ := hclaimant.plain own hown
  obtain ⟨key, hregistered, hunforged⟩ := hclaimant.registered
  have hrange := hclaimant.inRange
  have horigin : extractReplicaId ann.carId = claimant := by
    rw [hcar, hownCar, extractReplicaId_myCarId ⟨by omega, hrange.2⟩]
  have hsigned : cfg.verifyBytes key (canonicalArrivalAnnouncementPayload cfg ann) (usedSignature ann.signature) = true := by
    rw [verifyArrivalAnnouncementOrigin] at hverified
    split at hverified
    next => cases hverified
    next =>
      rw [horigin, hregistered] at hverified
      exact hverified
  obtain ⟨own', hmem, hcanonical⟩ := hunforged ann _ hsigned
  have hsame := canonical_sameClaim hshow hplain (hclaimant.plain own' hmem).1 hcanonical
  have hepoch' : own'.epoch = own.epoch := by
    rw [← hepoch, hsame.fields]
  rwa [hclaimant.once own' hmem own hown hepoch'] at hsame

lemma SameClaim.downgraded (h : SameClaim cfg ann own) :
    SameClaim cfg (downgraded cfg ann) (downgraded cfg own) ∧ gatedIsAmbulance cfg ann = gatedIsAmbulance cfg own := by
  have hgate : gatedIsAmbulance cfg ann = gatedIsAmbulance cfg own := by
    rw [h.fields]
    rfl
  refine ⟨⟨?_, h.time⟩, hgate⟩
  rw [Arrival.downgraded, Arrival.downgraded, hgate]
  conv_lhs => rw [h.fields]

lemma acceptedByClaimant_echo {e : ArrivalEcho} {cue : ObservedCue} (hwitness : HonestWitness cfg)
    (hcar : own.carId = myCarId claimant)
    (hecho : e = { echoOf cfg own cue with signature := e.signature })
    (hsig : e.signature ≠ [] ∧ cfg.verifyBytes cfg.publicKey (arrivalEchoSigningPayload (echoOf cfg own cue)) e.signature = true) :
    AcceptedByClaimant cfg claimant own e := by
  intro app s hrecord
  have hpayload : arrivalEchoSigningPayload e = arrivalEchoSigningPayload (echoOf cfg own cue) := by
    rw [hecho]
    rfl
  have htarget : e.targetCarId = own.carId := by rw [hecho]; rfl
  have hsigner : e.echoingReplicaId = cfg.replicaId ∧ e.signerPubKey = cfg.publicKey := by
    rw [hecho]
    exact ⟨rfl, rfl⟩
  have hmatch : echoMatchesClaim app (vehicleStateOf own own.lane own.isAmbulance) (arrivalAnnouncementHash cfg own) e = true := by
    rw [hecho]
    simp [echoMatchesClaim, echoOf, vehicleStateOf, hrecord.epoch]
  have hstate := hrecord.state
  have hhash := hrecord.hash
  rw [hcar] at hstate hhash
  simp only [acceptableEcho, claimantConfig, isArrivalSignerEligible, ArrivalConfig.keyMatches, echoSignatureVerifies,
    htarget, hcar, hsigner, hstate, hhash, hmatch, hpayload, hwitness.registered, hsig.2, Bool.and_true, decide_true,
    Bool.true_and, Bool.and_eq_true, decide_eq_true_eq]
  exact ⟨hwitness.eligible, hsig.1⟩

structure ClaimInv (cfg : ArrivalConfig) (claimant : ℤ) (own : ArrivalAnnouncement) (r : ArrivalRun) : Prop where
  keyed : Keyed r.node.arrival
  adopted : ∀ h, r.node.arrival.firstArrivalClaimHashes.lookup (variantKey own) = some h →
    h = arrivalAnnouncementHash cfg own
  cached : ∀ k e, (k, e) ∈ r.node.arrival.cachedArrivalEchoes → e.variant = variantKey own →
    AcceptedByClaimant cfg claimant own e
  sent : ∀ e ∈ sentEchoes r.trace, e.variant = variantKey own → AcceptedByClaimant cfg claimant own e

lemma ClaimInv.initial : ClaimInv cfg claimant own .initial :=
  ⟨.initial, by simp [ArrivalRun.initial, ArrivalNode.initial, ArrivalState.initial],
    by simp [ArrivalRun.initial, ArrivalNode.initial, ArrivalState.initial], by simp [ArrivalRun.initial, sentEchoes]⟩

lemma considered_echoes {app : AppState} {s : ArrivalState} {fresh : ArrivalPerceptionSample}
    {sign : Bytes → Option Bytes} {out : ArrivalState × ArrivalEffects}
    (h : Considered cfg app s ann fresh sign out) (hkeyed : Keyed s) (e : ArrivalEcho)
    (he : e ∈ out.2.echoes ∨ ∃ k, (k, e) ∈ out.1.cachedArrivalEchoes) :
    (∃ k, (k, e) ∈ s.cachedArrivalEchoes) ∨
      (admitVariant cfg s ann).2 = true ∧
        arrivalAnnouncementHash cfg (downgraded cfg ann) = arrivalAnnouncementHash cfg ann ∧
        ∃ cue, e = { echoOf cfg (downgraded cfg ann) cue with signature := e.signature } ∧
          sign (arrivalEchoSigningPayload (echoOf cfg (downgraded cfg ann) cue)) = some e.signature := by
  have hadmitted := admitVariant_admitted cfg s ann
  have hcaches := hadmitted.caches.1
  have hseen := perceiveArrival_echoes cfg (admitVariant cfg s ann).1 ann fresh
  cases h with
  | ignored =>
    rw [hcaches] at he
    exact Or.inl (he.resolve_left (by simp [ArrivalEffects.none]))
  | resent echo hadm hecho =>
    rw [hcaches] at he
    rcases he with he | he
    · obtain rfl := List.mem_singleton.mp he
      exact Or.inl ⟨_, mem_of_lookup hecho⟩
    · exact Or.inl he
  | refused =>
    rw [(refuseAnnouncement_echoes cfg _ ann _).1, hseen, hcaches] at he
    exact Or.inl (he.resolve_left (by simp [ArrivalEffects.none]))
  | accepted haccept hadm =>
    have hsigned := considered_signed (.accepted haccept hadm : Considered cfg app s ann fresh sign _) hkeyed
    obtain ⟨sent, hsent, hstate, hechoes, hnew⟩ := acceptAnnouncement_sent cfg app
      (perceiveArrival cfg (admitVariant cfg s ann).1 ann fresh).1 ann sign
    have hold : ∀ k, (k, e) ∈ ((perceiveArrival cfg (admitVariant cfg s ann).1 ann fresh).1.store
        (vehicleStateOf ann ann.lane (gatedIsAmbulance cfg ann)) (arrivalAnnouncementHash cfg ann)).cachedArrivalEchoes →
        (k, e) ∈ s.cachedArrivalEchoes := by
      intro k hk
      rw [← hcaches, ← hseen]
      exact hk
    dsimp only at he hsigned
    rw [hstate, hechoes] at he
    rw [hnew] at hsigned
    cases hsent with
    | cached echo hecho =>
      rcases he with he | ⟨k, hk⟩
      · obtain rfl := List.mem_singleton.mp he
        exact Or.inl ⟨_, hold _ (mem_of_lookup hecho)⟩
      · exact Or.inl ⟨k, hold k hk⟩
    | silent =>
      obtain ⟨k, hk⟩ := he.resolve_left (by simp [ArrivalEffects.none])
      exact Or.inl ⟨k, hold k hk⟩
    | rejected =>
      obtain ⟨k, hk⟩ := he.resolve_left (by simp [ArrivalEffects.none])
      exact Or.inl ⟨k, hold k hk⟩
    | signed sample echo hsample hecho hsign =>
      have hsigns := (hsigned echo (List.mem_singleton.mpr rfl)).2
      simp only [signsEcho, Bool.and_eq_true, decide_eq_true_eq] at hsigns
      have hmade : (admitVariant cfg s ann).2 = true ∧
          arrivalAnnouncementHash cfg (downgraded cfg ann) = arrivalAnnouncementHash cfg ann ∧
          ∃ cue, echo = { echoOf cfg (downgraded cfg ann) cue with signature := echo.signature } ∧
            sign (arrivalEchoSigningPayload (echoOf cfg (downgraded cfg ann) cue)) = some echo.signature :=
        ⟨hadm, hsigns.1.2, sample.observedCue, hecho, hsign⟩
      rcases he with he | ⟨k, hk⟩
      · obtain rfl := List.mem_singleton.mp he
        exact Or.inr hmade
      · rcases List.mem_cons.mp hk with heq | hk
        · obtain ⟨-, rfl⟩ := Prod.mk.inj heq
          exact Or.inr hmade
        · exact Or.inl ⟨k, hold k hk⟩

lemma ClaimInv.step {made : List ArrivalAnnouncement} (hshow : ∀ t, 124 ∉ cfg.showDouble t)
    (hclaimant : HonestClaimant cfg claimant made) (hown : own ∈ made) (hwitness : HonestWitness cfg)
    (hflag : arrivalAnnouncementHash cfg (downgraded cfg own) = arrivalAnnouncementHash cfg own →
      downgraded cfg own = own)
    (h : ClaimInv cfg claimant own r) (hok : SignsTrue cfg ev ∧ OwnSignature cfg own r ev) :
    ClaimInv cfg claimant own (arrivalRunStep cfg r ev) := by
  obtain ⟨hsigns, hsignature⟩ := hok
  have hstep := arrivalStep_firsts cfg ev h.keyed
  have hsame : ∀ ann, heard cfg r.node ev = some ann → variantKey ann = variantKey own →
      (admitVariant cfg r.node.arrival ann).2 = true →
      SameClaim cfg ann own ∧ arrivalAnnouncementHash cfg ann = arrivalAnnouncementHash cfg own := by
    intro ann hheard hkey hadm
    have hclaim := heard_sameClaim hshow hclaimant hown hheard hkey
    exact ⟨hclaim, hclaim.hash (hsignature ann hheard hkey hadm)⟩
  have hechoes : ∀ e, e ∈ (arrivalStep cfg r.node ev).2.echoes ∨
      (∃ k, (k, e) ∈ (arrivalStep cfg r.node ev).1.arrival.cachedArrivalEchoes) → e.variant = variantKey own →
      AcceptedByClaimant cfg claimant own e := by
    intro e he hvariant
    cases hw : ev.witness with
    | none =>
      obtain ⟨-, hcaches, hnone, -⟩ := arrivalStep_claimant cfg r.node hw
      obtain ⟨k, hk⟩ := he.resolve_left (by simp [hnone])
      rcases hcaches with hkept | hreset
      · rw [hkept.echoes] at hk
        exact h.cached k e hk hvariant
      · rw [hreset] at hk
        cases hk
    | some w =>
      obtain ⟨fresh, sign⟩ := w
      have hrun := arrivalStep_witness cfg r.node hw
      cases hheard : heard cfg r.node ev with
      | none =>
        rw [hheard] at hrun
        rw [hrun] at he
        obtain ⟨k, hk⟩ := he.resolve_left (by simp [ArrivalEffects.none])
        exact h.cached k e hk hvariant
      | some ann =>
        rw [hheard] at hrun
        rw [hrun] at he
        rcases considered_echoes (considerAnnouncement_considered cfg r.node.app r.node.arrival ann fresh sign) h.keyed e
          he with ⟨k, hk⟩ | ⟨hadm, hhash, cue, hecho, hsign⟩
        · exact h.cached k e hk hvariant
        · have hkey : variantKey ann = variantKey own := by
            rw [← hvariant, hecho]
            rfl
          obtain ⟨hclaim, hhashOwn⟩ := hsame ann hheard hkey hadm
          have hdown := hclaim.downgraded
          have hsig : (downgraded cfg ann).signature = (downgraded cfg own).signature :=
            hsignature ann hheard hkey hadm
          have hdownHash := hdown.1.hash hsig
          have howned : downgraded cfg own = own := hflag (by rw [← hdownHash, hhash, hhashOwn])
          have hsameEcho : echoOf cfg (downgraded cfg ann) cue = echoOf cfg own cue := by
            rw [echoOf, hdownHash, howned, hdown.1.fields, howned]
            rfl
          rw [hsameEcho] at hecho hsign
          exact acceptedByClaimant_echo hwitness (hclaimant.plain own hown).2 hecho
            (hsigns fresh sign _ _ hw hsign)
  refine ⟨hstep.keyed, fun c hc => ?_, fun k e he => hechoes e (Or.inr ⟨k, he⟩), fun e he hvariant => ?_⟩
  · rcases hstep.firsts _ c hc with hold | ⟨ann, hheard, hnone, hkey, rfl⟩
    · exact h.adopted c hold
    · have hadm : (admitVariant cfg r.node.arrival ann).2 = true := by simp [admitVariant, hnone]
      exact (hsame ann hheard hkey.symm hadm).2
  · rw [sentEchoes, arrivalRunStep, List.flatMap_cons, List.mem_append] at he
    rcases he with he | he
    · exact hechoes e (Or.inl he) hvariant
    · exact h.sent e he hvariant

theorem claimant_not_starved (cfg : ArrivalConfig) (claimant : ℤ) (made : List ArrivalAnnouncement)
    (hshow : ∀ t, 124 ∉ cfg.showDouble t) (hclaimant : HonestClaimant cfg claimant made) (hwitness : HonestWitness cfg)
    (own : ArrivalAnnouncement) (hown : own ∈ made)
    (hflag : arrivalAnnouncementHash cfg (downgraded cfg own) = arrivalAnnouncementHash cfg own →
      downgraded cfg own = own)
    (events : List ArrivalEvent)
    (hsigns : ∀ ev ∈ events, SignsTrue cfg ev)
    (h : Guarded (arrivalRunStep cfg) (OwnSignature cfg own) .initial events) :
    NotStarved cfg claimant own (run (arrivalRunStep cfg) .initial events) := by
  have hboth : Guarded (arrivalRunStep cfg) (fun r ev => SignsTrue cfg ev ∧ OwnSignature cfg own r ev) .initial events := by
    refine Guarded.and ?_ h
    exact guarded_of_forall (fun ev hev _ => hsigns ev hev) _
  have hinv := Guarded.invariant (fun r e hr hok => hr.step hshow hclaimant hown hwitness hflag hok)
    ClaimInv.initial hboth
  exact ⟨hinv.adopted, hinv.sent⟩

def declaredByCar1 : ArrivalAnnouncement := signedWith [11] (northCar "veh1" 0 .left)

def unforgeable : ArrivalConfig :=
  { fourWitnesses with
    verifyBytes := fun pubKey msg sig => decide (sig = checksum (pubKey ++ msg)) &&
      (decide (pubKey ≠ [11]) || decide (msg = canonicalArrivalAnnouncementPayload fourWitnesses declaredByCar1)) }

lemma unforgeable_claimant : HonestClaimant unforgeable 1 [declaredByCar1] where
  inRange := by decide
  registered := by
    refine ⟨[11], by decide, fun ann sig h => ⟨declaredByCar1, List.mem_cons_self, ?_⟩⟩
    simp only [unforgeable, Bool.and_eq_true, Bool.or_eq_true, decide_eq_true_eq] at h
    exact h.2.resolve_left (by simp)
  once := by simp
  plain := by
    intro own hown
    obtain rfl := List.mem_singleton.mp hown
    exact ⟨⟨by decide, by decide, by decide⟩, by decide⟩

lemma unforgeable_witness : HonestWitness unforgeable := ⟨by decide, by decide⟩

lemma received_signsTrue (payload : Bytes) : SignsTrue unforgeable (received payload) := by
  intro fresh sign toSign sig hw hsign
  obtain ⟨-, rfl⟩ := Prod.mk.inj (Option.some.inj hw)
  obtain rfl := Option.some.inj hsign
  refine ⟨by simp [checksum], ?_⟩
  simp [unforgeable, fourWitnesses]

-- the same declaration with 256 bytes behind its signature: the length is 1 again in eight bits
def paddedCopy : ArrivalAnnouncement :=
  { declaredByCar1 with signature := declaredByCar1.signature ++ zeros 256 }

def paddedFrame : Bytes := paddedCopy.header fourWitnesses ++ paddedCopy.signature

def forgedByCar3 : ArrivalAnnouncement := signedWith [13] (northCar "veh1" 0 .straight)

def declaredByCar3 : ArrivalAnnouncement := signedWith [13] (northCar "veh3" 0 .straight)

def amidForgeries : List ArrivalEvent :=
  [announced forgedByCar3, announced declaredByCar3, announced declaredByCar1, received paddedFrame,
    announced forgedByCar3, announced declaredByCar1]

theorem claimant_not_starved_amidForgeries :
    variantKey declaredByCar1 ∈
        (sentEchoes (run (arrivalRunStep unforgeable) .initial amidForgeries).trace).map ArrivalEcho.variant ∧
      NotStarved unforgeable 1 declaredByCar1 (run (arrivalRunStep unforgeable) .initial amidForgeries) := by
  have hshow : ∀ t, 124 ∉ unforgeable.showDouble t := by
    intro t
    change (124 : UInt8) ∉ ascii "0"
    decide
  refine ⟨by decide +kernel, claimant_not_starved unforgeable 1 [declaredByCar1] hshow unforgeable_claimant
    unforgeable_witness declaredByCar1 List.mem_cons_self (fun _ => by decide +kernel) _ ?_ (by decide +kernel)⟩
  intro ev hev
  simp only [amidForgeries, List.mem_cons, List.not_mem_nil, or_false] at hev
  rcases hev with rfl | rfl | rfl | rfl | rfl | rfl <;> exact received_signsTrue _

theorem padded_copy_adopted :
    (HonestClaimant unforgeable 1 [declaredByCar1] ∧ HonestWitness unforgeable ∧
      SignsTrue unforgeable (received paddedFrame) ∧ SignsTrue unforgeable (announced declaredByCar1)) ∧
    ¬NotStarved unforgeable 1 declaredByCar1
      (run (arrivalRunStep unforgeable) .initial [received paddedFrame, announced declaredByCar1]) := by
  refine ⟨⟨unforgeable_claimant, unforgeable_witness, received_signsTrue _, received_signsTrue _⟩, fun h => ?_⟩
  have hadopted := h.adopted (arrivalAnnouncementHash unforgeable paddedCopy) (by decide +kernel)
  exact absurd hadopted (by decide +kernel)

end V2vBft.Arrival
