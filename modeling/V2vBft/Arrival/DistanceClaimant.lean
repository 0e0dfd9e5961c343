import V2vBft.Arrival.DistanceCodec
import V2vBft.Library.GuardedRun

namespace V2vBft.Arrival

open Wire App Library Library.GuardedRun

structure ArrivalConfig.Sized (cfg : ArrivalConfig) : Prop where
  replicaId : -2147483648 ≤ cfg.replicaId ∧ cfg.replicaId < 2147483648
  totalVehicles : cfg.totalVehicles < 2147483648
  publicKey : cfg.publicKey.length = cryptoPubkeyBytes
  sha256 : ∀ bytes, (cfg.sha256 bytes).length = hashBytes

def SignatureSized (sig : Bytes) : Prop := sig ≠ [] ∧ sig.length ≤ cryptoSigMaxBytes

instance (sig : Bytes) : Decidable (SignatureSized sig) := inferInstanceAs (Decidable (_ ∧ _))

structure StopReading where
  currentEpoch : ℕ
  claimHash : Bytes
  distanceToStopCm : ℤ
  sign : Bytes → Option Bytes
  currentEpoch_lt : currentEpoch < uint32Modulus
  claimHash_length : claimHash.length = hashBytes
  distance_range : -2147483648 ≤ distanceToStopCm ∧ distanceToStopCm < 2147483648
  sign_sized : ∀ msg sig, sign msg = some sig → SignatureSized sig

def ownDistanceAttestation (cfg : ArrivalConfig) (r : StopReading) : Option StoppedDistanceAttestation :=
  let att : StoppedDistanceAttestation :=
    ⟨myCarId cfg.replicaId, signed32 r.currentEpoch, r.claimHash, r.distanceToStopCm, []⟩
  (r.sign (canonicalStoppedDistanceAttestationPayload att)).map fun sig => { att with signature := sig }

def distanceEchoOf (cfg : ArrivalConfig) (att : StoppedDistanceAttestation) (sig : Bytes) : BufferedDistanceEcho :=
  ⟨⟨cfg.replicaId, att.targetCarId, att.epoch, att.earlyClaimHash, stoppedDistanceAttestationHash cfg att,
    att.distanceToStopCm, cfg.publicKey, sig⟩, zeros (cryptoSigMaxBytes - sig.length)⟩

structure SentDistanceCert where
  currentEpoch : ℕ
  cert : BufferedDistanceCert
  bytes : Bytes

-- `sent` observes the certificates that are broadcast
structure DistanceClaimant where
  attestationSent : Bool
  certBroadcast : Bool
  localAttestation : StoppedDistanceAttestation
  receivedEchoes : List BufferedDistanceEcho
  sent : List SentDistanceCert

def DistanceClaimant.initial : DistanceClaimant := ⟨false, false, .empty, [], []⟩

-- the other gates of maybeBroadcastStoppedDistanceAttestation may be open at any time
def DistanceClaimant.attest (cfg : ArrivalConfig) (s : DistanceClaimant) (r : StopReading) : DistanceClaimant :=
  if s.attestationSent then s
  else
    match ownDistanceAttestation cfg r with
    | none => s
    | some att => { s with attestationSent := true, localAttestation := att }

def DistanceClaimant.collectStoppedDistanceEcho (cfg : ArrivalConfig) (s : DistanceClaimant)
    (echo : BufferedDistanceEcho) : DistanceClaimant :=
  if !s.attestationSent || s.certBroadcast ||
      !distanceEchoMatches cfg s.localAttestation echo.toStoppedDistanceEcho ||
      decide (echo.echoingReplicaId = cfg.replicaId) then s
  else if s.receivedEchoes.any fun prior => decide (prior.echoingReplicaId = echo.echoingReplicaId) then s
  else if max 0 (cfg.totalVehicles - 1) ≤ (s.receivedEchoes.length : ℤ) then s
  else { s with receivedEchoes := s.receivedEchoes ++ [echo] }

def DistanceClaimant.handleStoppedDistanceEcho (cfg : ArrivalConfig) (s : DistanceClaimant) (payload : Bytes) :
    DistanceClaimant :=
  match deserializeStoppedDistanceEcho payload with
  | .value echo => s.collectStoppedDistanceEcho cfg echo
  | _ => s

def DistanceClaimant.finalizeLocalStoppedDistanceCert (cfg : ArrivalConfig) (s : DistanceClaimant) (app : AppState) :
    DistanceClaimant :=
  if !s.attestationSent || s.certBroadcast then s
  else if 1 + (s.receivedEchoes.length : ℤ) < cfg.faults + 1 then s
  else
    let cert : BufferedDistanceCert := ⟨s.localAttestation, s.receivedEchoes⟩
    if validateStoppedDistanceCert cfg app cert.cert then
      { s with
        certBroadcast := true
        sent := ⟨app.currentEpoch, cert, serializeStoppedDistanceCert cert⟩ :: s.sent }
    else s

inductive DistanceEvent
  | attest (r : StopReading)
  | echo (payload : Bytes)
  | finalize (app : AppState)
  | newRound

def distanceClaimantStep (cfg : ArrivalConfig) (s : DistanceClaimant) : DistanceEvent → DistanceClaimant
  | .attest r => s.attest cfg r
  | .echo payload => s.handleStoppedDistanceEcho cfg payload
  | .finalize app => s.finalizeLocalStoppedDistanceCert cfg app
  | .newRound => { DistanceClaimant.initial with sent := s.sent }

structure SameNetwork (cfg cfg' : ArrivalConfig) : Prop where
  totalVehicles : cfg'.totalVehicles = cfg.totalVehicles
  toleratedFaults : cfg'.toleratedFaults = cfg.toleratedFaults
  registeredKeys : cfg'.registeredKeys = cfg.registeredKeys
  verifyBytes : cfg'.verifyBytes = cfg.verifyBytes
  sha256 : cfg'.sha256 = cfg.sha256

variable {cfg cfg' : ArrivalConfig} {s : DistanceClaimant}

lemma SameNetwork.checkDistanceEchoes (h : SameNetwork cfg cfg') (att : StoppedDistanceAttestation) (seen : List ℤ)
    (echoes : List StoppedDistanceEcho) :
    Arrival.checkDistanceEchoes cfg' att seen echoes = Arrival.checkDistanceEchoes cfg att seen echoes := by
  have hmatches : distanceEchoMatches cfg' att = distanceEchoMatches cfg att := by
    funext echo
    have heligible : isArrivalSignerEligible cfg' echo.echoingReplicaId =
        isArrivalSignerEligible cfg echo.echoingReplicaId := by
      rw [isArrivalSignerEligible, isArrivalSignerEligible, h.totalVehicles]
    have hkey : cfg'.keyMatches echo.echoingReplicaId echo.signerPubKey =
        cfg.keyMatches echo.echoingReplicaId echo.signerPubKey := by
      rw [ArrivalConfig.keyMatches, ArrivalConfig.keyMatches, h.registeredKeys]
    have hhash : stoppedDistanceAttestationHash cfg' att = stoppedDistanceAttestationHash cfg att := by
      rw [stoppedDistanceAttestationHash, stoppedDistanceAttestationHash, h.sha256]
    rw [distanceEchoMatches, distanceEchoMatches, heligible, hkey, hhash, h.verifyBytes]
  induction echoes generalizing seen with
  | nil => rfl
  | cons echo echoes ih => rw [Arrival.checkDistanceEchoes, Arrival.checkDistanceEchoes, hmatches, ih]

lemma SameNetwork.validateStoppedDistanceCert (h : SameNetwork cfg cfg') {app app' : AppState}
    (hepoch : app'.currentEpoch = app.currentEpoch) (cert : StoppedDistanceCert) :
    Arrival.validateStoppedDistanceCert cfg' app' cert = Arrival.validateStoppedDistanceCert cfg app cert := by
  have hattestation : validateStoppedDistanceAttestation cfg' app' cert.attestation =
      validateStoppedDistanceAttestation cfg app cert.attestation := by
    simp only [validateStoppedDistanceAttestation, hepoch, h.registeredKeys, h.verifyBytes]
  rw [Arrival.validateStoppedDistanceCert, Arrival.validateStoppedDistanceCert, hattestation, h.checkDistanceEchoes,
    h.totalVehicles, ArrivalConfig.faults, ArrivalConfig.faults, h.totalVehicles, h.toleratedFaults]

lemma decimalInt_length_le {i : ℤ} (h : -2147483648 ≤ i ∧ i < 2147483648) : (decimalInt i).length ≤ 11 := by
  have hnat : ∀ n < 10 ^ 10, (decimalNat n).length ≤ 10 := by
    intro n hn
    rw [decimalNat, List.length_map, Nat.length_toDigits_le_iff (by norm_num) (by norm_num)]
    exact hn
  have habs := hnat i.natAbs (by omega)
  rw [decimalInt]
  split
  · rw [List.length_cons]
    omega
  · omega

lemma toHex_length (bs : Bytes) : (toHex bs).length = bs.length * 2 := by
  induction bs with
  | nil => rfl
  | cons b bs ih =>
    rw [toHex_cons, List.length_cons, List.length_cons, ih, List.length_cons]
    omega

lemma decimalNat_length_le {n : ℕ} (h : n ≤ cryptoSigMaxBytes) : (decimalNat n).length ≤ 2 := by
  rw [decimalNat, List.length_map, Nat.length_toDigits_le_iff (by norm_num) (by norm_num)]
  rw [cryptoSigMaxBytes] at h
  omega

lemma myCarId_length_le (h : cfg.Sized) : (myCarId cfg.replicaId).length ≤ 14 := by
  have hid := decimalInt_length_le h.replicaId
  have hveh : (ascii "veh").length = 3 := rfl
  rw [myCarId, List.length_append]
  omega

lemma attestation_length {att : StoppedDistanceAttestation} (h : att.Fits) (hcar : att.targetCarId.length ≤ 14) :
    (serializeStoppedDistanceAttestation att).length < uint32Modulus := by
  have hepoch := decimalInt_length_le h.epoch
  have hdistance := decimalInt_length_le h.distanceToStopCm
  have hlen := decimalNat_length_le h.signature
  rw [serializeAttestation_eq h, StoppedDistanceAttestation.fields, joinWith, uint32Modulus]
  simp only [List.intercalate_cons_cons, List.intercalate_singleton, List.length_append, List.length_cons,
    List.length_nil, toHex_length, h.earlyClaimHash, paddedSignature_length h.signature, cryptoSigMaxBytes, hashBytes]
  omega

lemma echo_length {echo : BufferedDistanceEcho} (h : echo.Fits) (hcar : echo.targetCarId.length ≤ 14) :
    (serializeStoppedDistanceEcho echo).length < uint32Modulus := by
  have hid := decimalInt_length_le h.echoingReplicaId
  have hepoch := decimalInt_length_le h.epoch
  have hdistance := decimalInt_length_le h.distanceToStopCm
  have hbuffer := h.buffer
  have hlen := @decimalNat_length_le echo.signature.length (by omega)
  have hbar : (ascii "|").length = 1 := rfl
  have hcomma : (ascii ",").length = 1 := rfl
  rw [cryptoSigMaxBytes] at hbuffer
  rw [serializeStoppedDistanceEcho, stoppedDistanceEchoSigningPayload, distanceEchoAuth, joinWith, uint32Modulus]
  simp only [List.intercalate_cons_cons, List.intercalate_singleton, List.length_append, List.length_cons,
    List.length_nil, toHex_length, h.earlyClaimHash, h.attestationHash, h.signerPubKey, hbar, hcomma, hashBytes,
    cryptoPubkeyBytes]
  omega

lemma myCarId_notMem (replicaId : ℤ) : (124 : UInt8) ∉ myCarId replicaId := by
  rw [myCarId, List.mem_append, not_or]
  exact ⟨by decide, decimalInt_notMem (by decide) (by decide)⟩

lemma signed32_range {v : ℕ} (h : v < uint32Modulus) : -2147483648 ≤ signed32 v ∧ signed32 v < 2147483648 := by
  rw [uint32Modulus] at h
  rw [signed32]
  split <;> omega

lemma ownDistanceAttestation_fits {r : StopReading} {att : StoppedDistanceAttestation}
    (h : ownDistanceAttestation cfg r = some att) : att.Fits ∧ att.targetCarId = myCarId cfg.replicaId := by
  obtain ⟨sig, hsig, rfl⟩ := Option.map_eq_some_iff.mp h
  obtain ⟨hne, hlen⟩ := r.sign_sized _ _ hsig
  exact ⟨⟨myCarId_notMem _, signed32_range r.currentEpoch_lt, r.claimHash_length, r.distance_range, hne, hlen⟩, rfl⟩

lemma distanceEchoOf_fits {att : StoppedDistanceAttestation} {sig : Bytes} (hcfg : cfg.Sized) (h : att.Fits)
    (hsig : SignatureSized sig) : (distanceEchoOf cfg att sig).Fits where
  echoingReplicaId := hcfg.replicaId
  targetCarId := h.targetCarId
  epoch := h.epoch
  earlyClaimHash := h.earlyClaimHash
  attestationHash := hcfg.sha256 _
  distanceToStopCm := h.distanceToStopCm
  signerPubKey := hcfg.publicKey
  signed := hsig.1
  buffer := by
    have hlen := hsig.2
    have hzeros : (distanceEchoOf cfg att sig).unused.length = cryptoSigMaxBytes - sig.length := zeros_length _
    change sig.length + (distanceEchoOf cfg att sig).unused.length = cryptoSigMaxBytes
    omega

lemma deserializeDistanceEcho_fits {payload : Bytes} {echo : BufferedDistanceEcho}
    (h : deserializeStoppedDistanceEcho payload = .value echo) (hsigned : echo.signature ≠ []) : echo.Fits := by
  have hdefault : echo ≠ .empty := fun heq => hsigned (by rw [heq]; rfl)
  rw [deserializeStoppedDistanceEcho] at h
  split at h
  · exact absurd (Outcome.value.inj h).symm hdefault
  · have hread := Outcome.caught_eq_value h hdefault
    rw [readDistanceEcho] at hread
    obtain ⟨signer, hsigner, hread⟩ := Outcome.bind_eq_value.mp hread
    obtain ⟨epoch, hepoch, hread⟩ := Outcome.bind_eq_value.mp hread
    obtain ⟨early, -, hread⟩ := Outcome.bind_eq_value.mp hread
    obtain ⟨attHash, -, hread⟩ := Outcome.bind_eq_value.mp hread
    split at hread
    · exact absurd (Outcome.value.inj hread).symm hdefault
    next hhashes =>
      push Not at hhashes
      obtain ⟨distance, hdistance, hread⟩ := Outcome.bind_eq_value.mp hread
      split at hread
      · exact absurd (Outcome.value.inj hread).symm hdefault
      · obtain ⟨pub, -, hread⟩ := Outcome.bind_eq_value.mp hread
        obtain ⟨sigLen, -, hread⟩ := Outcome.bind_eq_value.mp hread
        obtain ⟨sig, -, hread⟩ := Outcome.bind_eq_value.mp hread
        split at hread
        · exact absurd (Outcome.value.inj hread).symm hdefault
        next hsizes =>
          push Not at hsizes
          obtain ⟨hpub, hsig, -, -⟩ := hsizes
          obtain rfl := Outcome.value.inj hread
          refine ⟨stoi_range (Outcome.ofOption_eq_value.mp hsigner), getD_splitStr_notMem _ _ _,
            stoi_range (Outcome.ofOption_eq_value.mp hepoch), hhashes.1, hhashes.2,
            stoi_range (Outcome.ofOption_eq_value.mp hdistance), hpub, hsigned, ?_⟩
          rw [← hsig]
          dsimp only
          rw [← List.length_append, List.take_append_drop]

structure DistanceClaimant.Holds (cfg : ArrivalConfig) (s : DistanceClaimant) : Prop where
  attestation : s.attestationSent = true → s.localAttestation.Fits ∧
    s.localAttestation.targetCarId = myCarId cfg.replicaId
  echoes : ∀ echo ∈ s.receivedEchoes, echo.Fits ∧ echo.targetCarId = myCarId cfg.replicaId

structure SentDistanceCert.Sound (cfg : ArrivalConfig) (c : SentDistanceCert) : Prop where
  fits : c.cert.Fits cfg
  bytes : c.bytes = serializeStoppedDistanceCert c.cert
  valid : ∃ app : AppState, app.currentEpoch = c.currentEpoch ∧ validateStoppedDistanceCert cfg app c.cert.cert = true

lemma attest_holds (h : s.Holds cfg) (r : StopReading) : (s.attest cfg r).Holds cfg := by
  rw [DistanceClaimant.attest]
  split
  · exact h
  · cases hatt : ownDistanceAttestation cfg r with
    | none => exact h
    | some att => exact ⟨fun _ => ownDistanceAttestation_fits hatt, h.echoes⟩

lemma collect_holds (h : s.Holds cfg) {echo : BufferedDistanceEcho} (hfits : echo.signature ≠ [] → echo.Fits) :
    (s.collectStoppedDistanceEcho cfg echo).Holds cfg := by
  rw [DistanceClaimant.collectStoppedDistanceEcho]
  split
  · exact h
  next haccepted =>
    split
    · exact h
    · split
      · exact h
      · simp only [Bool.or_eq_true, not_or, Bool.not_eq_true, Bool.not_eq_false', distanceEchoMatches,
          Bool.and_eq_true, decide_eq_true_eq] at haccepted
        obtain ⟨⟨⟨hsent, -⟩, ⟨⟨⟨⟨⟨⟨⟨⟨-, hsigned⟩, hcar⟩, -⟩, -⟩, -⟩, -⟩, -⟩, -⟩⟩, -⟩ := haccepted
        refine ⟨h.attestation, fun e he => ?_⟩
        rcases List.mem_append.mp he with hold | hnew
        · exact h.echoes e hold
        · obtain rfl := List.mem_singleton.mp hnew
          exact ⟨hfits hsigned, hcar.trans (h.attestation hsent).2⟩

lemma handleEcho_holds (h : s.Holds cfg) (payload : Bytes) : (s.handleStoppedDistanceEcho cfg payload).Holds cfg := by
  rw [DistanceClaimant.handleStoppedDistanceEcho]
  split
  next echo hread => exact collect_holds h (deserializeDistanceEcho_fits hread)
  next => exact h

lemma finalize_sound (hcfg : cfg.Sized) (h : s.Holds cfg) (app : AppState) :
    (s.finalizeLocalStoppedDistanceCert cfg app).Holds cfg ∧
      ∀ c ∈ (s.finalizeLocalStoppedDistanceCert cfg app).sent, c ∈ s.sent ∨ c.Sound cfg := by
  rw [DistanceClaimant.finalizeLocalStoppedDistanceCert]
  split
  · exact ⟨h, fun c hc => Or.inl hc⟩
  next hready =>
    split
    · exact ⟨h, fun c hc => Or.inl hc⟩
    · dsimp only
      split
      next hvalid =>
        refine ⟨⟨h.attestation, h.echoes⟩, fun c hc => ?_⟩
        rcases List.mem_cons.mp hc with rfl | hold
        · right
          have hsent : s.attestationSent = true := by
            by_contra hno
            simp [hno] at hready
          have hcar := myCarId_length_le hcfg
          obtain ⟨hfits, hown⟩ := h.attestation hsent
          have hcount : (s.receivedEchoes.length : ℤ) ≤ max 0 (cfg.totalVehicles - 1) := by
            simp only [validateStoppedDistanceCert, BufferedDistanceCert.cert, List.length_map, Bool.and_eq_true,
              decide_eq_true_eq] at hvalid
            exact hvalid.1.2
          have htotal := hcfg.totalVehicles
          refine ⟨⟨hfits, fun e he => (h.echoes e he).1, ⟨hcount, ?_⟩, attestation_length hfits (by rw [hown]; exact hcar),
            fun e he => echo_length (h.echoes e he).1 (by rw [(h.echoes e he).2]; exact hcar)⟩, rfl, app, rfl, hvalid⟩
          rw [uint32Modulus]
          dsimp only
          omega
        · exact Or.inl hold
      next => exact ⟨h, fun c hc => Or.inl hc⟩

lemma newRound_holds (cfg : ArrivalConfig) (sent : List SentDistanceCert) :
    DistanceClaimant.Holds cfg { DistanceClaimant.initial with sent := sent } where
  attestation := fun hsent => nomatch hsent
  echoes := fun _ hecho => absurd hecho List.not_mem_nil

lemma distanceClaimantStep_sent (hcfg : cfg.Sized) (h : s.Holds cfg ∧ ∀ c ∈ s.sent, c.Sound cfg) (ev : DistanceEvent) :
    (distanceClaimantStep cfg s ev).Holds cfg ∧ ∀ c ∈ (distanceClaimantStep cfg s ev).sent, c.Sound cfg := by
  cases ev with
  | attest r =>
    refine ⟨attest_holds h.1 r, ?_⟩
    rw [distanceClaimantStep, DistanceClaimant.attest]
    repeat' split
    all_goals exact h.2
  | echo payload =>
    refine ⟨handleEcho_holds h.1 payload, ?_⟩
    rw [distanceClaimantStep, DistanceClaimant.handleStoppedDistanceEcho]
    split
    · rw [DistanceClaimant.collectStoppedDistanceEcho]
      repeat' split
      all_goals exact h.2
    · exact h.2
  | finalize app =>
    obtain ⟨hholds, hsent⟩ := finalize_sound hcfg h.1 app
    exact ⟨hholds, fun c hc => (hsent c hc).elim (h.2 c) id⟩
  | newRound => exact ⟨newRound_holds cfg s.sent, h.2⟩

def ValidEverywhere (cfg : ArrivalConfig) (c : SentDistanceCert) : Prop :=
  ∀ cfg' app', SameNetwork cfg cfg' → app'.currentEpoch = c.currentEpoch →
    deserializeStoppedDistanceCert cfg' c.bytes = .value c.cert ∧
      validateStoppedDistanceCert cfg' app' c.cert.cert = true

lemma SentDistanceCert.Sound.everywhere {c : SentDistanceCert} (h : c.Sound cfg) : ValidEverywhere cfg c := by
  intro cfg' app' hsame hepoch
  obtain ⟨app, happ, hvalid⟩ := h.valid
  have hfits : c.cert.Fits cfg' :=
    ⟨h.fits.attestation, h.fits.echoes, hsame.totalVehicles ▸ h.fits.count, h.fits.attestationLength, h.fits.echoLength⟩
  exact ⟨h.bytes ▸ deserialize_distanceCert hfits,
    (hsame.validateStoppedDistanceCert (hepoch.trans happ.symm) _).trans hvalid⟩

lemma sentCerts_everywhere (hcfg : cfg.Sized) (events : List DistanceEvent) :
    ∀ c ∈ (run (distanceClaimantStep cfg) .initial events).sent, ValidEverywhere cfg c := by
  have hinit : DistanceClaimant.initial.Holds cfg ∧ ∀ c ∈ DistanceClaimant.initial.sent, c.Sound cfg :=
    ⟨newRound_holds cfg [], fun c hc => absurd hc List.not_mem_nil⟩
  have hsound := @run_invariant _ _ (distanceClaimantStep cfg)
    (fun s => s.Holds cfg ∧ ∀ c ∈ s.sent, c.Sound cfg)
    (fun _ ev h => distanceClaimantStep_sent hcfg h ev) _ events hinit
  exact fun c hc => (hsound.2 c hc).everywhere

theorem stoppedDistance_codec (hcfg : cfg.Sized) :
    (∀ r att, ownDistanceAttestation cfg r = some att → att.Fits) ∧
      (∀ att sig, att.Fits → SignatureSized sig → (distanceEchoOf cfg att sig).Fits) ∧
      (∀ att : StoppedDistanceAttestation, att.Fits →
        deserializeStoppedDistanceAttestation (serializeStoppedDistanceAttestation att) = .value att) ∧
      (∀ echo : BufferedDistanceEcho, echo.Fits →
        deserializeStoppedDistanceEcho (serializeStoppedDistanceEcho echo) = .value echo) ∧
      (∀ cert : BufferedDistanceCert, cert.Fits cfg →
        deserializeStoppedDistanceCert cfg (serializeStoppedDistanceCert cert) = .value cert) ∧
      (∀ bytes, ∃ cert, deserializeStoppedDistanceCert cfg bytes = .value cert ∧
        (cert ≠ .empty → ∃ attestation echoes, ConsumesAll bytes cert attestation echoes)) ∧
      ∀ events, ∀ c ∈ (run (distanceClaimantStep cfg) .initial events).sent, ValidEverywhere cfg c := by
  refine ⟨fun r att hatt => (ownDistanceAttestation_fits hatt).1, fun att sig hatt hsig => distanceEchoOf_fits hcfg hatt hsig,
    fun att => deserialize_attestation, fun echo => deserialize_distanceEcho, fun cert => deserialize_distanceCert,
    fun bytes => ?_, sentCerts_everywhere hcfg⟩
  obtain ⟨cert, hcert⟩ := deserializeDistanceCert_total cfg bytes
  refine ⟨cert, hcert, fun hne => ?_⟩
  rw [deserializeStoppedDistanceCert] at hcert
  obtain ⟨read, hread, hvalue⟩ := Outcome.bind_eq_value.mp hcert
  cases read with
  | none => exact absurd (Outcome.value.inj hvalue).symm hne
  | some c =>
    obtain rfl := Outcome.value.inj hvalue
    exact readDistanceCert_consumes hread

def fullKey (car : ℕ) : Bytes := List.replicate cryptoPubkeyBytes (UInt8.ofNat (10 + car))

def fullSizedCars : ArrivalConfig :=
  { fourWitnesses with
    registeredKeys := [(0, fullKey 0), (1, fullKey 1), (2, fullKey 2), (3, fullKey 3)]
    publicKey := fullKey 2
    sha256 := fun bs => List.replicate hashBytes ((checksum bs).headD 0) }

def atStopLine : StopReading where
  currentEpoch := 0
  claimHash := List.replicate hashBytes 124
  distanceToStopCm := 250
  sign := fun msg => some (checksum (fullKey 2 ++ msg))
  currentEpoch_lt := by decide
  claimHash_length := by decide
  distance_range := by decide
  sign_sized := by
    intro msg sig hsig
    obtain rfl := Option.some.inj hsig
    exact ⟨by simp [checksum], by simp [checksum, cryptoSigMaxBytes]⟩

def echoedByCar1 : Bytes :=
  let att := (ownDistanceAttestation fullSizedCars atStopLine).getD .empty
  let car1 := { fullSizedCars with replicaId := 1, publicKey := fullKey 1 }
  let unsigned := distanceEchoOf car1 att []
  serializeStoppedDistanceEcho (distanceEchoOf car1 att
    (checksum (fullKey 1 ++ stoppedDistanceEchoSigningPayload unsigned.toStoppedDistanceEcho)))

def stoppedRound : List DistanceEvent := [.attest atStopLine, .echo echoedByCar1, .finalize .initial]

lemma fullSizedCars_sized : fullSizedCars.Sized where
  replicaId := by decide
  totalVehicles := by decide
  publicKey := by decide
  sha256 := fun _ => List.length_replicate

theorem stoppedDistance_codec_round :
    (run (distanceClaimantStep fullSizedCars) .initial stoppedRound).sent.length = 1 ∧
      ∀ c ∈ (run (distanceClaimantStep fullSizedCars) .initial stoppedRound).sent, ValidEverywhere fullSizedCars c :=
  ⟨by decide +kernel, (stoppedDistance_codec fullSizedCars_sized).2.2.2.2.2.2 stoppedRound⟩

end V2vBft.Arrival
