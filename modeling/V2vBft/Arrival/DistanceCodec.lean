import V2vBft.Arrival.AnnouncementCodec
import V2vBft.Arrival.Distance
import V2vBft.App.EchoText
import V2vBft.Wire.Framed

/-! The stopped-distance texts and their binary envelope: what is written reads back, and every input is read safely. -/

namespace V2vBft.Arrival

open Wire App Library

def hashBytes : ℕ := 32

def StoppedDistanceAttestation.empty : StoppedDistanceAttestation := ⟨[], 0, zeros hashBytes, 0, []⟩

structure BufferedDistanceEcho extends StoppedDistanceEcho where
  unused : Bytes
  deriving DecidableEq, Repr

def BufferedDistanceEcho.empty : BufferedDistanceEcho :=
  ⟨⟨-1, [], 0, zeros hashBytes, zeros hashBytes, 0, zeros cryptoPubkeyBytes, []⟩, zeros cryptoSigMaxBytes⟩

structure BufferedDistanceCert where
  attestation : StoppedDistanceAttestation
  echoes : List BufferedDistanceEcho
  deriving DecidableEq, Repr

def BufferedDistanceCert.empty : BufferedDistanceCert := ⟨.empty, []⟩

def BufferedDistanceCert.cert (c : BufferedDistanceCert) : StoppedDistanceCert :=
  ⟨c.attestation, c.echoes.map BufferedDistanceEcho.toStoppedDistanceEcho⟩

def attestationDelimiter (parts : List Bytes) : ℕ := (joinWith 124 (parts.take 5)).length + 1

-- the try block: `.thrown` a number or hex conversion throws, `.outside` the copy leaves the payload
def readDistanceAttestation (bytes : Bytes) (parts : List Bytes) : Outcome StoppedDistanceAttestation :=
  (Outcome.ofOption (stoi (parts.getD 1 []))).bind fun epoch =>
  (Outcome.ofOption (fromHex (parts.getD 2 []))).bind fun early =>
  if early.length ≠ hashBytes then .value .empty
  else
    (Outcome.ofOption (stoi (parts.getD 3 []))).bind fun distance =>
    (Outcome.ofOption (stoi (parts.getD 4 []))).bind fun sigLen =>
    if sigLen ≤ 0 ∨ (cryptoSigMaxBytes : ℤ) < sigLen ∨ bytes.length < attestationDelimiter parts + sigLen.toNat then
      .value .empty
    else
      (Outcome.copy bytes (attestationDelimiter parts) sigLen.toNat).bind fun signature =>
      .value ⟨parts.getD 0 [], epoch, early, distance, signature⟩

def deserializeStoppedDistanceAttestation (bytes : Bytes) : Outcome StoppedDistanceAttestation :=
  let parts := splitStr bytes 124
  if parts.length < 6 then .value .empty else (readDistanceAttestation bytes parts).caught .empty

def distanceEchoAuth (echo : BufferedDistanceEcho) : Bytes :=
  toHex echo.signerPubKey ++ ascii "," ++ decimalNat echo.signature.length ++ ascii "," ++
    toHex (echo.signature ++ echo.unused)

def serializeStoppedDistanceEcho (echo : BufferedDistanceEcho) : Bytes :=
  stoppedDistanceEchoSigningPayload echo.toStoppedDistanceEcho ++ ascii "|" ++ distanceEchoAuth echo

-- "pubkey,length,buffer"; none: a comma is missing
def authParts (auth : Bytes) : Option (Bytes × Bytes × Bytes) :=
  let behind := (auth.dropWhile (· ≠ 44)).drop 1
  if 44 ∉ auth ∨ 44 ∉ behind then none
  else some (auth.takeWhile (· ≠ 44), behind.takeWhile (· ≠ 44), (behind.dropWhile (· ≠ 44)).drop 1)

def readDistanceEcho (parts : List Bytes) : Outcome BufferedDistanceEcho :=
  (Outcome.ofOption (stoi (parts.getD 0 []))).bind fun signer =>
  (Outcome.ofOption (stoi (parts.getD 2 []))).bind fun epoch =>
  (Outcome.ofOption (fromHex (parts.getD 3 []))).bind fun early =>
  (Outcome.ofOption (fromHex (parts.getD 4 []))).bind fun attHash =>
  if early.length ≠ hashBytes ∨ attHash.length ≠ hashBytes then .value .empty
  else
    (Outcome.ofOption (stoi (parts.getD 5 []))).bind fun distance =>
    match authParts (parts.getD 6 []) with
    | none => .value .empty
    | some (pubText, lenText, sigText) =>
      (Outcome.ofOption (fromHex pubText)).bind fun pub =>
      (Outcome.ofOption (stoi lenText)).bind fun sigLen =>
      (Outcome.ofOption (fromHex sigText)).bind fun sig =>
      if pub.length ≠ cryptoPubkeyBytes ∨ sig.length ≠ cryptoSigMaxBytes ∨ sigLen ≤ 0 ∨
          (cryptoSigMaxBytes : ℤ) < sigLen then .value .empty
      else
        .value ⟨⟨signer, parts.getD 1 [], epoch, early, attHash, distance, pub, sig.take sigLen.toNat⟩,
          sig.drop sigLen.toNat⟩

def deserializeStoppedDistanceEcho (bytes : Bytes) : Outcome BufferedDistanceEcho :=
  let parts := splitStr bytes 124
  if parts.length < 7 then .value .empty else (readDistanceEcho parts).caught .empty

def envelopeTag : Bytes := ascii "SDC" ++ [1]

def distanceEnvelope (attestation : Bytes) (echoes : List Bytes) : Bytes :=
  envelopeTag ++ framed attestation ++ bigU32 echoes.length ++ echoes.flatMap framed

def serializeStoppedDistanceCert (cert : BufferedDistanceCert) : Bytes :=
  distanceEnvelope (serializeStoppedDistanceAttestation cert.attestation) (cert.echoes.map serializeStoppedDistanceEcho)

def readDistanceEchoes (bytes : Bytes) : ℕ → ℕ → Outcome (Option (List BufferedDistanceEcho × ℕ))
  | 0, off => .value (some ([], off))
  | count + 1, off =>
    (readFrame bytes off).bind fun
      | none => .value none
      | some (frame, next) =>
        (deserializeStoppedDistanceEcho frame).bind fun echo =>
        (readDistanceEchoes bytes count next).bind fun
          | none => .value none
          | some (echoes, last) => .value (some (echo :: echoes, last))

-- none: the default certificate is returned
def readDistanceCert (cfg : ArrivalConfig) (bytes : Bytes) : Outcome (Option BufferedDistanceCert) :=
  if bytes.length < 12 ∨ bytes.take 4 ≠ envelopeTag then .value none
  else
    (readFrame bytes 4).bind fun
      | none => .value none
      | some (frame, off) =>
        (deserializeStoppedDistanceAttestation frame).bind fun attestation =>
        (readBigU32 bytes off).bind fun
          | none => .value none
          | some count =>
            if max 0 (cfg.totalVehicles - 1) < count then .value none
            else
              (readDistanceEchoes bytes count (off + 4)).bind fun
                | none => .value none
                | some (echoes, last) =>
                  .value (if last = bytes.length then some ⟨attestation, echoes⟩ else none)

def deserializeStoppedDistanceCert (cfg : ArrivalConfig) (bytes : Bytes) : Outcome BufferedDistanceCert :=
  (readDistanceCert cfg bytes).bind fun cert => .value (cert.getD .empty)

structure StoppedDistanceAttestation.Fits (att : StoppedDistanceAttestation) : Prop where
  targetCarId : 124 ∉ att.targetCarId
  epoch : -2147483648 ≤ att.epoch ∧ att.epoch < 2147483648
  earlyClaimHash : att.earlyClaimHash.length = hashBytes
  distanceToStopCm : -2147483648 ≤ att.distanceToStopCm ∧ att.distanceToStopCm < 2147483648
  signed : att.signature ≠ []
  signature : att.signature.length ≤ cryptoSigMaxBytes

structure BufferedDistanceEcho.Fits (echo : BufferedDistanceEcho) : Prop where
  echoingReplicaId : -2147483648 ≤ echo.echoingReplicaId ∧ echo.echoingReplicaId < 2147483648
  targetCarId : 124 ∉ echo.targetCarId
  epoch : -2147483648 ≤ echo.epoch ∧ echo.epoch < 2147483648
  earlyClaimHash : echo.earlyClaimHash.length = hashBytes
  attestationHash : echo.attestationHash.length = hashBytes
  distanceToStopCm : -2147483648 ≤ echo.distanceToStopCm ∧ echo.distanceToStopCm < 2147483648
  signerPubKey : echo.signerPubKey.length = cryptoPubkeyBytes
  signed : echo.signature ≠ []
  buffer : echo.signature.length + echo.unused.length = cryptoSigMaxBytes

structure BufferedDistanceCert.Fits (cfg : ArrivalConfig) (cert : BufferedDistanceCert) : Prop where
  attestation : cert.attestation.Fits
  echoes : ∀ echo ∈ cert.echoes, echo.Fits
  count : (cert.echoes.length : ℤ) ≤ max 0 (cfg.totalVehicles - 1) ∧ cert.echoes.length < uint32Modulus
  attestationLength : (serializeStoppedDistanceAttestation cert.attestation).length < uint32Modulus
  echoLength : ∀ echo ∈ cert.echoes, (serializeStoppedDistanceEcho echo).length < uint32Modulus

variable {cfg : ArrivalConfig} {att : StoppedDistanceAttestation} {echo : BufferedDistanceEcho}
  {cert : BufferedDistanceCert} {bytes : Bytes}

def StoppedDistanceAttestation.fields (att : StoppedDistanceAttestation) : List Bytes :=
  [att.targetCarId, decimalInt att.epoch, toHex att.earlyClaimHash, decimalInt att.distanceToStopCm,
    decimalNat att.signature.length]

lemma serializeAttestation_eq (h : att.Fits) :
    serializeStoppedDistanceAttestation att =
      joinWith 124 att.fields ++ 124 :: paddedSignature att.signature := by
  have hbar : ascii "|" = [124] := by decide
  rw [serializeStoppedDistanceAttestation, canonicalStoppedDistanceAttestationPayload, joinWith, joinWith,
    StoppedDistanceAttestation.fields, resize_eq h.signature, hbar, paddedSignature]
  simp only [List.intercalate_cons_cons, List.intercalate_singleton, List.append_assoc, List.cons_append,
    List.nil_append]

lemma StoppedDistanceAttestation.Fits.fields_notMem (h : att.Fits) : ∀ p ∈ att.fields, 124 ∉ p := by
  have hint : ∀ i : ℤ, (124 : UInt8) ∉ decimalInt i := fun i => decimalInt_notMem (by decide) (by decide)
  simp only [fields, List.forall_mem_cons, List.not_mem_nil, false_imp_iff, implies_true, and_true]
  exact ⟨h.targetCarId, hint _, toHex_notMem (Or.inr (by decide)), hint _, decimalNat_notMem (by decide)⟩

theorem deserialize_attestation (h : att.Fits) :
    deserializeStoppedDistanceAttestation (serializeStoppedDistanceAttestation att) = .value att := by
  have hsig := h.signature
  have hpos := List.length_pos_of_ne_nil h.signed
  rw [cryptoSigMaxBytes] at hsig
  rw [serializeAttestation_eq h]
  have hsplit := splitStr_joined (paddedSignature att.signature) (by simp [StoppedDistanceAttestation.fields])
    h.fields_notMem
  have hrest := List.length_pos_of_ne_nil (splitStr_ne_nil (paddedSignature att.signature) 124)
  have hparts : ¬(att.fields ++ splitStr (paddedSignature att.signature) 124).length < 6 := by
    rw [List.length_append, StoppedDistanceAttestation.fields]
    simp only [List.length_cons, List.length_nil]
    omega
  have hdelimiter : attestationDelimiter (att.fields ++ splitStr (paddedSignature att.signature) 124) =
      (joinWith 124 att.fields).length + 1 := by
    rw [attestationDelimiter, List.take_append_of_le_length (Nat.le_refl 5), StoppedDistanceAttestation.fields,
      List.take_of_length_le (Nat.le_refl 5)]
  have hlen : (joinWith 124 att.fields ++ 124 :: paddedSignature att.signature).length =
      (joinWith 124 att.fields).length + 1 + 72 := by
    rw [List.length_append, List.length_cons, paddedSignature_length h.signature, cryptoSigMaxBytes]
  have hcopy : Outcome.copy (joinWith 124 att.fields ++ 124 :: paddedSignature att.signature)
      ((joinWith 124 att.fields).length + 1) att.signature.length = .value att.signature := by
    rw [Outcome.copy_of_le (by omega), drop_behind, paddedSignature, List.take_left]
  rw [deserializeStoppedDistanceAttestation, joinWith, hsplit, if_neg hparts, readDistanceAttestation, hdelimiter,
    ← joinWith]
  simp only [StoppedDistanceAttestation.fields, List.cons_append, List.nil_append, List.getD_cons_succ,
    List.getD_cons_zero, stoi_decimalInt h.epoch, fromHex_toHex, stoi_decimalInt h.distanceToStopCm,
    stoi_decimalNat (by omega : att.signature.length < 2147483648), Outcome.ofOption_some, Outcome.value_bind,
    h.earlyClaimHash, ne_eq, not_true_eq_false, if_false, Int.toNat_natCast]
  simp only [StoppedDistanceAttestation.fields] at hcopy hlen
  rw [if_neg (by rw [hlen, cryptoSigMaxBytes]; omega), hcopy, Outcome.value_bind]
  rfl

lemma authParts_auth (echo : BufferedDistanceEcho) :
    authParts (distanceEchoAuth echo) =
      some (toHex echo.signerPubKey, decimalNat echo.signature.length, toHex (echo.signature ++ echo.unused)) := by
  have hcomma : ascii "," = [44] := by decide
  have hpub : (44 : UInt8) ∉ toHex echo.signerPubKey := toHex_notMem (by decide)
  have hlen : (44 : UInt8) ∉ decimalNat echo.signature.length := by
    intro h
    have hdigit := decimalNat_digits h
    simp at hdigit
  have hauth : distanceEchoAuth echo = toHex echo.signerPubKey ++
      44 :: (decimalNat echo.signature.length ++ 44 :: toHex (echo.signature ++ echo.unused)) := by
    rw [distanceEchoAuth, hcomma]
    simp only [List.append_assoc, List.cons_append, List.nil_append]
  obtain ⟨hfirst, hbehind⟩ := @split_at_first _ (decimalNat echo.signature.length ++
    44 :: toHex (echo.signature ++ echo.unused)) _ hpub
  obtain ⟨hsecond, hthird⟩ := @split_at_first _ (toHex (echo.signature ++ echo.unused)) _ hlen
  rw [authParts, hauth, hbehind, if_neg (by simp), hfirst, hsecond, hthird]

def BufferedDistanceEcho.fields (echo : BufferedDistanceEcho) : List Bytes :=
  [decimalInt echo.echoingReplicaId, echo.targetCarId, decimalInt echo.epoch, toHex echo.earlyClaimHash,
    toHex echo.attestationHash, decimalInt echo.distanceToStopCm, distanceEchoAuth echo]

lemma distanceEchoAuth_notMem (echo : BufferedDistanceEcho) : (124 : UInt8) ∉ distanceEchoAuth echo := by
  have hcomma : ascii "," = [44] := by decide
  have hhex : ∀ bs : Bytes, (124 : UInt8) ∉ toHex bs := fun bs => toHex_notMem (Or.inr (by decide))
  rw [distanceEchoAuth, hcomma]
  simp only [List.mem_append, List.mem_singleton, not_or]
  exact ⟨⟨⟨⟨hhex _, by decide⟩, decimalNat_notMem (by decide)⟩, by decide⟩, hhex _⟩

lemma BufferedDistanceEcho.Fits.split (h : echo.Fits) : splitStr (serializeStoppedDistanceEcho echo) 124 = echo.fields := by
  have hbar : ascii "|" = [124] := by decide
  have hint : ∀ i : ℤ, (124 : UInt8) ∉ decimalInt i := fun i => decimalInt_notMem (by decide) (by decide)
  have hhex : ∀ bs : Bytes, (124 : UInt8) ∉ toHex bs := fun bs => toHex_notMem (Or.inr (by decide))
  have hfields : ∀ p ∈ echo.fields, 124 ∉ p := by
    simp only [fields, List.forall_mem_cons, List.not_mem_nil, false_imp_iff, implies_true, and_true]
    exact ⟨hint _, h.targetCarId, hint _, hhex _, hhex _, hint _, distanceEchoAuth_notMem echo⟩
  have hjoin : serializeStoppedDistanceEcho echo = [124].intercalate echo.fields := by
    rw [serializeStoppedDistanceEcho, stoppedDistanceEchoSigningPayload, joinWith, fields, hbar]
    simp only [List.intercalate_cons_cons, List.intercalate_singleton, List.append_assoc]
  rw [hjoin, splitStr, List.splitOn_intercalate 124 hfields (by simp [fields])]

theorem deserialize_distanceEcho (h : echo.Fits) :
    deserializeStoppedDistanceEcho (serializeStoppedDistanceEcho echo) = .value echo := by
  have hbuffer := h.buffer
  have hpos := List.length_pos_of_ne_nil h.signed
  have hsig : (echo.signature ++ echo.unused).length = cryptoSigMaxBytes := by rw [List.length_append, hbuffer]
  rw [cryptoSigMaxBytes] at hbuffer
  have hsize : ¬(echo.signerPubKey.length ≠ cryptoPubkeyBytes ∨
      (echo.signature ++ echo.unused).length ≠ cryptoSigMaxBytes ∨ (echo.signature.length : ℤ) ≤ 0 ∨
        (cryptoSigMaxBytes : ℤ) < echo.signature.length) := by
    rw [hsig, h.signerPubKey, cryptoSigMaxBytes]
    omega
  rw [deserializeStoppedDistanceEcho, h.split, BufferedDistanceEcho.fields, if_neg (by simp), readDistanceEcho]
  simp only [List.getD_cons_succ, List.getD_cons_zero, stoi_decimalInt h.echoingReplicaId, stoi_decimalInt h.epoch,
    fromHex_toHex, stoi_decimalInt h.distanceToStopCm, Outcome.ofOption_some, Outcome.value_bind, h.earlyClaimHash,
    h.attestationHash, ne_eq, not_true_eq_false, or_self, if_false, authParts_auth,
    stoi_decimalNat (by omega : echo.signature.length < 2147483648), Int.toNat_natCast]
  rw [if_neg hsize, List.take_left, List.drop_left]
  rfl

lemma readDistanceEchoes_append {echoes : List BufferedDistanceEcho} (hfits : ∀ echo ∈ echoes, echo.Fits)
    (hlen : ∀ echo ∈ echoes, (serializeStoppedDistanceEcho echo).length < uint32Modulus) (a : Bytes) :
    readDistanceEchoes (a ++ (echoes.map serializeStoppedDistanceEcho).flatMap framed) echoes.length a.length =
      .value (some (echoes, (a ++ (echoes.map serializeStoppedDistanceEcho).flatMap framed).length)) := by
  induction echoes generalizing a with
  | nil => simp [readDistanceEchoes]
  | cons echo echoes ih =>
    have hread := hfits echo List.mem_cons_self
    have hne : serializeStoppedDistanceEcho echo ≠ [] := by
      intro hnil
      have hsplit := hread.split
      rw [hnil] at hsplit
      exact absurd (congrArg List.length hsplit) (by simp [splitStr, BufferedDistanceEcho.fields])
    have hstep := ih (fun e he => hfits e (List.mem_cons_of_mem _ he)) (fun e he => hlen e (List.mem_cons_of_mem _ he))
      (a ++ framed (serializeStoppedDistanceEcho echo))
    rw [List.append_assoc] at hstep
    rw [List.map_cons, List.flatMap_cons, List.length_cons, readDistanceEchoes,
      readFrame_append _ _ hne (hlen echo List.mem_cons_self), Outcome.value_bind]
    dsimp only
    rw [deserialize_distanceEcho hread, Outcome.value_bind, hstep, Outcome.value_bind]

lemma serializeAttestation_ne_nil (h : att.Fits) : serializeStoppedDistanceAttestation att ≠ [] := by
  rw [serializeAttestation_eq h]
  simp

theorem deserialize_distanceCert (h : cert.Fits cfg) :
    deserializeStoppedDistanceCert cfg (serializeStoppedDistanceCert cert) = .value cert := by
  have htag : envelopeTag.length = 4 := rfl
  have hcount := h.count.1
  have hatt := readFrame_append envelopeTag (bigU32 cert.echoes.length ++
    (cert.echoes.map serializeStoppedDistanceEcho).flatMap framed) (serializeAttestation_ne_nil h.attestation)
    h.attestationLength
  have hword := readBigU32_append (envelopeTag ++ framed (serializeStoppedDistanceAttestation cert.attestation))
    ((cert.echoes.map serializeStoppedDistanceEcho).flatMap framed) h.count.2
  have hechoes := readDistanceEchoes_append h.echoes h.echoLength
    (envelopeTag ++ (framed (serializeStoppedDistanceAttestation cert.attestation) ++ bigU32 cert.echoes.length))
  have henvelope : serializeStoppedDistanceCert cert =
      envelopeTag ++ (framed (serializeStoppedDistanceAttestation cert.attestation) ++
        (bigU32 cert.echoes.length ++ (cert.echoes.map serializeStoppedDistanceEcho).flatMap framed)) := by
    rw [serializeStoppedDistanceCert, distanceEnvelope, List.length_map]
    simp only [List.append_assoc]
  have hoff : (envelopeTag ++ (framed (serializeStoppedDistanceAttestation cert.attestation) ++
      bigU32 cert.echoes.length)).length =
        (envelopeTag ++ framed (serializeStoppedDistanceAttestation cert.attestation)).length + 4 := by
    simp only [List.length_append, bigU32_length]
    omega
  have hlong : ¬((serializeStoppedDistanceCert cert).length < 12 ∨
      (serializeStoppedDistanceCert cert).take 4 ≠ envelopeTag) := by
    rw [henvelope, List.take_left' htag]
    simp only [List.length_append, framed, bigU32_length, htag, ne_eq, not_true_eq_false, or_false]
    omega
  simp only [List.append_assoc] at hatt hword hechoes hoff
  rw [hoff] at hechoes
  rw [htag] at hatt
  rw [deserializeStoppedDistanceCert, readDistanceCert, if_neg hlong, henvelope, hatt, Outcome.value_bind]
  dsimp only
  rw [deserialize_attestation h.attestation, Outcome.value_bind, hword, Outcome.value_bind]
  dsimp only
  rw [if_neg (by omega), hechoes, Outcome.value_bind]
  dsimp only
  rw [if_pos rfl, Outcome.value_bind, Option.getD_some]

lemma readDistanceAttestation_inside (bytes : Bytes) (parts : List Bytes) :
    readDistanceAttestation bytes parts ≠ .outside := by
  rw [readDistanceAttestation]
  refine Outcome.bind_ne_outside (Outcome.ofOption_ne_outside _) fun epoch _ => ?_
  refine Outcome.bind_ne_outside (Outcome.ofOption_ne_outside _) fun early _ => ?_
  split
  · simp
  · refine Outcome.bind_ne_outside (Outcome.ofOption_ne_outside _) fun distance _ => ?_
    refine Outcome.bind_ne_outside (Outcome.ofOption_ne_outside _) fun sigLen _ => ?_
    split
    · simp
    next h =>
      push Not at h
      rw [Outcome.copy_of_le h.2.2, Outcome.value_bind]
      simp

lemma deserializeAttestation_total (bytes : Bytes) : ∃ att, deserializeStoppedDistanceAttestation bytes = .value att := by
  rw [deserializeStoppedDistanceAttestation]
  split
  · exact ⟨_, rfl⟩
  · exact Outcome.caught_total (readDistanceAttestation_inside bytes _) _

lemma readDistanceEcho_inside (parts : List Bytes) : readDistanceEcho parts ≠ .outside := by
  rw [readDistanceEcho]
  refine Outcome.bind_ne_outside (Outcome.ofOption_ne_outside _) fun signer _ => ?_
  refine Outcome.bind_ne_outside (Outcome.ofOption_ne_outside _) fun epoch _ => ?_
  refine Outcome.bind_ne_outside (Outcome.ofOption_ne_outside _) fun early _ => ?_
  refine Outcome.bind_ne_outside (Outcome.ofOption_ne_outside _) fun attHash _ => ?_
  split
  · simp
  · refine Outcome.bind_ne_outside (Outcome.ofOption_ne_outside _) fun distance _ => ?_
    split
    · simp
    · refine Outcome.bind_ne_outside (Outcome.ofOption_ne_outside _) fun pub _ => ?_
      refine Outcome.bind_ne_outside (Outcome.ofOption_ne_outside _) fun sigLen _ => ?_
      refine Outcome.bind_ne_outside (Outcome.ofOption_ne_outside _) fun sig _ => ?_
      split <;> simp

lemma deserializeDistanceEcho_total (bytes : Bytes) : ∃ echo, deserializeStoppedDistanceEcho bytes = .value echo := by
  rw [deserializeStoppedDistanceEcho]
  split
  · exact ⟨_, rfl⟩
  · exact Outcome.caught_total (readDistanceEcho_inside _) _

lemma readDistanceEchoes_total (bytes : Bytes) (count off : ℕ) : ∃ read, readDistanceEchoes bytes count off = .value read := by
  induction count generalizing off with
  | zero => exact ⟨_, rfl⟩
  | succ count ih =>
    rw [readDistanceEchoes]
    refine Outcome.bind_total (readFrame_total bytes off) fun read _ => ?_
    cases read with
    | none => exact ⟨none, rfl⟩
    | some framed =>
      refine Outcome.bind_total (deserializeDistanceEcho_total framed.1) fun echo _ => ?_
      refine Outcome.bind_total (ih framed.2) fun rest _ => ?_
      cases rest with
      | none => exact ⟨none, rfl⟩
      | some read => exact ⟨_, rfl⟩

theorem deserializeDistanceCert_total (cfg : ArrivalConfig) (bytes : Bytes) :
    ∃ cert, deserializeStoppedDistanceCert cfg bytes = .value cert := by
  have hread : ∃ read, readDistanceCert cfg bytes = .value read := by
    rw [readDistanceCert]
    split
    · exact ⟨none, rfl⟩
    · refine Outcome.bind_total (readFrame_total bytes 4) fun read _ => ?_
      cases read with
      | none => exact ⟨none, rfl⟩
      | some framed =>
        refine Outcome.bind_total (deserializeAttestation_total framed.1) fun att _ => ?_
        refine Outcome.bind_total (readBigU32_total bytes framed.2) fun word _ => ?_
        cases word with
        | none => exact ⟨none, rfl⟩
        | some count =>
          dsimp only
          split
          · exact ⟨none, rfl⟩
          · refine Outcome.bind_total (readDistanceEchoes_total bytes count (framed.2 + 4)) fun echoes _ => ?_
            cases echoes with
            | none => exact ⟨none, rfl⟩
            | some read => exact ⟨_, rfl⟩
  rw [deserializeStoppedDistanceCert]
  exact Outcome.bind_total hread fun read _ => ⟨_, rfl⟩

structure ConsumesAll (bytes : Bytes) (cert : BufferedDistanceCert) (attestation : Bytes) (echoes : List Bytes) : Prop where
  envelope : bytes = distanceEnvelope attestation echoes
  attestation : deserializeStoppedDistanceAttestation attestation = .value cert.attestation
  echoes : List.Forall₂ (fun frame echo => deserializeStoppedDistanceEcho frame = .value echo) echoes cert.echoes

lemma readDistanceEchoes_some {count off last : ℕ} {echoes : List BufferedDistanceEcho}
    (h : readDistanceEchoes bytes count off = .value (some (echoes, last))) :
    ∃ frames : List Bytes, frames.length = count ∧ bytes.drop off = frames.flatMap framed ++ bytes.drop last ∧
      List.Forall₂ (fun frame echo => deserializeStoppedDistanceEcho frame = .value echo) frames echoes := by
  induction count generalizing off echoes with
  | zero =>
    obtain ⟨rfl, rfl⟩ := Prod.mk.inj (Option.some.inj (Outcome.value.inj h))
    exact ⟨[], rfl, by simp, .nil⟩
  | succ count ih =>
    rw [readDistanceEchoes] at h
    obtain ⟨read, hframe, h⟩ := Outcome.bind_eq_value.mp h
    cases read with
    | none => cases h
    | some read =>
      obtain ⟨frame, next⟩ := read
      obtain ⟨echo, hecho, h⟩ := Outcome.bind_eq_value.mp h
      obtain ⟨rest, hrest, h⟩ := Outcome.bind_eq_value.mp h
      cases rest with
      | none => cases h
      | some rest =>
        obtain ⟨others, last'⟩ := rest
        obtain ⟨rfl, rfl⟩ := Prod.mk.inj (Option.some.inj (Outcome.value.inj h))
        obtain ⟨frames, hcount, hdrop, hreads⟩ := ih hrest
        refine ⟨frame :: frames, congrArg Nat.succ hcount, ?_, .cons hecho hreads⟩
        rw [(readFrame_some hframe).2, hdrop, List.flatMap_cons, List.append_assoc]

theorem readDistanceCert_consumes (h : readDistanceCert cfg bytes = .value (some cert)) :
    ∃ attestation echoes, ConsumesAll bytes cert attestation echoes := by
  rw [readDistanceCert] at h
  split at h
  · cases h
  next htag =>
    push Not at htag
    obtain ⟨read, hframe, h⟩ := Outcome.bind_eq_value.mp h
    cases read with
    | none => cases h
    | some read =>
      obtain ⟨frame, off⟩ := read
      obtain ⟨att, hatt, h⟩ := Outcome.bind_eq_value.mp h
      obtain ⟨word, hword, h⟩ := Outcome.bind_eq_value.mp h
      cases word with
      | none => cases h
      | some count =>
        dsimp only at h
        split at h
        · cases h
        · obtain ⟨read, hechoes, h⟩ := Outcome.bind_eq_value.mp h
          cases read with
          | none => cases h
          | some read =>
            obtain ⟨echoes, last⟩ := read
            dsimp only at h
            split at h
            next hlast =>
              obtain rfl := Option.some.inj (Outcome.value.inj h)
              obtain ⟨frames, hcount, hdrop, hreads⟩ := readDistanceEchoes_some hechoes
              refine ⟨frame, frames, ?_, hatt, hreads⟩
              rw [hlast, List.drop_length, List.append_nil] at hdrop
              calc bytes = bytes.take 4 ++ bytes.drop 4 := (List.take_append_drop 4 bytes).symm
                _ = envelopeTag ++ (framed frame ++ (bigU32 count ++ frames.flatMap framed)) := by
                  rw [htag.2, (readFrame_some hframe).2, (readBigU32_some hword).2, hdrop]
                _ = distanceEnvelope frame frames := by
                  rw [distanceEnvelope, hcount]
                  simp only [List.append_assoc]
            next => cases h

end V2vBft.Arrival
