import V2vBft.Arrival.AnnouncementCodec
import V2vBft.Arrival.ArrivalCodec
import V2vBft.App.EchoText

namespace V2vBft.Arrival

open Wire App

variable {cert : ArrivalCert} {echo : ArrivalEcho} {payload : Bytes}

-- the whole signature buffer goes out: the used bytes, then `unused`
def signatureField (pub sig unused : Bytes) : Bytes :=
  toHex pub ++ ascii "," ++ decimalNat sig.length ++ ascii "," ++ toHex (resize (sig ++ unused) cryptoSigMaxBytes)

def serializeArrivalEcho (unused : Bytes) (echo : ArrivalEcho) : Bytes :=
  joinWith 124 [decimalInt echo.echoingReplicaId, echo.targetCarId, echo.lane, decimalInt echo.physicalLaneIndex,
    decimalInt echo.lateralClaimCm, decimalInt echo.positionInLane, dirToStr echo.direction,
    decimalNat echo.observedCue.code, toHex echo.claimHash, flagText echo.isAmbulance, decimalInt echo.epoch,
    signatureField echo.signerPubKey echo.signature unused]

def ArrivalEcho.part (unused : Bytes) (echo : ArrivalEcho) : Bytes :=
  decimalInt echo.echoingReplicaId ++ ascii ":" ++ decimalNat echo.observedCue.code ++ ascii ":" ++
    signatureField echo.signerPubKey echo.signature unused

def ArrivalCert.fields (cert : ArrivalCert) : List Bytes :=
  [cert.carId, cert.lane, decimalInt cert.physicalLaneIndex, decimalInt cert.lateralClaimCm,
    decimalInt cert.positionInLane, dirToStr cert.direction, toHex cert.claimHash, flagText cert.isAmbulance,
    decimalInt cert.epoch]

def serializeArrivalCert (unused : ArrivalEcho → Bytes) (cert : ArrivalCert) : Bytes :=
  joinWith 124 cert.fields ++ cert.echoes.flatMap fun echo => ascii "|" ++ echo.part (unused echo)

structure ArrivalEcho.Fits (echo : ArrivalEcho) : Prop where
  signerPubKey : echo.signerPubKey.length = cryptoPubkeyBytes
  signature : echo.signature.length ≤ cryptoSigMaxBytes

structure ArrivalCert.Fits (cert : ArrivalCert) : Prop where
  carId : 124 ∉ cert.carId
  lane : 124 ∉ cert.lane
  physicalLaneIndex : -2147483648 ≤ cert.physicalLaneIndex ∧ cert.physicalLaneIndex < 2147483648
  lateralClaimCm : -2147483648 ≤ cert.lateralClaimCm ∧ cert.lateralClaimCm < 2147483648
  positionInLane : -2147483648 ≤ cert.positionInLane ∧ cert.positionInLane < 2147483648
  claimHash : cert.claimHash.length = claimHashBytes
  epoch : -2147483648 ≤ cert.epoch ∧ cert.epoch < 2147483648
  echoes : ∀ echo ∈ cert.echoes, echo.Fits
  signers : ∀ echo ∈ cert.echoes, -2147483648 ≤ echo.echoingReplicaId ∧ echo.echoingReplicaId < 2147483648
  signed : ∀ echo ∈ cert.echoes, echo.signature ≠ []
  claims : ∀ echo ∈ cert.echoes,
    certEcho cert echo.echoingReplicaId echo.observedCue echo.signerPubKey echo.signature = echo

lemma cueOfField_code (cue : ObservedCue) : cueOfField (cue.code : ℤ) = cue := by
  cases cue <;> decide

lemma code_lt (cue : ObservedCue) : cue.code < 2147483648 := by
  cases cue <;> decide

lemma signatureField_eq (pub sig unused : Bytes) :
    signatureField pub sig unused =
      toHex pub ++ 44 :: (decimalNat sig.length ++ 44 :: toHex (resize (sig ++ unused) cryptoSigMaxBytes)) := by
  have hcomma : ascii "," = [44] := by decide
  rw [signatureField, hcomma]
  simp only [List.append_assoc, List.cons_append, List.nil_append]

lemma ArrivalEcho.part_eq (unused : Bytes) (echo : ArrivalEcho) :
    echo.part unused = decimalInt echo.echoingReplicaId ++
      58 :: (decimalNat echo.observedCue.code ++ 58 :: signatureField echo.signerPubKey echo.signature unused) := by
  have hcolon : ascii ":" = [58] := by decide
  rw [part, hcolon]
  simp only [List.append_assoc, List.cons_append, List.nil_append]

lemma ArrivalEcho.part_notMem (unused : Bytes) (echo : ArrivalEcho) : (124 : UInt8) ∉ echo.part unused := by
  have hhex : ∀ bs : Bytes, (124 : UInt8) ∉ toHex bs := fun bs => toHex_notMem (Or.inr (by decide))
  have hnat : ∀ n : ℕ, (124 : UInt8) ∉ decimalNat n := fun n => decimalNat_notMem (by decide)
  rw [echo.part_eq, signatureField_eq]
  simp only [List.mem_append, List.mem_cons, not_or]
  exact ⟨decimalInt_notMem (by decide) (by decide), by decide, hnat _, by decide, hhex _, by decide, hnat _, by decide,
    hhex _⟩

lemma resize_length (bs : Bytes) (n : ℕ) : (resize bs n).length = n := by
  rw [resize, List.length_append, zeros_length, List.length_take]
  omega

lemma resize_take {sig unused : Bytes} {n : ℕ} (h : sig.length ≤ n) : (resize (sig ++ unused) n).take sig.length = sig := by
  rw [resize, List.take_append_of_le_length (by rw [List.length_take, List.length_append]; omega), List.take_take,
    Nat.min_eq_left h, List.take_left]

lemma parseSignatureField_field {pub sig : Bytes} (unused : Bytes) (hpub : pub.length = cryptoPubkeyBytes) (hne : sig ≠ [])
    (hsig : sig.length ≤ cryptoSigMaxBytes) : parseSignatureField (signatureField pub sig unused) = some (pub, sig) := by
  have hpos := List.length_pos_of_ne_nil hne
  have hkey : (44 : UInt8) ∉ toHex pub := toHex_notMem (by decide)
  have hlen : (44 : UInt8) ∉ decimalNat sig.length := decimalNat_notMem (by decide)
  have hused : 0 < (sig.length : ℤ) ∧ (sig.length : ℤ) ≤ cryptoSigMaxBytes ∧
      (resize (sig ++ unused) cryptoSigMaxBytes).length = cryptoSigMaxBytes :=
    ⟨by omega, by omega, resize_length _ _⟩
  obtain ⟨hfirst, hbehind⟩ := @split_at_first _ (decimalNat sig.length ++
    44 :: toHex (resize (sig ++ unused) cryptoSigMaxBytes)) _ hkey
  obtain ⟨hsecond, hthird⟩ := @split_at_first _ (toHex (resize (sig ++ unused) cryptoSigMaxBytes)) _ hlen
  have hint : stoi (decimalNat sig.length) = some (sig.length : ℤ) := by
    rw [cryptoSigMaxBytes] at hsig
    exact stoi_decimalNat (by omega)
  rw [parseSignatureField, signatureField_eq, if_neg (by simp), hfirst, hbehind]
  dsimp only
  rw [if_neg (by simp), hsecond, hthird, fromHex_toHex, fromHex_toHex, hint]
  dsimp only
  rw [if_pos hpub, if_pos hused, Int.toNat_natCast, resize_take hsig]

lemma ArrivalCert.Fits.parsePart (h : cert.Fits) (unused : Bytes) (hecho : echo ∈ cert.echoes) :
    parseArrivalPart { cert with echoes := [] } (echo.part unused) = some (some echo) := by
  have hid : (58 : UInt8) ∉ decimalInt echo.echoingReplicaId := decimalInt_notMem (by decide) (by decide)
  have hcue : (58 : UInt8) ∉ decimalNat echo.observedCue.code := decimalNat_notMem (by decide)
  have hfits := h.echoes echo hecho
  obtain ⟨hfirst, hbehind⟩ := @split_at_first _ (decimalNat echo.observedCue.code ++
    58 :: signatureField echo.signerPubKey echo.signature unused) _ hid
  obtain ⟨hsecond, hthird⟩ := @split_at_first _ (signatureField echo.signerPubKey echo.signature unused) _ hcue
  rw [parseArrivalPart, echo.part_eq, if_neg (by simp), hfirst, hbehind]
  dsimp only
  rw [if_neg (by simp), hsecond, hthird, stoi_decimalInt (h.signers echo hecho), stoi_decimalNat (code_lt _),
    parseSignatureField_field unused hfits.signerPubKey (h.signed echo hecho) hfits.signature]
  dsimp only
  rw [cueOfField_code]
  exact congrArg (fun e => some (some e)) (h.claims echo hecho)

lemma ArrivalCert.Fits.fields_notMem (h : cert.Fits) : ∀ p ∈ cert.fields, 124 ∉ p := by
  have hint : ∀ i : ℤ, (124 : UInt8) ∉ decimalInt i := fun i => decimalInt_notMem (by decide) (by decide)
  simp only [fields, List.forall_mem_cons, List.not_mem_nil, false_imp_iff, implies_true, and_true]
  exact ⟨h.carId, h.lane, hint _, hint _, hint _, dirToStr_notMem _, toHex_notMem (Or.inr (by decide)),
    flagText_notMem _, hint _⟩

theorem deserialize_serializeCert (h : cert.Fits) (unused : ArrivalEcho → Bytes) :
    deserializeArrivalCert (serializeArrivalCert unused cert) = some cert := by
  have hbar : ascii "|" = [124] := by decide
  have hsplit : splitStr (serializeArrivalCert unused cert) 124 =
      cert.fields ++ cert.echoes.map fun echo => echo.part (unused echo) := by
    rw [serializeArrivalCert, joinWith, hbar]
    exact splitStr_behind cert.echoes (fun echo => echo.part_notMem (unused echo)) (by simp [ArrivalCert.fields])
      h.fields_notMem
  have hechoes : (cert.echoes.map fun echo => echo.part (unused echo)).mapM
      (parseArrivalPart { cert with echoes := [] }) = some (cert.echoes.map some) :=
    mapM_map_some fun echo hecho => h.parsePart (unused echo) hecho
  rw [deserializeArrivalCert, hsplit]
  dsimp only
  rw [if_neg (by simp [ArrivalCert.fields])]
  simp only [ArrivalCert.fields, List.cons_append, List.nil_append, List.getD_cons_succ, List.getD_cons_zero,
    List.drop_succ_cons, List.drop_zero, stoi_decimalInt h.physicalLaneIndex, stolInt32_decimalInt h.lateralClaimCm,
    stoi_decimalInt h.positionInLane, fromHex_toHex, stoi_decimalInt h.epoch, strToDir_dirToStr, flagText_read]
  rw [if_neg (by simp [h.claimHash]), hechoes, Option.map_some, List.filterMap_map]
  simp only [Function.comp_def, id_eq, List.filterMap_some]

lemma stolInt32_range {s : Bytes} {i : ℤ} (h : stolInt32 s = some i) : -2147483648 ≤ i ∧ i < 2147483648 := by
  rw [stolInt32] at h
  split at h
  next => cases h
  next v _ =>
    split at h
    next =>
      obtain rfl := Option.some.inj h
      rw [signed32]
      split <;> omega
    next => cases h

lemma parseSignatureField_fits {field pub sig : Bytes} (h : parseSignatureField field = some (pub, sig)) :
    pub.length = cryptoPubkeyBytes ∧ sig.length ≤ cryptoSigMaxBytes := by
  have hempty : (zeros cryptoPubkeyBytes).length = cryptoPubkeyBytes ∧ ([] : Bytes).length ≤ cryptoSigMaxBytes :=
    ⟨zeros_length _, by decide⟩
  rw [parseSignatureField] at h
  split at h
  · obtain ⟨rfl, rfl⟩ := Prod.mk.inj (Option.some.inj h)
    exact hempty
  · dsimp only at h
    split at h
    · obtain ⟨rfl, rfl⟩ := Prod.mk.inj (Option.some.inj h)
      exact hempty
    · split at h
      next =>
        obtain ⟨rfl, rfl⟩ := Prod.mk.inj (Option.some.inj h)
        constructor
        · split
          next hlen => exact hlen
          next => exact hempty.1
        · split
          next hused =>
            rw [List.length_take, hused.2.2]
            omega
          next => exact hempty.2
      next => cases h

lemma deserializeArrivalEcho_fits (h : deserializeArrivalEcho payload = some echo) : echo.Fits := by
  rw [deserializeArrivalEcho] at h
  dsimp only at h
  split at h
  · obtain rfl := Option.some.inj h
    exact ⟨zeros_length _, by decide⟩
  · split at h
    next hfield =>
      obtain rfl := Option.some.inj h
      obtain ⟨hpub, hsig⟩ := parseSignatureField_fits hfield
      exact ⟨hpub, hsig⟩
    next => cases h

structure ReadCert (cert : ArrivalCert) : Prop where
  lane : 124 ∉ cert.lane
  lateralClaimCm : -2147483648 ≤ cert.lateralClaimCm ∧ cert.lateralClaimCm < 2147483648
  positionInLane : -2147483648 ≤ cert.positionInLane ∧ cert.positionInLane < 2147483648
  claimHash : cert.claimHash.length = claimHashBytes

lemma deserializeArrivalCert_reads (h : deserializeArrivalCert payload = some cert) : ReadCert cert := by
  have hempty : ReadCert emptyArrivalCert := ⟨List.not_mem_nil, by decide, by decide, zeros_length _⟩
  rw [deserializeArrivalCert] at h
  dsimp only at h
  split at h
  · obtain rfl := Option.some.inj h
    exact hempty
  · split at h
    next hlateral hposition hhash =>
      split at h
      · obtain rfl := Option.some.inj h
        exact hempty
      next hlen =>
        push Not at hlen
        split at h
        next => cases h
        next =>
          obtain ⟨echoes, -, rfl⟩ := Option.map_eq_some_iff.mp h
          exact ⟨getD_splitStr_notMem _ _ _, stolInt32_range hlateral, stoi_range hposition, hlen⟩
    next => cases h

end V2vBft.Arrival
