import V2vBft.Arrival.AnnouncementFacts
import V2vBft.Arrival.Cert

namespace V2vBft.Arrival

open Wire App

variable {cfg cfg' : ArrivalConfig} {ann : ArrivalAnnouncement}

structure ArrivalAnnouncement.Fits (ann : ArrivalAnnouncement) : Prop where
  positionInLane : -2147483648 ≤ ann.positionInLane ∧ ann.positionInLane < 2147483648
  physicalLaneIndex : -2147483648 ≤ ann.physicalLaneIndex ∧ ann.physicalLaneIndex < 2147483648
  lateralClaimCm : -2147483648 ≤ ann.lateralClaimCm ∧ ann.lateralClaimCm < 2147483648
  epoch : -2147483648 ≤ ann.epoch ∧ ann.epoch < 2147483648
  signature : ann.signature.length ≤ cryptoSigMaxBytes

-- the printed time holds no bar and parses back to the same double
structure TimeSurvives (cfg : ArrivalConfig) (time : ℕ) : Prop where
  bar : 124 ∉ cfg.showDouble time
  parse : cfg.stod (cfg.showDouble time) = some time

structure SameLibrary (cfg cfg' : ArrivalConfig) : Prop where
  stod : cfg'.stod = cfg.stod
  showDouble : cfg'.showDouble = cfg.showDouble
  sha256 : cfg'.sha256 = cfg.sha256

lemma resize_eq {bs : Bytes} {n : ℕ} (h : bs.length ≤ n) : resize bs n = bs ++ zeros (n - bs.length) := by
  rw [resize, List.take_of_length_le h]

lemma dirToStr_notMem (d : Direction) : (124 : UInt8) ∉ dirToStr d := by
  cases d <;> decide

lemma flagText_notMem (flag : Bool) : (124 : UInt8) ∉ flagText flag := by
  cases flag <;> decide

lemma strToDir_dirToStr (d : Direction) : strToDir (dirToStr d) = d := by
  cases d <;> decide

lemma flagText_read (flag : Bool) : decide (flagText flag = ascii "1") = flag := by
  cases flag <;> decide

lemma stolInt32_decimalInt {i : ℤ} (h : -2147483648 ≤ i ∧ i < 2147483648) : stolInt32 (decimalInt i) = some i := by
  have hlong : -9223372036854775808 ≤ i ∧ i < 9223372036854775808 := by omega
  have hsigned : signed32 (i % 4294967296).toNat = i := by
    rw [signed32]
    split <;> omega
  simp only [stolInt32, strtol_decimalInt, if_pos hlong, hsigned]

lemma stoi_decimalNat {n : ℕ} (h : n < 2147483648) : stoi (decimalNat n) = some (n : ℤ) := by
  have hrange : -2147483648 ≤ (n : ℤ) ∧ (n : ℤ) < 2147483648 := by omega
  simp only [stoi, stoiBase, strtol_decimalNat, if_pos hrange]

lemma ArrivalAnnouncement.fields_notMem (htext : PlainText ann) (hbar : 124 ∉ cfg.showDouble ann.claimedArrivalTime) :
    ∀ p ∈ ann.fields cfg, 124 ∉ p := by
  have hint : ∀ i : ℤ, (124 : UInt8) ∉ decimalInt i := fun i => decimalInt_notMem (by decide) (by decide)
  have hhex : ∀ bs : Bytes, (124 : UInt8) ∉ toHex bs := fun bs => toHex_notMem (Or.inr (by decide))
  simp only [fields, List.forall_mem_cons, List.not_mem_nil, false_imp_iff, implies_true, and_true]
  exact ⟨htext.carId, htext.laneId, htext.lane, hint _, hint _, hint _, dirToStr_notMem _, flagText_notMem _, hbar,
    hint _, hhex _, hhex _, decimalNat_notMem (by decide)⟩

def paddedSignature (signature : Bytes) : Bytes := signature ++ zeros (cryptoSigMaxBytes - signature.length)

lemma paddedSignature_length {signature : Bytes} (h : signature.length ≤ cryptoSigMaxBytes) :
    (paddedSignature signature).length = cryptoSigMaxBytes := by
  rw [paddedSignature, List.length_append, zeros_length]
  omega

lemma drop_behind (head tail : Bytes) (sep : UInt8) : (head ++ sep :: tail).drop (head.length + 1) = tail := by
  rw [List.drop_append, List.drop_of_length_le (by omega), Nat.add_sub_cancel_left]
  rfl

lemma serialize_eq (h : ann.Fits) :
    serializeArrivalAnnouncement cfg ann = joinWith 124 (ann.fields cfg) ++ 124 :: paddedSignature ann.signature := by
  have hbar : ascii "|" = [124] := by decide
  have hsig := h.signature
  have hlen : (ann.header cfg ++ ann.signature).length ≤ (ann.header cfg).length + cryptoSigMaxBytes := by
    rw [List.length_append]
    omega
  have hpad : (ann.header cfg).length + cryptoSigMaxBytes - (ann.header cfg ++ ann.signature).length =
      cryptoSigMaxBytes - ann.signature.length := by
    rw [List.length_append]
    omega
  rw [serializeArrivalAnnouncement, resize_eq hlen, hpad, ArrivalAnnouncement.header, hbar, paddedSignature]
  simp only [List.append_assoc, List.cons_append, List.nil_append]

lemma signatureOffset_joined {fields rest : List Bytes} (payload : Bytes) (h : fields.length = 13) (hrest : rest ≠ []) :
    signatureOffset payload (fields ++ rest) = (joinWith 124 fields).length + 1 := by
  have hpos := List.length_pos_of_ne_nil hrest
  rw [signatureOffset, if_neg (by rw [List.length_append]; omega), ← h, List.take_left]

lemma announcementSignature_tail (head : Bytes) (h : ann.Fits) :
    announcementSignature (head ++ 124 :: paddedSignature ann.signature) (head.length + 1) ann.signature.length = some ann.signature := by
  have hsig := h.signature
  have hlen : (head ++ 124 :: paddedSignature ann.signature).length = head.length + 1 + cryptoSigMaxBytes := by
    rw [List.length_append, List.length_cons, paddedSignature_length hsig]
    omega
  rw [announcementSignature, hlen, if_neg (by rw [cryptoSigMaxBytes]; omega), if_pos (Int.natCast_nonneg _),
    Int.toNat_natCast, if_pos (by omega), slice, drop_behind, paddedSignature, List.take_left]

theorem deserialize_serialize (htext : PlainText ann) (hfits : ann.Fits)
    (htime : TimeSurvives cfg ann.claimedArrivalTime) :
    deserializeArrivalAnnouncement cfg (serializeArrivalAnnouncement cfg ann) = some ann := by
  have hsig := hfits.signature
  rw [cryptoSigMaxBytes] at hsig
  have hsplit : splitStr (serializeArrivalAnnouncement cfg ann) 124 = ann.fields cfg ++ splitStr (paddedSignature ann.signature) 124 := by
    rw [serialize_eq hfits, joinWith]
    exact splitStr_joined (paddedSignature ann.signature) (by simp [ArrivalAnnouncement.fields]) (ann.fields_notMem htext htime.bar)
  have hlen : ¬ (splitStr (serializeArrivalAnnouncement cfg ann) 124).length < 13 := by
    rw [hsplit, List.length_append, ArrivalAnnouncement.fields]
    simp
  have hsignature : announcementSignature (serializeArrivalAnnouncement cfg ann)
      (signatureOffset (serializeArrivalAnnouncement cfg ann) (ann.fields cfg ++ splitStr (paddedSignature ann.signature) 124))
      ann.signature.length = some ann.signature := by
    rw [signatureOffset_joined _ rfl (splitStr_ne_nil (paddedSignature ann.signature) 124), serialize_eq hfits]
    exact announcementSignature_tail _ hfits
  rw [deserializeArrivalAnnouncement]
  dsimp only
  rw [if_neg hlen, hsplit]
  simp only [ArrivalAnnouncement.fields, List.cons_append, List.nil_append, List.getD_cons_succ,
    List.getD_cons_zero, stoi_decimalInt hfits.physicalLaneIndex, stolInt32_decimalInt hfits.lateralClaimCm,
    stoi_decimalInt hfits.positionInLane, htime.parse, stoi_decimalInt hfits.epoch, fromHex_toHex,
    stoi_decimalNat (by omega : ann.signature.length < 2147483648), strToDir_dirToStr, flagText_read]
  simp only [ArrivalAnnouncement.fields, List.cons_append, List.nil_append] at hsignature
  rw [hsignature]
  rfl

lemma SameLibrary.deserialize (h : SameLibrary cfg cfg') (payload : Bytes) :
    deserializeArrivalAnnouncement cfg' payload = deserializeArrivalAnnouncement cfg payload := by
  rw [deserializeArrivalAnnouncement, deserializeArrivalAnnouncement, h.stod]

lemma SameLibrary.canonical (h : SameLibrary cfg cfg') (ann : ArrivalAnnouncement) :
    canonicalArrivalAnnouncementPayload cfg' ann = canonicalArrivalAnnouncementPayload cfg ann := by
  simp only [canonicalArrivalAnnouncementPayload, canonicalFields, h.showDouble]

lemma SameLibrary.hash (h : SameLibrary cfg cfg') (ann : ArrivalAnnouncement) :
    arrivalAnnouncementHash cfg' ann = arrivalAnnouncementHash cfg ann := by
  simp only [arrivalAnnouncementHash, serializeArrivalAnnouncement, ArrivalAnnouncement.header,
    ArrivalAnnouncement.fields, h.showDouble, h.sha256]

theorem announcement_readBack (hlib : SameLibrary cfg cfg') (htext : PlainText ann) (hfits : ann.Fits)
    (htime : TimeSurvives cfg ann.claimedArrivalTime) :
    deserializeArrivalAnnouncement cfg' (serializeArrivalAnnouncement cfg ann) = some ann ∧
      arrivalAnnouncementHash cfg' ann = arrivalAnnouncementHash cfg ann ∧
      canonicalArrivalAnnouncementPayload cfg' ann = canonicalArrivalAnnouncementPayload cfg ann :=
  ⟨(hlib.deserialize _).trans (deserialize_serialize htext hfits htime), hlib.hash ann, hlib.canonical ann⟩

def barSigned : ArrivalAnnouncement :=
  { northCar "veh1" 0 .left with
    isAmbulance := true, ambulanceCertBytes := [124, 0], signature := [124, 48, 124, 0, 124] }

theorem announcement_readBack_barSigned :
    deserializeArrivalAnnouncement { fourWitnesses with replicaId := 1 }
        (serializeArrivalAnnouncement fourWitnesses barSigned) = some barSigned ∧
      arrivalAnnouncementHash { fourWitnesses with replicaId := 1 } barSigned =
        arrivalAnnouncementHash fourWitnesses barSigned ∧
      canonicalArrivalAnnouncementPayload { fourWitnesses with replicaId := 1 } barSigned =
        canonicalArrivalAnnouncementPayload fourWitnesses barSigned :=
  announcement_readBack ⟨rfl, rfl, rfl⟩ ⟨by decide, by decide, by decide⟩
    ⟨by decide, by decide, by decide, by decide, by decide⟩ ⟨by decide, by decide⟩

end V2vBft.Arrival
