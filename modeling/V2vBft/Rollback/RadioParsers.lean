import V2vBft.Arrival.ArrivalCodec
import V2vBft.Rollback.ClearEchoes
import V2vBft.Wire.Numerals

namespace V2vBft.Rollback

open Wire App Arrival

variable {s payload : Bytes} {sep : UInt8}

-- the overload for a message passes the length on as a uint32_t
def deserializeClearCertMessage (payload : Bytes) : Option ClearCert :=
  deserializeClearCert (payload.take (payload.length % uint32Modulus))

lemma forall_split_iff (P : Bytes → Bytes → Prop) :
    (∀ xs ys, s = xs ++ sep :: ys → sep ∉ xs → P xs ys) ↔
      (sep ∈ s → P (s.takeWhile (· ≠ sep)) ((s.dropWhile (· ≠ sep)).drop 1)) := by
  constructor
  · intro h hmem
    obtain ⟨xs, ys, rfl, hxs⟩ := List.eq_append_cons_of_mem hmem
    obtain ⟨hbefore, hbehind⟩ := @split_at_first _ ys _ hxs
    rw [hbefore, hbehind]
    exact h xs ys rfl hxs
  · rintro h xs ys rfl hxs
    obtain ⟨hbefore, hbehind⟩ := @split_at_first _ ys _ hxs
    have hP := h (by simp)
    rw [hbefore, hbehind] at hP
    exact hP

lemma stolInt32_isSome : (stolInt32 s).isSome = true ↔ LongText s := by
  rw [LongText, NumberText, stolInt32]
  simp only [← strtol_eq_some_iff]
  cases strtol 10 s with
  | none => simp
  | some v =>
    dsimp only
    split <;> simp_all

lemma guarded_isSome {α : Type} {c P : Prop} [Decidable c] {default : α} {read : Option α} (h : read.isSome = true ↔ P) :
    (if ¬ c then some default else read).isSome = true ↔ (c → P) := by
  by_cases hc : c
  · rw [if_neg (not_not_intro hc), h]
    simp [hc]
  · rw [if_pos hc]
    simp [hc]

-- "pubkey,signature"
def KeyAndSignatureText (body : Bytes) : Prop :=
  ∀ pub sig, body = pub ++ 44 :: sig → 44 ∉ pub → HexText pub ∧ HexText sig

-- "signer:pubkey,signature"
def EchoPartText (part : Bytes) : Prop :=
  ∀ signer tail, part = signer ++ 58 :: tail → 58 ∉ signer →
    ∀ pub sig, tail = pub ++ 44 :: sig → 44 ∉ pub → IntText signer ∧ HexText pub ∧ HexText sig

-- "pubkey,length,buffer"
def SignatureFieldText (sf : Bytes) : Prop :=
  ∀ pub tail, sf = pub ++ 44 :: tail → 44 ∉ pub →
    ∀ len buffer, tail = len ++ 44 :: buffer → 44 ∉ len → HexText pub ∧ IntText len ∧ HexText buffer

-- "signer:cue:signature field"
def ArrivalPartText (part : Bytes) : Prop :=
  ∀ signer tail, part = signer ++ 58 :: tail → 58 ∉ signer →
    ∀ cue sf, tail = cue ++ 58 :: sf → 58 ∉ cue → IntText signer ∧ IntText cue ∧ SignatureFieldText sf

lemma parseEchoPart_isSome : (parseEchoPart s).isSome = true ↔ EchoPartText s := by
  rw [parseEchoPart, EchoPartText]
  simp only [forall_split_iff, ← stoi_isSome, ← fromHex_isSome]
  refine guarded_isSome (guarded_isSome ?_)
  generalize stoi (s.takeWhile (· ≠ 58)) = signer
  generalize fromHex (((s.dropWhile (· ≠ 58)).drop 1).takeWhile (· ≠ 44)) = pub
  generalize fromHex ((((s.dropWhile (· ≠ 58)).drop 1).dropWhile (· ≠ 44)).drop 1) = sig
  cases signer <;> cases pub <;> cases sig <;> simp

lemma parseEchoParts_isSome {parts : List Bytes} :
    (parseEchoParts parts).isSome = true ↔ ∀ part ∈ parts, EchoPartText part := by
  rw [parseEchoParts, Option.isSome_map, mapM_isSome]
  simp only [parseEchoPart_isSome]

lemma parseSignatureField_isSome : (parseSignatureField s).isSome = true ↔ SignatureFieldText s := by
  rw [parseSignatureField, SignatureFieldText]
  simp only [forall_split_iff, ← stoi_isSome, ← fromHex_isSome]
  refine guarded_isSome (guarded_isSome ?_)
  generalize fromHex (s.takeWhile (· ≠ 44)) = pub
  generalize stoi (((s.dropWhile (· ≠ 44)).drop 1).takeWhile (· ≠ 44)) = len
  generalize fromHex ((((s.dropWhile (· ≠ 44)).drop 1).dropWhile (· ≠ 44)).drop 1) = buffer
  cases pub <;> cases len <;> cases buffer <;> simp

lemma parseArrivalPart_isSome {cert : ArrivalCert} :
    (parseArrivalPart cert s).isSome = true ↔ ArrivalPartText s := by
  rw [parseArrivalPart, ArrivalPartText]
  simp only [forall_split_iff, ← stoi_isSome, ← parseSignatureField_isSome]
  refine guarded_isSome (guarded_isSome ?_)
  generalize stoi (s.takeWhile (· ≠ 58)) = signer
  generalize stoi (((s.dropWhile (· ≠ 58)).drop 1).takeWhile (· ≠ 58)) = cue
  generalize parseSignatureField ((((s.dropWhile (· ≠ 58)).drop 1).dropWhile (· ≠ 58)).drop 1) = sf
  cases signer <;> cases cue <;> cases sf <;> simp

def field (payload : Bytes) (i : ℕ) : Bytes := (splitStr payload 124).getD i []

-- a negative length is added to the offset of the signature without a sign
def AnnouncementReadable (cfg : ArrivalConfig) (payload : Bytes) : Prop :=
  (splitStr payload 124).length < 13 ∨
    IntText (field payload 3) ∧ LongText (field payload 4) ∧ IntText (field payload 5) ∧
      (cfg.stod (field payload 8)).isSome = true ∧ IntText (field payload 9) ∧ HexText (field payload 10) ∧
      HexText (field payload 11) ∧ IntText (field payload 12) ∧
      ∀ siglen, Numeral 10 (field payload 12) siglen → siglen < 0 →
        payload.length ≤ signatureOffset payload (splitStr payload 124) ∨
          signatureOffset payload (splitStr payload 124) < siglen.natAbs

def ArrivalEchoReadable (payload : Bytes) : Prop :=
  (splitStr payload 124).length < 12 ∨
    IntText (field payload 0) ∧ IntText (field payload 3) ∧ LongText (field payload 4) ∧ IntText (field payload 5) ∧
      IntText (field payload 7) ∧ HexText (field payload 8) ∧ IntText (field payload 10) ∧
      SignatureFieldText (field payload 11)

-- the epoch and the echoes are read only behind a hash of 32 bytes
def ArrivalCertReadable (payload : Bytes) : Prop :=
  (splitStr payload 124).length < 9 ∨
    IntText (field payload 2) ∧ LongText (field payload 3) ∧ IntText (field payload 4) ∧ HexText (field payload 6) ∧
      ((field payload 6).length / 2 = claimHashBytes →
        IntText (field payload 8) ∧ ∀ part ∈ (splitStr payload 124).drop 9, ArrivalPartText part)

def CancelEchoReadable (payload : Bytes) : Prop :=
  (splitStr payload 124).length < 6 ∨ field payload 0 ≠ ascii "CANCEL_ECHO" ∨
    UnsignedLongText (field payload 1) ∧ IntText (field payload 2) ∧ IntText (field payload 4) ∧
      KeyAndSignatureText (field payload 5)

def CancelCertReadable (payload : Bytes) : Prop :=
  (splitStr payload 124).length < 4 ∨ field payload 0 ≠ ascii "CANCEL_CERT" ∨
    UnsignedLongText (field payload 1) ∧ IntText (field payload 2) ∧
      ∀ part ∈ (splitStr payload 124).drop 4, EchoPartText part

def ClearEchoReadable (payload : Bytes) : Prop :=
  (splitStr payload 124).length < 5 ∨ field payload 0 ≠ ascii "CLEAR_ECHO" ∨
    UnsignedLongText (field payload 1) ∧ UnsignedLongText (field payload 2) ∧ IntText (field payload 3) ∧
      KeyAndSignatureText (field payload 4)

def ClearCertReadable (payload : Bytes) : Prop :=
  (splitStr payload 124).length < 3 ∨ field payload 0 ≠ ascii "CLEAR_CERT" ∨
    UnsignedLongText (field payload 1) ∧ UnsignedLongText (field payload 2) ∧
      ∀ part ∈ (splitStr payload 124).drop 3, EchoPartText part

lemma head?_splitStr (payload tag : Bytes) : (splitStr payload 124).head? ≠ some tag ↔ field payload 0 ≠ tag := by
  obtain ⟨first, rest, hparts⟩ := List.exists_cons_of_ne_nil (splitStr_ne_nil payload 124)
  simp [field, hparts]

lemma tagged_isSome {α : Type} {n : ℕ} {tag : Bytes} {default : α} {read : Option α} {P : Prop}
    (h : read.isSome = true ↔ P) :
    (if (splitStr payload 124).length < n ∨ (splitStr payload 124).head? ≠ some tag then some default
      else read).isSome = true ↔
      (splitStr payload 124).length < n ∨ field payload 0 ≠ tag ∨ P := by
  by_cases hshort : (splitStr payload 124).length < n
  · rw [if_pos (Or.inl hshort)]
    simp [hshort]
  · by_cases htag : (splitStr payload 124).head? ≠ some tag
    · rw [if_pos (Or.inr htag)]
      simp [(head?_splitStr payload tag).mp htag]
    · have hfield := mt (head?_splitStr payload tag).mpr htag
      rw [if_neg (by simp only [not_or]; exact ⟨hshort, htag⟩), h]
      simp [hshort, hfield]

lemma deserializeCancelCert_isSome : (deserializeCancelCert payload).isSome = true ↔ CancelCertReadable payload := by
  rw [deserializeCancelCert, CancelCertReadable]
  refine tagged_isSome ?_
  rw [← stoul_isSome, ← stoi_isSome, ← parseEchoParts_isSome, field, field]
  cases stoul ((splitStr payload 124).getD 1 []) <;> cases stoi ((splitStr payload 124).getD 2 []) <;>
    cases parseEchoParts ((splitStr payload 124).drop 4) <;> simp

lemma deserializeClearCert_isSome : (deserializeClearCert payload).isSome = true ↔ ClearCertReadable payload := by
  rw [deserializeClearCert, ClearCertReadable]
  refine tagged_isSome ?_
  rw [← stoul_isSome, ← stoul_isSome, ← parseEchoParts_isSome, field, field]
  cases stoul ((splitStr payload 124).getD 1 []) <;> cases stoul ((splitStr payload 124).getD 2 []) <;>
    cases parseEchoParts ((splitStr payload 124).drop 3) <;> simp

lemma signed_isSome {α : Type} {body : Bytes} {unsigned : α} {signed : Bytes → Bytes → α} :
    (if 44 ∉ body then some unsigned
      else
        match fromHex (body.takeWhile (· ≠ 44)), fromHex ((body.dropWhile (· ≠ 44)).drop 1) with
        | some pub, some sig => some (signed pub sig)
        | _, _ => none).isSome = true ↔ KeyAndSignatureText body := by
  rw [KeyAndSignatureText, forall_split_iff]
  refine guarded_isSome ?_
  rw [← fromHex_isSome, ← fromHex_isSome]
  generalize fromHex (body.takeWhile (· ≠ 44)) = pub
  generalize fromHex ((body.dropWhile (· ≠ 44)).drop 1) = sig
  cases pub <;> cases sig <;> simp

lemma deserializeCancelEcho_isSome : (deserializeCancelEcho payload).isSome = true ↔ CancelEchoReadable payload := by
  rw [deserializeCancelEcho, CancelEchoReadable]
  refine tagged_isSome ?_
  rw [← stoul_isSome, ← stoi_isSome, ← stoi_isSome, field, field, field, field]
  cases stoul ((splitStr payload 124).getD 1 []) with
  | none => simp
  | some epoch =>
    cases stoi ((splitStr payload 124).getD 2 []) with
    | none => simp
    | some reason =>
      cases stoi ((splitStr payload 124).getD 4 []) with
      | none => simp
      | some signer =>
        simp only [Option.isSome_some, true_and]
        exact signed_isSome

lemma deserializeClearEcho_isSome : (deserializeClearEcho payload).isSome = true ↔ ClearEchoReadable payload := by
  rw [deserializeClearEcho, ClearEchoReadable]
  refine tagged_isSome ?_
  rw [← stoul_isSome, ← stoul_isSome, ← stoi_isSome, field, field, field, field]
  cases stoul ((splitStr payload 124).getD 1 []) with
  | none => simp
  | some epoch =>
    cases stoul ((splitStr payload 124).getD 2 []) with
    | none => simp
    | some batch =>
      cases stoi ((splitStr payload 124).getD 3 []) with
      | none => simp
      | some signer =>
        simp only [Option.isSome_some, true_and]
        exact signed_isSome

lemma short_isSome {α : Type} {n : ℕ} {default : α} {read : Option α} {P : Prop} (h : read.isSome = true ↔ P) :
    (if (splitStr payload 124).length < n then some default else read).isSome = true ↔
      (splitStr payload 124).length < n ∨ P := by
  by_cases hshort : (splitStr payload 124).length < n
  · rw [if_pos hshort]
    simp [hshort]
  · rw [if_neg hshort, h]
    simp [hshort]

lemma deserializeArrivalEcho_isSome : (deserializeArrivalEcho payload).isSome = true ↔ ArrivalEchoReadable payload := by
  rw [deserializeArrivalEcho, ArrivalEchoReadable]
  refine short_isSome ?_
  simp only [← stoi_isSome, ← stolInt32_isSome, ← fromHex_isSome, ← parseSignatureField_isSome, field]
  generalize (splitStr payload 124).getD = part
  rcases stoi (part 0 []) with _ | signer
  · simp
  rcases stoi (part 3 []) with _ | physical
  · simp
  rcases stolInt32 (part 4 []) with _ | lateral
  · simp
  rcases stoi (part 5 []) with _ | position
  · simp
  rcases stoi (part 7 []) with _ | cue
  · simp
  rcases fromHex (part 8 []) with _ | hash
  · simp
  rcases stoi (part 10 []) with _ | epoch
  · simp
  cases parseSignatureField (part 11 []) <;> simp

lemma fromHex_length : ∀ {s out : Bytes}, fromHex s = some out → out.length = s.length / 2
  | [], _, h => by
    obtain rfl := Option.some.inj h
    rfl
  | [_], _, h => by
    obtain rfl := Option.some.inj h
    simp
  | a :: b :: rest, out, h => by
    rw [fromHex] at h
    split at h
    next v bytes _ hrest =>
      obtain rfl := Option.some.inj h
      have hlen := fromHex_length hrest
      simp only [List.length_cons]
      omega
    next => cases h

lemma deserializeArrivalCert_isSome : (deserializeArrivalCert payload).isSome = true ↔ ArrivalCertReadable payload := by
  rw [deserializeArrivalCert, ArrivalCertReadable]
  refine short_isSome ?_
  simp only [← stoi_isSome, ← stolInt32_isSome, ← fromHex_isSome, field]
  rcases stoi ((splitStr payload 124).getD 2 []) with _ | physical
  · simp
  rcases stolInt32 ((splitStr payload 124).getD 3 []) with _ | lateral
  · simp
  rcases stoi ((splitStr payload 124).getD 4 []) with _ | position
  · simp
  rcases hhash : fromHex ((splitStr payload 124).getD 6 []) with _ | hash
  · simp
  rw [← fromHex_length hhash]
  dsimp only
  simp only [Option.isSome_some, true_and]
  refine guarded_isSome ?_
  rcases stoi ((splitStr payload 124).getD 8 []) with _ | epoch
  · simp
  simp only [Option.isSome_map, mapM_isSome, parseArrivalPart_isSome, Option.isSome_some, true_and]

lemma announcementSignature_isSome (offset : ℕ) (siglen : ℤ) :
    (announcementSignature payload offset siglen).isSome = true ↔
      (siglen < 0 → payload.length ≤ offset ∨ offset < siglen.natAbs) := by
  rw [announcementSignature]
  by_cases hend : payload.length ≤ offset
  · rw [if_pos hend]
    simp [hend]
  · rw [if_neg hend]
    by_cases hpos : 0 ≤ siglen
    · rw [if_pos hpos]
      split <;> simp [not_lt.mpr hpos]
    · rw [if_neg hpos]
      have hneg : siglen < 0 := by omega
      split
      next hswallowed => simp [hneg, hend, hswallowed]
      next hkept => simp [hneg, not_le.mp hkept]

lemma announcementSignature_inside {offset : ℕ} {siglen : ℤ} {signature : Bytes}
    (h : announcementSignature payload offset siglen = some signature) (hne : signature ≠ []) :
    offset + signature.length ≤ payload.length ∧ signature = (payload.drop offset).take signature.length := by
  rw [announcementSignature] at h
  split at h
  next => exact absurd (Option.some.inj h).symm hne
  next =>
    split at h
    next =>
      split at h
      next hinside =>
        obtain rfl := Option.some.inj h
        have hlen : (slice payload offset siglen.toNat).length = siglen.toNat := by
          rw [slice, List.length_take, List.length_drop]
          omega
        rw [hlen]
        exact ⟨hinside, rfl⟩
      next => exact absurd (Option.some.inj h).symm hne
    next =>
      split at h
      next => cases h
      next => exact absurd (Option.some.inj h).symm hne

lemma numeral_of_stoi {v : ℤ} (h : stoi s = some v) : Numeral 10 s v := by
  rw [stoi, stoiBase] at h
  split at h
  next => cases h
  next w hw =>
    obtain ⟨-, heq⟩ := Option.ite_none_right_eq_some.mp h
    exact Option.some.inj heq ▸ strtol_sound hw

lemma deserializeArrivalAnnouncement_isSome {cfg : ArrivalConfig} :
    (deserializeArrivalAnnouncement cfg payload).isSome = true ↔ AnnouncementReadable cfg payload := by
  rw [deserializeArrivalAnnouncement, AnnouncementReadable]
  refine short_isSome ?_
  simp only [← stoi_isSome, ← stolInt32_isSome, ← fromHex_isSome, field]
  have hnumeral : ∀ siglen, stoi ((splitStr payload 124).getD 12 []) = some siglen →
      ((∀ v, Numeral 10 ((splitStr payload 124).getD 12 []) v → v < 0 →
          payload.length ≤ signatureOffset payload (splitStr payload 124) ∨
            signatureOffset payload (splitStr payload 124) < v.natAbs) ↔
        (announcementSignature payload (signatureOffset payload (splitStr payload 124)) siglen).isSome = true) := by
    intro siglen hsiglen
    have hspelled := numeral_of_stoi hsiglen
    rw [announcementSignature_isSome]
    constructor
    · exact fun h => h siglen hspelled
    · intro h v hv
      have hsame := (strtol_complete hv).symm.trans (strtol_complete hspelled)
      exact Option.some.inj hsame ▸ h
  generalize (splitStr payload 124).getD = part at hnumeral ⊢
  rcases stoi (part 3 []) with _ | physical
  · simp
  rcases stolInt32 (part 4 []) with _ | lateral
  · simp
  rcases stoi (part 5 []) with _ | position
  · simp
  rcases cfg.stod (part 8 []) with _ | time
  · simp
  rcases stoi (part 9 []) with _ | epoch
  · simp
  rcases fromHex (part 10 []) with _ | cert
  · simp
  rcases fromHex (part 11 []) with _ | sig
  · simp
  rcases hsiglen : stoi (part 12 []) with _ | siglen
  · simp
  simp only [Option.isSome_map, Option.isSome_some, true_and, hnumeral siglen hsiglen]

lemma announcement_signature_inside {cfg : ArrivalConfig} {ann : ArrivalAnnouncement}
    (h : deserializeArrivalAnnouncement cfg payload = some ann) (hne : ann.signature ≠ []) :
    ∃ offset, offset + ann.signature.length ≤ payload.length ∧
      ann.signature = (payload.drop offset).take ann.signature.length := by
  rw [deserializeArrivalAnnouncement] at h
  dsimp only at h
  split at h
  next =>
    obtain rfl := Option.some.inj h
    exact absurd rfl hne
  next =>
    split at h
    next =>
      obtain ⟨signature, hsignature, rfl⟩ := Option.map_eq_some_iff.mp h
      exact ⟨_, announcementSignature_inside hsignature hne⟩
    next => cases h

theorem radioParsers_total_iff (cfg : ArrivalConfig) (payload : Bytes) :
    ((deserializeArrivalAnnouncement cfg payload).isSome = true ↔ AnnouncementReadable cfg payload) ∧
      ((deserializeArrivalEcho payload).isSome = true ↔ ArrivalEchoReadable payload) ∧
      ((deserializeArrivalCert payload).isSome = true ↔ ArrivalCertReadable payload) ∧
      ((deserializeCancelEcho payload).isSome = true ↔ CancelEchoReadable payload) ∧
      ((deserializeCancelCert payload).isSome = true ↔ CancelCertReadable payload) ∧
      ((deserializeClearEcho payload).isSome = true ↔ ClearEchoReadable payload) ∧
      ((deserializeClearCertMessage payload).isSome = true ↔
        ClearCertReadable (payload.take (payload.length % uint32Modulus))) ∧
      ∀ ann, deserializeArrivalAnnouncement cfg payload = some ann → ann.signature ≠ [] →
        ∃ offset, offset + ann.signature.length ≤ payload.length ∧
          ann.signature = (payload.drop offset).take ann.signature.length := by
  refine ⟨deserializeArrivalAnnouncement_isSome, deserializeArrivalEcho_isSome, deserializeArrivalCert_isSome,
    deserializeCancelEcho_isSome, deserializeCancelCert_isSome, deserializeClearEcho_isSome,
    deserializeClearCert_isSome, fun ann hann hne => announcement_signature_inside hann hne⟩

-- a word for a number, and a negative length of the signature
theorem radioParsers_notTotal :
    deserializeCancelEcho (ascii "CANCEL_ECHO|x|0|blocker:1|0|,") = none ∧
      deserializeArrivalAnnouncement fourWitnesses (ascii "veh0|N_0|N|0|0|1|L|0|0|0|||-1|x") = none := by
  decide +kernel

end V2vBft.Rollback
