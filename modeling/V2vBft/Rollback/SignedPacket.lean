import V2vBft.App.WitnessCert

namespace V2vBft.Rollback

open Wire App

structure SignedPacketView where
  pubKey : Bytes
  sig : Bytes
  content : Bytes

def unpackSignedPacket (data : Bytes) : Option SignedPacketView :=
  let sigLen := readU8 data cryptoPubkeyBytes
  let headerLen := cryptoPubkeyBytes + 1 + sigLen
  if data.length < cryptoPubkeyBytes + 1 then none
  else if sigLen = 0 ∨ cryptoSigMaxBytes < sigLen then none
  else if data.length < headerLen then none
  else some ⟨data.take cryptoPubkeyBytes, slice data (cryptoPubkeyBytes + 1) sigLen, data.drop headerLen⟩

-- sign: no signature without a private key, or when signing fails
def packSignedPacket (sign : Bytes → Option Bytes) (pubKey payload : Bytes) : Bytes :=
  if payload = [] then []
  else
    match sign payload with
    | none => []
    | some sig => pubKey ++ (putU8 sig.length ++ (sig ++ payload))

variable {data pubKey payload sig : Bytes} {view : SignedPacketView} {sign : Bytes → Option Bytes}

lemma packSignedPacket_some (hpayload : payload ≠ []) (hsign : sign payload = some sig) :
    packSignedPacket sign pubKey payload = pubKey ++ (putU8 sig.length ++ (sig ++ payload)) := by
  rw [packSignedPacket, if_neg hpayload, hsign]

lemma unpackSignedPacket_some (h : unpackSignedPacket data = some view) :
    (0 < readU8 data cryptoPubkeyBytes ∧ readU8 data cryptoPubkeyBytes ≤ cryptoSigMaxBytes) ∧
      cryptoPubkeyBytes + 1 + readU8 data cryptoPubkeyBytes ≤ data.length ∧
      view = ⟨data.take cryptoPubkeyBytes, slice data (cryptoPubkeyBytes + 1) (readU8 data cryptoPubkeyBytes),
        data.drop (cryptoPubkeyBytes + 1 + readU8 data cryptoPubkeyBytes)⟩ := by
  simp only [unpackSignedPacket] at h
  split at h
  · cases h
  · split at h
    · cases h
    · split at h
      · cases h
      · exact ⟨by omega, by omega, (Option.some.inj h).symm⟩

lemma slice_byte {off : ℕ} (h : off < data.length) : slice data off 1 = putU8 (readU8 data off) := by
  have hdrop : data.drop off = data[off] :: data.drop (off + 1) := List.drop_eq_getElem_cons h
  have hslice : slice data off 1 = [data[off]] := by rw [slice, hdrop, List.take_succ_cons, List.take_zero]
  rw [readU8, readLE, hslice]
  simp [putU8, littleEndian]

lemma header_split {sigLen : ℕ} (h : cryptoPubkeyBytes + 1 + sigLen ≤ data.length)
    (hbyte : readU8 data cryptoPubkeyBytes = sigLen) :
    data = data.take cryptoPubkeyBytes ++ (putU8 sigLen ++ (slice data (cryptoPubkeyBytes + 1) sigLen ++
      data.drop (cryptoPubkeyBytes + 1 + sigLen))) := by
  have hkey : cryptoPubkeyBytes < data.length := by omega
  have hsig : slice data (cryptoPubkeyBytes + 1) sigLen ++ data.drop (cryptoPubkeyBytes + 1 + sigLen) =
      data.drop (cryptoPubkeyBytes + 1) := by
    rw [slice, ← @List.drop_drop _ sigLen (cryptoPubkeyBytes + 1), List.take_append_drop]
  have hlength : putU8 sigLen ++ data.drop (cryptoPubkeyBytes + 1) = data.drop cryptoPubkeyBytes := by
    rw [← hbyte, ← slice_byte hkey, slice, ← List.drop_drop, List.take_append_drop]
  rw [hsig, hlength, List.take_append_drop]

lemma unpackSignedPacket_parts (hkey : pubKey.length = cryptoPubkeyBytes) (hpos : 1 ≤ sig.length)
    (hmax : sig.length ≤ cryptoSigMaxBytes) :
    unpackSignedPacket (pubKey ++ (putU8 sig.length ++ (sig ++ payload))) = some ⟨pubKey, sig, payload⟩ := by
  have hbyte : readU8 (pubKey ++ (putU8 sig.length ++ (sig ++ payload))) cryptoPubkeyBytes = sig.length := by
    have hlt : sig.length < 256 := hmax.trans_lt (by decide)
    rw [← hkey, readU8_put pubKey (sig ++ payload) sig.length hlt]
  have hlength : (pubKey ++ (putU8 sig.length ++ (sig ++ payload))).length =
      cryptoPubkeyBytes + 1 + sig.length + payload.length := by
    simp only [List.length_append, putU8_length, hkey]
    omega
  have hhead : (pubKey ++ putU8 sig.length).length = cryptoPubkeyBytes + 1 := by
    rw [List.length_append, putU8_length, hkey]
  have hsig : slice (pubKey ++ (putU8 sig.length ++ (sig ++ payload))) (cryptoPubkeyBytes + 1) sig.length = sig := by
    have hright := slice_append_right (pubKey ++ putU8 sig.length) (sig ++ payload) 0 sig.length
    rwa [Nat.add_zero, hhead, List.append_assoc, slice_append_left] at hright
  have hrest : (pubKey ++ (putU8 sig.length ++ (sig ++ payload))).drop (cryptoPubkeyBytes + 1 + sig.length) = payload := by
    rw [← List.append_assoc, ← hhead, ← List.drop_drop, List.drop_left, List.drop_left]
  simp only [unpackSignedPacket, hbyte, hlength, hsig, hrest]
  rw [if_neg (by omega), if_neg (by omega), if_neg (by omega), ← hkey, List.take_left]

theorem signedPacket_codec :
    (∀ (sign : Bytes → Option Bytes) (pubKey payload sig : Bytes), pubKey.length = cryptoPubkeyBytes → payload ≠ [] →
      sign payload = some sig → 1 ≤ sig.length → sig.length ≤ cryptoSigMaxBytes →
        unpackSignedPacket (packSignedPacket sign pubKey payload) = some ⟨pubKey, sig, payload⟩) ∧
      ∀ (data : Bytes) (view : SignedPacketView), unpackSignedPacket data = some view →
        view.pubKey.length = cryptoPubkeyBytes ∧ (1 ≤ view.sig.length ∧ view.sig.length ≤ cryptoSigMaxBytes) ∧
          readU8 data cryptoPubkeyBytes = view.sig.length ∧
          cryptoPubkeyBytes + 1 + view.sig.length ≤ data.length ∧
          data = view.pubKey ++ (putU8 view.sig.length ++ (view.sig ++ view.content)) := by
  constructor
  · intro sign pubKey payload sig hkey hpayload hsign hpos hmax
    rw [packSignedPacket_some hpayload hsign]
    exact unpackSignedPacket_parts hkey hpos hmax
  · intro data view h
    obtain ⟨⟨hpos, hmax⟩, hfits, rfl⟩ := unpackSignedPacket_some h
    have hsig : (slice data (cryptoPubkeyBytes + 1) (readU8 data cryptoPubkeyBytes)).length =
        readU8 data cryptoPubkeyBytes := by
      rw [slice, List.length_take, List.length_drop]
      omega
    have hkey : (data.take cryptoPubkeyBytes).length = cryptoPubkeyBytes := by
      rw [List.length_take]
      omega
    refine ⟨hkey, ?_, ?_, ?_, ?_⟩
    · rw [hsig]
      exact ⟨hpos, hmax⟩
    · exact hsig.symm
    · rw [hsig]
      exact hfits
    · rw [hsig]
      exact header_split hfits rfl

theorem signedPacket_codec_short :
    unpackSignedPacket (packSignedPacket (fun _ => some [7]) (zeros 33) [1, 2]) = some ⟨zeros 33, [7], [1, 2]⟩ ∧
      zeros 33 ++ [1, 7, 1, 2] = zeros 33 ++ (putU8 1 ++ ([7] ++ [1, 2])) :=
  ⟨signedPacket_codec.1 (fun _ => some [7]) (zeros 33) [1, 2] [7] rfl (by decide) rfl (by decide) (by decide),
    (signedPacket_codec.2 (zeros 33 ++ [1, 7, 1, 2]) ⟨zeros 33, [7], [1, 2]⟩ (by rfl)).2.2.2.2⟩

end V2vBft.Rollback
