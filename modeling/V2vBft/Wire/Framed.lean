import V2vBft.Wire.Bytes
import V2vBft.Library.Outcome

namespace V2vBft.Wire

open Library

variable {bytes rest frame : Bytes} {off next : ℕ}

def bigU32 (value : ℕ) : Bytes := (littleEndian 4 value).reverse

def framed (frame : Bytes) : Bytes := bigU32 frame.length ++ frame

-- none: the four bytes are not there
def readBigU32 (bytes : Bytes) (off : ℕ) : Outcome (Option ℕ) :=
  if bytes.length < off + 4 then .value none
  else (Outcome.copy bytes off 4).bind fun word => .value (some (Nat.ofDigits 256 (word.reverse.map UInt8.toNat)))

-- the frame and the offset behind it; none: the frame is empty or runs over the end
def readFrame (bytes : Bytes) (off : ℕ) : Outcome (Option (Bytes × ℕ)) :=
  (readBigU32 bytes off).bind fun
    | none => .value none
    | some len =>
      if len = 0 ∨ bytes.length < off + 4 + len then .value none
      else (Outcome.copy bytes (off + 4) len).bind fun frame => .value (some (frame, off + 4 + len))

@[simp] lemma bigU32_length (value : ℕ) : (bigU32 value).length = 4 := by
  rw [bigU32, List.length_reverse, littleEndian_length]

lemma bigU32_read {value : ℕ} (h : value < 4294967296) :
    Nat.ofDigits 256 ((bigU32 value).reverse.map UInt8.toNat) = value := by
  rw [bigU32, List.reverse_reverse, ofDigits_littleEndian]
  exact Nat.mod_eq_of_lt h

lemma littleEndian_ofDigits (word : Bytes) : littleEndian word.length (Nat.ofDigits 256 (word.map UInt8.toNat)) = word := by
  induction word with
  | nil => rfl
  | cons b word ih =>
    have hb := UInt8.toNat_lt b
    have hfirst : UInt8.ofNat (b.toNat + 256 * Nat.ofDigits 256 (word.map UInt8.toNat)) = b := by
      rw [← UInt8.toNat_inj, UInt8.toNat_ofNat']
      omega
    have hshift : ∀ i, (b.toNat + 256 * Nat.ofDigits 256 (word.map UInt8.toNat)) / 256 ^ (i + 1) =
        Nat.ofDigits 256 (word.map UInt8.toNat) / 256 ^ i := by
      intro i
      rw [pow_succ', ← Nat.div_div_eq_div_mul, Nat.add_mul_div_left _ _ (by norm_num), Nat.div_eq_of_lt hb, Nat.zero_add]
    rw [littleEndian] at ih ⊢
    rw [List.length_cons, List.range_succ_eq_map, List.map_cons, List.map_map, List.map_cons, Nat.ofDigits_cons,
      pow_zero, Nat.div_one]
    refine congrArg₂ List.cons hfirst ((List.map_congr_left fun i _ => ?_).trans ih)
    exact congrArg UInt8.ofNat (hshift i)

lemma bigU32_ofDigits (word : Bytes) (h : word.length = 4) :
    bigU32 (Nat.ofDigits 256 (word.reverse.map UInt8.toNat)) = word := by
  have hword := littleEndian_ofDigits word.reverse
  rw [List.length_reverse, h] at hword
  rw [bigU32, hword, List.reverse_reverse]

lemma readBigU32_append (a rest : Bytes) {value : ℕ} (h : value < 4294967296) :
    readBigU32 (a ++ (bigU32 value ++ rest)) a.length = .value (some value) := by
  have hlen : (a ++ (bigU32 value ++ rest)).length = a.length + 4 + rest.length := by
    rw [List.length_append, List.length_append, bigU32_length]
    omega
  have hword : ((a ++ (bigU32 value ++ rest)).drop a.length).take 4 = bigU32 value := by
    rw [List.drop_left, List.take_left' (bigU32_length value)]
  rw [readBigU32, if_neg (by omega), Outcome.copy_of_le (by omega), hword, Outcome.value_bind, bigU32_read h]

lemma readFrame_append (a rest : Bytes) (hne : frame ≠ []) (h : frame.length < 4294967296) :
    readFrame (a ++ (framed frame ++ rest)) a.length = .value (some (frame, (a ++ framed frame).length)) := by
  have hpos := List.length_pos_of_ne_nil hne
  have hbytes : a ++ (framed frame ++ rest) = a ++ (bigU32 frame.length ++ (frame ++ rest)) := by
    rw [framed, List.append_assoc]
  have hlen : (a ++ (bigU32 frame.length ++ (frame ++ rest))).length = a.length + 4 + frame.length + rest.length := by
    simp only [List.length_append, bigU32_length]
    omega
  have hend : (a ++ framed frame).length = a.length + 4 + frame.length := by
    simp only [framed, List.length_append, bigU32_length]
    omega
  have hbody : ((a ++ (bigU32 frame.length ++ (frame ++ rest))).drop (a.length + 4)).take frame.length = frame := by
    rw [← List.append_assoc, List.drop_left' (by rw [List.length_append, bigU32_length]), List.take_left]
  rw [hbytes, hend, readFrame, readBigU32_append _ _ h, Outcome.value_bind]
  dsimp only
  rw [if_neg (by omega), Outcome.copy_of_le (by omega), hbody, Outcome.value_bind]

lemma readBigU32_total (bytes : Bytes) (off : ℕ) : ∃ word, readBigU32 bytes off = .value word := by
  rw [readBigU32]
  split
  · exact ⟨none, rfl⟩
  next h =>
    rw [Outcome.copy_of_le (by omega)]
    exact ⟨_, rfl⟩

lemma readFrame_total (bytes : Bytes) (off : ℕ) : ∃ read, readFrame bytes off = .value read := by
  rw [readFrame]
  refine Outcome.bind_total (readBigU32_total bytes off) fun word _ => ?_
  cases word with
  | none => exact ⟨none, rfl⟩
  | some len =>
    dsimp only
    split
    · exact ⟨none, rfl⟩
    next h =>
      push Not at h
      rw [Outcome.copy_of_le (by omega)]
      exact ⟨_, rfl⟩

lemma readBigU32_some {value : ℕ} (h : readBigU32 bytes off = .value (some value)) :
    off + 4 ≤ bytes.length ∧ bytes.drop off = bigU32 value ++ bytes.drop (off + 4) := by
  rw [readBigU32] at h
  split at h
  · cases h
  next hlen =>
    obtain ⟨word, hcopy, hvalue⟩ := Outcome.bind_eq_value.mp h
    obtain ⟨hle, rfl⟩ := Outcome.copy_eq_value.mp hcopy
    obtain rfl := Option.some.inj (Outcome.value.inj hvalue)
    refine ⟨hle, ?_⟩
    have hfour : ((bytes.drop off).take 4).length = 4 := by
      rw [List.length_take, List.length_drop]
      omega
    rw [bigU32_ofDigits _ hfour, ← List.drop_drop, List.take_append_drop]

lemma readFrame_some (h : readFrame bytes off = .value (some (frame, next))) :
    next ≤ bytes.length ∧ bytes.drop off = framed frame ++ bytes.drop next := by
  rw [readFrame] at h
  obtain ⟨word, hword, hrest⟩ := Outcome.bind_eq_value.mp h
  cases word with
  | none => cases hrest
  | some len =>
    obtain ⟨hle, hdrop⟩ := readBigU32_some hword
    dsimp only at hrest
    split at hrest
    · cases hrest
    next hlen =>
      push Not at hlen
      obtain ⟨body, hcopy, hpair⟩ := Outcome.bind_eq_value.mp hrest
      obtain ⟨hin, rfl⟩ := Outcome.copy_eq_value.mp hcopy
      obtain ⟨rfl, rfl⟩ := Prod.mk.inj (Option.some.inj (Outcome.value.inj hpair))
      have hbody : ((bytes.drop (off + 4)).take len).length = len := by
        rw [List.length_take, List.length_drop]
        omega
      have hnext : bytes.drop (off + 4 + len) = (bytes.drop (off + 4)).drop len := (List.drop_drop).symm
      exact ⟨hin, by rw [hdrop, framed, hbody, List.append_assoc, hnext, List.take_append_drop]⟩

end V2vBft.Wire
