import Mathlib

namespace V2vBft.Wire

abbrev Bytes := List UInt8

instance instLawfulBEqBytes : LawfulBEq Bytes := inferInstance

def uint32Modulus : ℕ := 4294967296
def uint64Max : ℕ := 18446744073709551615

def slice (bs : Bytes) (off len : ℕ) : Bytes := (bs.drop off).take len

def readLE (width : ℕ) (bs : Bytes) (off : ℕ) : ℕ := Nat.ofDigits 256 ((slice bs off width).map UInt8.toNat)

def readU8 (bs : Bytes) (off : ℕ) : ℕ := readLE 1 bs off
def readU16 (bs : Bytes) (off : ℕ) : ℕ := readLE 2 bs off
def readU32 (bs : Bytes) (off : ℕ) : ℕ := readLE 4 bs off
def readU64 (bs : Bytes) (off : ℕ) : ℕ := readLE 8 bs off

-- two's complement, as memcpy into an int32_t reads it
def signed32 (v : ℕ) : ℤ := if v < 2147483648 then v else (v : ℤ) - 4294967296

def readI32 (bs : Bytes) (off : ℕ) : ℤ := signed32 (readU32 bs off)

def littleEndian (width value : ℕ) : Bytes :=
  (List.range width).map fun i => UInt8.ofNat (value / 256 ^ i)

def putU8 (value : ℕ) : Bytes := littleEndian 1 value
def putU16 (value : ℕ) : Bytes := littleEndian 2 value
def putU32 (value : ℕ) : Bytes := littleEndian 4 value
def putU64 (value : ℕ) : Bytes := littleEndian 8 value
def putI32 (value : ℤ) : Bytes := putU32 (value % 4294967296).toNat

def ascii (text : String) : Bytes := text.toList.map fun c => UInt8.ofNat c.toNat

def zeros (n : ℕ) : Bytes := List.replicate n 0

@[simp] lemma littleEndian_length (width value : ℕ) : (littleEndian width value).length = width := by
  simp [littleEndian]

@[simp] lemma putU8_length (value : ℕ) : (putU8 value).length = 1 := littleEndian_length 1 value
@[simp] lemma putU32_length (value : ℕ) : (putU32 value).length = 4 := littleEndian_length 4 value
@[simp] lemma putI32_length (value : ℤ) : (putI32 value).length = 4 := putU32_length _
@[simp] lemma zeros_length (n : ℕ) : (zeros n).length = n := List.length_replicate

lemma slice_append_right (a b : Bytes) (off len : ℕ) : slice (a ++ b) (a.length + off) len = slice b off len := by
  rw [slice, slice, ← List.drop_drop, List.drop_left]

lemma slice_append_left (a b : Bytes) : slice (a ++ b) 0 a.length = a := by
  simp [slice]

lemma ofDigits_littleEndian (width value : ℕ) :
    Nat.ofDigits 256 ((littleEndian width value).map UInt8.toNat) = value % 256 ^ width := by
  induction width with
  | zero => simp [littleEndian, Nat.mod_one]
  | succ width ih =>
    have hsnoc : littleEndian (width + 1) value =
        littleEndian width value ++ [UInt8.ofNat (value / 256 ^ width)] := by
      simp [littleEndian, List.range_succ]
    have hbyte : (UInt8.ofNat (value / 256 ^ width)).toNat = value / 256 ^ width % 256 := by simp
    rw [hsnoc, List.map_append, Nat.ofDigits_append, ih, List.length_map, littleEndian_length, List.map_singleton,
      Nat.ofDigits_singleton, hbyte, ← Nat.mod_pow_succ]

lemma readLE_lt (width : ℕ) (bs : Bytes) (off : ℕ) : readLE width bs off < 256 ^ width := by
  have hdigits : ∀ d ∈ (slice bs off width).map UInt8.toNat, d < 256 := by
    intro d hd
    obtain ⟨b, -, rfl⟩ := List.mem_map.mp hd
    exact UInt8.toNat_lt b
  refine (Nat.ofDigits_lt_base_pow_length (by norm_num) hdigits).trans_le (Nat.pow_le_pow_right (by norm_num) ?_)
  simp [slice]

lemma readU32_lt (bs : Bytes) (off : ℕ) : readU32 bs off < 4294967296 := readLE_lt 4 bs off

lemma readU8_lt (bs : Bytes) (off : ℕ) : readU8 bs off < 256 := readLE_lt 1 bs off

lemma readLE_append_right (width : ℕ) (a b : Bytes) (off : ℕ) :
    readLE width (a ++ b) (a.length + off) = readLE width b off := by
  rw [readLE, slice_append_right, readLE]

lemma readLE_littleEndian (width value : ℕ) (rest : Bytes) :
    readLE width (littleEndian width value ++ rest) 0 = value % 256 ^ width := by
  have hs := slice_append_left (littleEndian width value) rest
  rw [littleEndian_length] at hs
  rw [readLE, hs, ofDigits_littleEndian]

lemma readU32_put (a rest : Bytes) (value : ℕ) (h : value < 4294967296) :
    readU32 (a ++ (putU32 value ++ rest)) a.length = value := by
  have hright := readLE_append_right 4 a (putU32 value ++ rest) 0
  rw [Nat.add_zero] at hright
  rw [readU32, hright, putU32, readLE_littleEndian]
  exact Nat.mod_eq_of_lt h

lemma readU8_put (a rest : Bytes) (value : ℕ) (h : value < 256) :
    readU8 (a ++ (putU8 value ++ rest)) a.length = value := by
  have hright := readLE_append_right 1 a (putU8 value ++ rest) 0
  rw [Nat.add_zero] at hright
  rw [readU8, hright, putU8, readLE_littleEndian]
  exact Nat.mod_eq_of_lt h

lemma readU8_putU32 (a rest : Bytes) (value : ℕ) :
    readU8 (a ++ (putU32 value ++ rest)) a.length = value % 256 := by
  have hright := readLE_append_right 1 a (putU32 value ++ rest) 0
  have hsplit : putU32 value = littleEndian 1 value ++ (littleEndian 4 value).drop 1 := by
    simp [putU32, littleEndian, List.range_succ]
  rw [Nat.add_zero] at hright
  rw [readU8, hright, hsplit, List.append_assoc, readLE_littleEndian, pow_one]

lemma putU8_zeros {value : ℕ} (h : value < 256) : putU8 value ++ zeros 3 = putU32 value := by
  have h₁ : value / 256 = 0 := Nat.div_eq_of_lt h
  have h₂ : value / 65536 = 0 := Nat.div_eq_of_lt (by omega)
  have h₃ : value / 16777216 = 0 := Nat.div_eq_of_lt (by omega)
  simp [putU8, putU32, zeros, littleEndian, List.range_succ, h₁, h₂, h₃, List.replicate_succ]

lemma signed32_emod {value : ℤ} (hlo : -2147483648 ≤ value) (hhi : value < 2147483648) :
    signed32 (value % 4294967296).toNat = value := by
  unfold signed32
  split <;> omega

lemma readI32_put (a rest : Bytes) {value : ℤ} (hlo : -2147483648 ≤ value) (hhi : value < 2147483648) :
    readI32 (a ++ (putI32 value ++ rest)) a.length = value := by
  have hread := readU32_put a rest (value % 4294967296).toNat (by omega)
  exact (congrArg signed32 hread).trans (signed32_emod hlo hhi)

lemma records_length {α : Type*} {bytes : α → Bytes} {size : ℕ} (hsize : ∀ x, (bytes x).length = size) (xs : List α) :
    (xs.flatMap bytes).length = xs.length * size := by
  induction xs with
  | nil => simp
  | cons x xs ih => rw [List.flatMap_cons, List.length_append, hsize, ih, List.length_cons, Nat.succ_mul, Nat.add_comm]

lemma read_records {α : Type*} {read : Bytes → ℕ → α} {bytes : α → Bytes} {size : ℕ} {Fits : α → Prop}
    (hsize : ∀ x, (bytes x).length = size)
    (hread : ∀ x, Fits x → ∀ a rest, read (a ++ (bytes x ++ rest)) a.length = x) (a rest : Bytes) (xs : List α)
    (hxs : ∀ x ∈ xs, Fits x) :
    ((List.range xs.length).map fun i => read (a ++ (xs.flatMap bytes ++ rest)) (a.length + i * size)) = xs := by
  induction xs generalizing a with
  | nil => rfl
  | cons x xs ih =>
    have hhead := hread x (hxs x List.mem_cons_self) a (xs.flatMap bytes ++ rest)
    have htail := ih (a ++ bytes x) fun y hy => hxs y (List.mem_cons_of_mem x hy)
    rw [List.append_assoc, List.length_append, hsize] at htail
    rw [List.flatMap_cons, List.append_assoc, List.length_cons, List.range_succ_eq_map, List.map_cons, List.map_map,
      Nat.zero_mul, Nat.add_zero, hhead]
    congr 1
    refine Eq.trans (List.map_congr_left fun i _ => ?_) htail
    simp only [Function.comp_apply]
    congr 1
    rw [Nat.succ_mul]
    omega

end V2vBft.Wire
