import V2vBft.Wire.Text

namespace V2vBft.Wire

def digitByte (c : Char) : UInt8 := UInt8.ofNat c.toNat

lemma digitByte_toNat {c : Char} (h : c.isDigit) : (digitByte c).toNat = c.toNat ∧ 48 ≤ c.toNat ∧ c.toNat ≤ 57 := by
  have hrange : 48 ≤ c.toNat ∧ c.toNat ≤ 57 := by
    simp only [Char.isDigit, Bool.and_eq_true, decide_eq_true_eq, UInt32.le_iff_toNat_le] at h
    exact h
  have hbyte : (digitByte c).toNat = c.toNat % 256 := by simp [digitByte]
  omega

lemma decimalNat_digits {n : ℕ} {b : UInt8} (h : b ∈ decimalNat n) : 48 ≤ b.toNat ∧ b.toNat ≤ 57 := by
  obtain ⟨c, hc, rfl⟩ := List.mem_map.mp h
  obtain ⟨hbyte, hrange⟩ := digitByte_toNat (Nat.isDigit_of_mem_toDigits (by norm_num) (by norm_num) hc)
  rw [digitByte] at hbyte
  omega

lemma decimalNat_ne_nil (n : ℕ) : decimalNat n ≠ [] := by
  simp [decimalNat]

lemma digitValue_digitByte {c : Char} (h : c.isDigit) : digitValue 10 (digitByte c) = some (c.toNat - 48) := by
  obtain ⟨hbyte, hlo, hhi⟩ := digitByte_toNat h
  have hdigit : 48 ≤ digitByte c ∧ digitByte c ≤ 57 := by
    simp only [UInt8.le_iff_toNat_le, hbyte]
    exact ⟨hlo, hhi⟩
  have hsmall : c.toNat - 48 < 10 := by omega
  rw [digitValue, if_pos hdigit, hbyte]
  exact if_pos hsmall

lemma digitsPrefix_digits {cs : List Char} (h : ∀ c ∈ cs, c.isDigit) :
    digitsPrefix 10 (cs.map digitByte) = cs.map fun c => c.toNat - 48 := by
  induction cs with
  | nil => rfl
  | cons c cs ih =>
    rw [List.map_cons, digitsPrefix, digitValue_digitByte (h c List.mem_cons_self),
      ih fun c hc => h c (List.mem_cons_of_mem _ hc), List.map_cons]

lemma ofDigits_reverse_digits (cs : List Char) :
    Nat.ofDigits 10 (cs.map fun c => c.toNat - 48).reverse = Nat.ofDigitChars 10 cs 0 := by
  induction cs using List.reverseRecOn with
  | nil => simp
  | append_singleton cs c ih =>
    rw [List.map_append, List.reverse_append, Nat.ofDigitChars_append, ← ih, Nat.ofDigitChars_cons]
    simp [Nat.ofDigits_cons]
    omega

lemma digitsPrefix_decimalNat (n : ℕ) :
    digitsPrefix 10 (decimalNat n) ≠ [] ∧ Nat.ofDigits 10 (digitsPrefix 10 (decimalNat n)).reverse = n := by
  have hdigits : ∀ c ∈ Nat.toDigits 10 n, c.isDigit := fun c hc =>
    Nat.isDigit_of_mem_toDigits (by norm_num) (by norm_num) hc
  have hpre : digitsPrefix 10 (decimalNat n) = (Nat.toDigits 10 n).map fun c => c.toNat - 48 :=
    digitsPrefix_digits hdigits
  rw [hpre]
  refine ⟨by simp, ?_⟩
  rw [ofDigits_reverse_digits, Nat.ofDigitChars_toDigits (by norm_num) (by norm_num)]

lemma not_isSpace_of_digit {b : UInt8} (h : 48 ≤ b.toNat) : isSpace b = false := by
  simp only [isSpace, Bool.or_eq_false_iff, decide_eq_false_iff_not, UInt8.le_iff_toNat_le, ← UInt8.toNat_inj]
  change ¬(9 ≤ b.toNat ∧ b.toNat ≤ 13) ∧ ¬b.toNat = 32
  omega

lemma decimalNat_head (n : ℕ) : ∃ b bs, decimalNat n = b :: bs ∧ 48 ≤ b.toNat ∧ b.toNat ≤ 57 := by
  obtain ⟨b, bs, hcons⟩ := List.exists_cons_of_ne_nil (decimalNat_ne_nil n)
  exact ⟨b, bs, hcons, decimalNat_digits (hcons ▸ List.mem_cons_self)⟩

lemma strtol_decimalNat (n : ℕ) : strtol 10 (decimalNat n) = some (n : ℤ) := by
  obtain ⟨b, bs, hcons, hlo, hhi⟩ := decimalNat_head n
  obtain ⟨hne, hvalue⟩ := digitsPrefix_decimalNat n
  have hminus : b ≠ 45 := by rintro rfl; simp at hlo
  have hplus : b ≠ 43 := by rintro rfl; simp at hlo
  have hbody : (decimalNat n).dropWhile isSpace = decimalNat n := by
    rw [hcons, List.dropWhile_cons_of_neg (by simp [not_isSpace_of_digit hlo])]
  have hhead : (decimalNat n).head? = some b := by rw [hcons]; rfl
  rw [strtol, hbody]
  simp only [hhead, Option.some.injEq, hminus, hplus, decide_false, Bool.false_eq_true, or_false, if_false]
  rw [← Nat.coe_ofDigits, hvalue]

lemma strtol_neg_decimalNat (n : ℕ) : strtol 10 (45 :: decimalNat n) = some (-(n : ℤ)) := by
  obtain ⟨hne, hvalue⟩ := digitsPrefix_decimalNat n
  have hbody : (45 :: decimalNat n).dropWhile isSpace = 45 :: decimalNat n :=
    List.dropWhile_cons_of_neg (by decide)
  rw [strtol, hbody]
  simp only [List.head?_cons, decide_true, true_or, if_true, List.drop_succ_cons, List.drop_zero]
  rw [← Nat.coe_ofDigits, hvalue]

lemma strtol_decimalInt (i : ℤ) : strtol 10 (decimalInt i) = some i := by
  rw [decimalInt]
  split
  next hneg =>
    rw [strtol_neg_decimalNat]
    congr 1
    omega
  next hpos =>
    rw [strtol_decimalNat]
    congr 1
    omega

lemma stoi_decimalInt {i : ℤ} (h : -2147483648 ≤ i ∧ i < 2147483648) : stoi (decimalInt i) = some i := by
  simp only [stoi, stoiBase, strtol_decimalInt, if_pos h]

lemma decimalInt_injective : Function.Injective decimalInt := fun i j h =>
  Option.some.inj ((strtol_decimalInt i).symm.trans ((congrArg (strtol 10) h).trans (strtol_decimalInt j)))

lemma decimalNat_injective : Function.Injective decimalNat := fun n m h => by
  have heq := (strtol_decimalNat n).symm.trans ((congrArg (strtol 10) h).trans (strtol_decimalNat m))
  exact_mod_cast Option.some.inj heq

lemma decimalInt_bytes {i : ℤ} {b : UInt8} (h : b ∈ decimalInt i) : b = 45 ∨ 48 ≤ b.toNat ∧ b.toNat ≤ 57 := by
  rw [decimalInt] at h
  split at h
  next =>
    rcases List.mem_cons.mp h with hb | hb
    · exact Or.inl hb
    · exact Or.inr (decimalNat_digits hb)
  next => exact Or.inr (decimalNat_digits h)

lemma decimalInt_notMem {i : ℤ} {b : UInt8} (hminus : b ≠ 45) (hdigit : 57 < b.toNat) : b ∉ decimalInt i := by
  intro h
  rcases decimalInt_bytes h with hb | hb
  · exact hminus hb
  · omega

lemma decimalNat_notMem {n : ℕ} {b : UInt8} (hdigit : b.toNat < 48 ∨ 57 < b.toNat) : b ∉ decimalNat n := by
  intro h
  have hb := decimalNat_digits h
  omega

lemma append_separator_inj {sep : UInt8} {a b xs ys : Bytes} (hxs : sep ∉ xs) (hys : sep ∉ ys)
    (h : a ++ sep :: xs = b ++ sep :: ys) : a = b ∧ xs = ys := by
  have hcut : ∀ c zs : Bytes, sep ∉ zs → (c ++ sep :: zs).reverse.takeWhile (· != sep) = zs.reverse := by
    intro c zs hzs
    have hall : ∀ z ∈ zs.reverse, (z != sep) = true := fun z hz => by
      rw [bne_iff_ne]
      rintro rfl
      exact hzs (List.mem_reverse.mp hz)
    rw [List.reverse_append, List.reverse_cons, List.append_assoc, List.takeWhile_append_of_pos hall]
    simp
  have hlast : xs = ys := by
    have hrev := hcut a xs hxs
    rw [h, hcut b ys hys] at hrev
    exact (List.reverse_injective hrev).symm
  subst hlast
  exact ⟨List.append_cancel_right h, rfl⟩

lemma hexDigit_toNat {v : ℕ} (h : v < 16) : (hexDigit v).toNat = if v < 10 then 48 + v else 87 + v := by
  have hsmall : (if v < 10 then 48 + v else 87 + v) < 256 := by split <;> omega
  simp [hexDigit, Nat.mod_eq_of_lt hsmall]

lemma hexDigit_inj {v w : ℕ} (hv : v < 16) (hw : w < 16) (h : hexDigit v = hexDigit w) : v = w := by
  have heq := congrArg UInt8.toNat h
  rw [hexDigit_toNat hv, hexDigit_toNat hw] at heq
  split at heq <;> split at heq <;> omega

lemma toHex_cons (b : UInt8) (bs : Bytes) :
    toHex (b :: bs) = hexDigit (b.toNat / 16) :: hexDigit (b.toNat % 16) :: toHex bs := rfl

lemma toHex_injective : Function.Injective toHex := by
  intro bs
  induction bs with
  | nil =>
    intro cs h
    cases cs with
    | nil => rfl
    | cons c cs => simp [toHex] at h
  | cons b bs ih =>
    intro cs h
    cases cs with
    | nil => simp [toHex] at h
    | cons c cs =>
      rw [toHex_cons, toHex_cons] at h
      obtain ⟨hhigh, h⟩ := List.cons.inj h
      obtain ⟨hlow, hrest⟩ := List.cons.inj h
      have hb := UInt8.toNat_lt b
      have hc := UInt8.toNat_lt c
      have hdiv := hexDigit_inj (by omega) (by omega) hhigh
      have hmod := hexDigit_inj (by omega) (by omega) hlow
      have hbyte : b = c := UInt8.toNat_inj.mp (by omega)
      rw [hbyte, ih hrest]

lemma toHex_bytes {bs : Bytes} {b : UInt8} (h : b ∈ toHex bs) :
    48 ≤ b.toNat ∧ b.toNat ≤ 57 ∨ 97 ≤ b.toNat ∧ b.toNat ≤ 102 := by
  obtain ⟨c, -, hb⟩ := List.mem_flatMap.mp h
  have hc := UInt8.toNat_lt c
  have hdigit : ∃ v < 16, b = hexDigit v := by
    simp only [List.mem_cons, List.not_mem_nil, or_false] at hb
    rcases hb with hb | hb
    · exact ⟨_, by omega, hb⟩
    · exact ⟨_, by omega, hb⟩
  obtain ⟨v, hv, rfl⟩ := hdigit
  rw [hexDigit_toNat hv]
  split <;> omega

lemma toHex_notMem {bs : Bytes} {b : UInt8} (h : b.toNat < 48 ∨ 102 < b.toNat) : b ∉ toHex bs := by
  intro hb
  have hrange := toHex_bytes hb
  omega

end V2vBft.Wire
