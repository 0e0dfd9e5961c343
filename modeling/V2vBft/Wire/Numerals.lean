import V2vBft.Wire.FieldCodec

namespace V2vBft.Wire

variable {base : ℕ} {s : Bytes} {v lo hi : ℤ}

def isDigit (base : ℕ) (c : UInt8) : Bool := (digitValue base c).isSome

def digitsValue (base : ℕ) (digits : Bytes) : ℤ := Nat.ofDigits base (digits.filterMap (digitValue base)).reverse

-- leading spaces, at most one sign, and digits up to the first byte that is none
inductive Numeral (base : ℕ) : Bytes → ℤ → Prop
  | spelled {spaces sign digits rest : Bytes} (hspaces : ∀ c ∈ spaces, isSpace c = true)
      (hsign : sign = [] ∨ sign = [43] ∨ sign = [45]) (hne : digits ≠ []) (hdigits : ∀ c ∈ digits, isDigit base c = true)
      (hrest : ∀ c ∈ rest.head?, isDigit base c = false) :
      Numeral base (spaces ++ (sign ++ (digits ++ rest)))
        (if sign = [45] then -digitsValue base digits else digitsValue base digits)

lemma isDigit_range {c : UInt8} (h : isDigit base c = true) : 48 ≤ c.toNat := by
  by_contra hlow
  have hbelow : ∀ lo hi : UInt8, 48 ≤ lo.toNat → ¬ (lo ≤ c ∧ c ≤ hi) := by
    intro lo hi hlo hc
    have hle := UInt8.le_iff_toNat_le.mp hc.1
    omega
  rw [isDigit, digitValue, if_neg (hbelow _ _ (by decide)), if_neg (hbelow _ _ (by decide)),
    if_neg (hbelow _ _ (by decide))] at h
  simp at h

lemma digitsPrefix_append {digits rest : Bytes} (h : ∀ c ∈ digits, isDigit base c = true)
    (hrest : ∀ c ∈ rest.head?, isDigit base c = false) :
    digitsPrefix base (digits ++ rest) = digits.filterMap (digitValue base) := by
  induction digits with
  | nil =>
    cases rest with
    | nil => rfl
    | cons c rest =>
      have hnone : digitValue base c = none := by simpa [isDigit] using hrest c rfl
      simp [digitsPrefix, hnone]
  | cons c digits ih =>
    obtain ⟨hc, hothers⟩ := List.forall_mem_cons.mp h
    obtain ⟨d, hd⟩ := Option.isSome_iff_exists.mp hc
    rw [List.cons_append, digitsPrefix, hd, List.filterMap_cons_some hd]
    dsimp only
    rw [ih hothers]

lemma digits_ne_nil {digits : Bytes} (hne : digits ≠ []) (h : ∀ c ∈ digits, isDigit base c = true) :
    digits.filterMap (digitValue base) ≠ [] := by
  obtain ⟨c, rest, rfl⟩ := List.exists_cons_of_ne_nil hne
  obtain ⟨d, hd⟩ := Option.isSome_iff_exists.mp (h c List.mem_cons_self)
  rw [List.filterMap_cons_some hd]
  exact List.cons_ne_nil _ _

lemma span_split (p : UInt8 → Bool) (s : Bytes) :
    ∃ first rest, s = first ++ rest ∧ (∀ c ∈ first, p c = true) ∧ ∀ c ∈ rest.head?, p c = false := by
  refine ⟨s.takeWhile p, s.dropWhile p, List.takeWhile_append_dropWhile.symm, fun c hc => List.mem_takeWhile_imp hc,
    fun c hc => ?_⟩
  have hhead := List.head?_dropWhile_not p s
  rw [Option.mem_def.mp hc] at hhead
  simpa using hhead

lemma dropWhile_span {p : UInt8 → Bool} {first rest : Bytes} (h : ∀ c ∈ first, p c = true)
    (hrest : ∀ c ∈ rest.head?, p c = false) : (first ++ rest).dropWhile p = rest := by
  rw [List.dropWhile_append_of_pos h]
  cases rest with
  | nil => rfl
  | cons c rest => exact List.dropWhile_cons_of_neg (by simp [hrest c rfl])

lemma strtol_complete (h : Numeral base s v) : strtol base s = some v := by
  obtain @⟨spaces, sign, digits, rest, hspaces, hsign, hne, hdigits, hrest⟩ := h
  obtain ⟨c, others, hcons⟩ := List.exists_cons_of_ne_nil hne
  have hfirst := isDigit_range (hdigits c (hcons ▸ List.mem_cons_self))
  have hspace := not_isSpace_of_digit hfirst
  have hminus : c ≠ 45 := by rintro rfl; simp at hfirst
  have hplus : c ≠ 43 := by rintro rfl; simp at hfirst
  have hbody : ∀ b ∈ (sign ++ (digits ++ rest)).head?, isSpace b = false := by
    rw [hcons]
    rcases hsign with rfl | rfl | rfl
    · simpa using hspace
    · simp [isSpace]
    · simp [isSpace]
  have hvalue := digitsPrefix_append hdigits hrest
  obtain ⟨d, ds, hds⟩ := List.exists_cons_of_ne_nil (digits_ne_nil hne hdigits)
  rw [strtol, dropWhile_span hspaces hbody, digitsValue, hds]
  rw [hds] at hvalue
  rcases hsign with rfl | rfl | rfl
  · have hhead : (digits ++ rest).head? = some c := by rw [hcons]; rfl
    simp [hhead, hminus, hplus, hvalue]
  · simp [hvalue]
  · simp [hvalue]

lemma strtol_sound (h : strtol base s = some v) : Numeral base s v := by
  obtain ⟨spaces, body, rfl, hspaces, hbody⟩ := span_split isSpace s
  rw [strtol, dropWhile_span hspaces hbody] at h
  have hsign : ∃ sign unsigned, body = sign ++ unsigned ∧ (sign = [] ∨ sign = [43] ∨ sign = [45]) ∧
      (if decide (body.head? = some 45) = true ∨ body.head? = some 43 then body.drop 1 else body) = unsigned ∧
      (decide (body.head? = some 45) = true ↔ sign = [45]) := by
    cases body with
    | nil => exact ⟨[], [], rfl, Or.inl rfl, by simp, by simp⟩
    | cons c body =>
      by_cases hminus : c = 45
      · exact ⟨[45], body, by rw [hminus]; rfl, Or.inr (Or.inr rfl), by simp [hminus], by simp [hminus]⟩
      · by_cases hplus : c = 43
        · exact ⟨[43], body, by rw [hplus]; rfl, Or.inr (Or.inl rfl), by simp [hplus], by simp [hplus]⟩
        · exact ⟨[], c :: body, rfl, Or.inl rfl, by simp [hminus, hplus], by simp [hminus]⟩
  obtain ⟨sign, unsigned, rfl, hsign, hunsigned, hneg⟩ := hsign
  obtain ⟨digits, rest, rfl, hdigits, hrest⟩ := span_split (isDigit base) unsigned
  dsimp only at h
  rw [hunsigned, digitsPrefix_append hdigits hrest] at h
  split at h
  next => cases h
  next hne =>
    have hdigitsNe : digits ≠ [] := by
      rintro rfl
      exact hne rfl
    obtain rfl := Option.some.inj h
    simp only [hneg]
    exact Numeral.spelled hspaces hsign hdigitsNe hdigits hrest

theorem strtol_eq_some_iff : strtol base s = some v ↔ Numeral base s v := ⟨strtol_sound, strtol_complete⟩

def NumberText (lo hi : ℤ) (s : Bytes) : Prop := ∃ v, Numeral 10 s v ∧ lo ≤ v ∧ v < hi

def IntText (s : Bytes) : Prop := NumberText (-2147483648) 2147483648 s

def LongText (s : Bytes) : Prop := NumberText (-9223372036854775808) 9223372036854775808 s

def UnsignedLongText (s : Bytes) : Prop := NumberText (-18446744073709551615) 18446744073709551616 s

lemma stoi_isSome : (stoi s).isSome = true ↔ IntText s := by
  rw [IntText, NumberText, stoi, stoiBase]
  simp only [← strtol_eq_some_iff]
  cases strtol 10 s with
  | none => simp
  | some v =>
    dsimp only
    split <;> simp_all

lemma stoul_isSome : (stoul s).isSome = true ↔ UnsignedLongText s := by
  rw [UnsignedLongText, NumberText, stoul]
  simp only [← strtol_eq_some_iff]
  cases strtol 10 s with
  | none => simp
  | some v =>
    have hrange : v.natAbs < 18446744073709551616 ↔ -18446744073709551615 ≤ v ∧ v < 18446744073709551616 := by omega
    dsimp only
    split
    next hin => simpa using hrange.mp hin
    next hout => simpa using mt hrange.mpr hout

def isSign (c : UInt8) : Bool := decide (c = 43) || decide (c = 45)

-- pairs of hex digits; the first of a pair may be a space or a sign, and a last odd byte is not read
def HexText : Bytes → Prop
  | a :: b :: rest => (isDigit 16 a = true ∨ (isSpace a = true ∨ isSign a = true) ∧ isDigit 16 b = true) ∧ HexText rest
  | _ => True

lemma digitValue_lt {c : UInt8} {d : ℕ} (h : digitValue base c = some d) : d < base := by
  obtain ⟨hlt, heq⟩ := Option.ite_none_right_eq_some.mp h
  exact Option.some.inj heq ▸ hlt

lemma Numeral.natAbs_lt (hbase : 1 < base) (h : Numeral base s v) : v.natAbs < base ^ s.length := by
  obtain @⟨spaces, sign, digits, rest, -, -, -, -, -⟩ := h
  have hdigit : ∀ d ∈ (digits.filterMap (digitValue base)).reverse, d < base := by
    intro d hd
    obtain ⟨c, -, hc⟩ := List.mem_filterMap.mp (List.mem_reverse.mp hd)
    exact digitValue_lt hc
  have hlt := Nat.ofDigits_lt_base_pow_length hbase hdigit
  have hlen : (digits.filterMap (digitValue base)).reverse.length ≤ (spaces ++ (sign ++ (digits ++ rest))).length := by
    have hfilter := List.length_filterMap_le (digitValue base) digits
    simp only [List.length_reverse, List.length_append]
    omega
  have hpow := Nat.pow_le_pow_right (by omega : 0 < base) hlen
  rw [digitsValue, ← Nat.coe_ofDigits]
  split <;> omega

lemma numeral_pair {a b : UInt8} :
    (∃ v, Numeral base [a, b] v) ↔
      isDigit base a = true ∨ (isSpace a = true ∨ isSign a = true) ∧ isDigit base b = true := by
  constructor
  · rintro ⟨v, h⟩
    generalize hs : [a, b] = s at h
    obtain @⟨spaces, sign, digits, rest, hspaces, hsign, hne, hdigits, -⟩ := h
    obtain ⟨d, others, rfl⟩ := List.exists_cons_of_ne_nil hne
    have hd := hdigits d List.mem_cons_self
    cases spaces with
    | nil =>
      rcases hsign with rfl | rfl | rfl
      · obtain ⟨rfl, -⟩ := List.cons.inj hs
        exact Or.inl hd
      · obtain ⟨rfl, htail⟩ := List.cons.inj hs
        obtain ⟨rfl, -⟩ := List.cons.inj htail
        exact Or.inr ⟨Or.inr (by decide), hd⟩
      · obtain ⟨rfl, htail⟩ := List.cons.inj hs
        obtain ⟨rfl, -⟩ := List.cons.inj htail
        exact Or.inr ⟨Or.inr (by decide), hd⟩
    | cons c spaces =>
      obtain ⟨rfl, htail⟩ := List.cons.inj hs
      have htail : [b] = spaces ++ (sign ++ (d :: others ++ rest)) := htail
      have hlen := congrArg List.length htail
      simp only [List.length_append, List.length_cons, List.length_nil] at hlen
      have hspacesNil : spaces = [] := List.eq_nil_of_length_eq_zero (by omega)
      have hsignNil : sign = [] := List.eq_nil_of_length_eq_zero (by omega)
      subst hspacesNil hsignNil
      obtain ⟨rfl, -⟩ := List.cons.inj htail
      exact Or.inr ⟨Or.inl (hspaces _ List.mem_cons_self), hd⟩
  · have hend : ∀ c ∈ ([] : Bytes).head?, isDigit base c = false := fun c hc => nomatch hc
    rintro (ha | ⟨hfirst, hb⟩)
    · have hone : ∀ c ∈ [a], isDigit base c = true := fun c hc => List.mem_singleton.mp hc ▸ ha
      cases hb : isDigit base b with
      | true =>
        exact ⟨_, @Numeral.spelled base [] [] [a, b] [] (fun c hc => nomatch hc) (Or.inl rfl) (by simp)
          (List.forall_mem_cons.mpr ⟨ha, fun c hc => List.mem_singleton.mp hc ▸ hb⟩) hend⟩
      | false =>
        exact ⟨_, @Numeral.spelled base [] [] [a] [b] (fun c hc => nomatch hc) (Or.inl rfl) (by simp) hone
          fun c hc => Option.some.inj hc ▸ hb⟩
    · have hone : ∀ c ∈ [b], isDigit base c = true := fun c hc => List.mem_singleton.mp hc ▸ hb
      rcases hfirst with hspace | hsign
      · exact ⟨_, @Numeral.spelled base [a] [] [b] [] (fun c hc => List.mem_singleton.mp hc ▸ hspace) (Or.inl rfl)
          (by simp) hone hend⟩
      · have hsign' : [a] = [] ∨ [a] = [43] ∨ [a] = [45] := by simpa [isSign] using hsign
        exact ⟨_, @Numeral.spelled base [] [a] [b] [] (fun c hc => nomatch hc) hsign' (by simp) hone hend⟩

lemma stoiBase_pair {a b : UInt8} :
    (stoiBase 16 [a, b]).isSome = true ↔
      isDigit 16 a = true ∨ (isSpace a = true ∨ isSign a = true) ∧ isDigit 16 b = true := by
  have hsmall : ∀ v, strtol 16 [a, b] = some v → -2147483648 ≤ v ∧ v < 2147483648 := by
    intro v hv
    have hlt := (strtol_sound hv).natAbs_lt (by omega)
    rw [List.length_cons, List.length_singleton] at hlt
    omega
  have hconv : (stoiBase 16 [a, b]).isSome = (strtol 16 [a, b]).isSome := by
    rw [stoiBase]
    split
    next hnone => rw [hnone]
    next v hv => rw [if_pos (hsmall v hv), hv]
  rw [hconv, Option.isSome_iff_exists]
  simp only [strtol_eq_some_iff]
  exact numeral_pair

lemma fromHex_isSome : ∀ s : Bytes, (fromHex s).isSome = true ↔ HexText s
  | [] => by simp [fromHex, HexText]
  | [a] => by simp [fromHex, HexText]
  | a :: b :: rest => by
    rw [fromHex, HexText, ← fromHex_isSome rest, ← stoiBase_pair]
    cases stoiBase 16 [a, b] <;> cases fromHex rest <;> simp

end V2vBft.Wire
