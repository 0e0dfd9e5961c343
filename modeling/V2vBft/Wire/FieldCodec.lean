import V2vBft.Wire.TextFacts

namespace V2vBft.Wire

lemma fromHex_toHex (bs : Bytes) : fromHex (toHex bs) = some bs := by
  induction bs with
  | nil => rfl
  | cons b bs ih =>
    have hpair : ∀ v : Fin 256, stoiBase 16 [hexDigit (v / 16), hexDigit (v % 16)] = some (v : ℤ) := by decide +kernel
    have hb := hpair ⟨b.toNat, UInt8.toNat_lt b⟩
    have hback : UInt8.ofNat ((b.toNat : ℤ) % 256).toNat = b := by
      have hlt := UInt8.toNat_lt b
      rw [show ((b.toNat : ℤ) % 256).toNat = b.toNat by omega]
      exact UInt8.ofNat_toNat
    rw [toHex_cons, fromHex, ih]
    dsimp only at hb ⊢
    rw [hb]
    dsimp only
    rw [hback]

lemma stoul_decimalNat {n : ℕ} (h : n < 18446744073709551616) : stoul (decimalNat n) = some n := by
  have hnat : ((n : ℤ) % 18446744073709551616).toNat = n := by omega
  simp only [stoul, strtol_decimalNat, Int.natAbs_natCast, if_pos h, hnat]

lemma split_at_first {xs ys : Bytes} {sep : UInt8} (h : sep ∉ xs) :
    (xs ++ sep :: ys).takeWhile (fun b => decide (b ≠ sep)) = xs ∧
      ((xs ++ sep :: ys).dropWhile (fun b => decide (b ≠ sep))).drop 1 = ys := by
  have hall : ∀ b ∈ xs, decide (b ≠ sep) = true := fun b hb => decide_eq_true fun heq => h (heq ▸ hb)
  rw [List.takeWhile_append_of_pos hall, List.dropWhile_append_of_pos hall]
  simp

lemma splitStr_joined {sep : UInt8} {parts : List Bytes} (rest : Bytes) (hne : parts ≠ [])
    (h : ∀ p ∈ parts, sep ∉ p) :
    splitStr ([sep].intercalate parts ++ sep :: rest) sep = parts ++ splitStr rest sep := by
  rw [splitStr, splitStr, List.splitOn_append_cons_self, List.splitOn_intercalate sep h hne]

lemma splitStr_behind {α : Type} {part : α → Bytes} {sep : UInt8} {fields : List Bytes} (xs : List α)
    (hpart : ∀ x, sep ∉ part x) (hne : fields ≠ []) (h : ∀ p ∈ fields, sep ∉ p) :
    splitStr ([sep].intercalate fields ++ xs.flatMap fun x => sep :: part x) sep = fields ++ xs.map part := by
  induction xs generalizing fields with
  | nil =>
    rw [List.flatMap_nil, List.map_nil, List.append_nil, List.append_nil]
    exact List.splitOn_intercalate sep h hne
  | cons x xs ih =>
    have hone : ∀ p ∈ [part x], sep ∉ p := fun p hp => List.mem_singleton.mp hp ▸ hpart x
    have hrest := ih (List.cons_ne_nil (part x) []) hone
    rw [List.intercalate_singleton] at hrest
    rw [List.flatMap_cons, List.cons_append, splitStr_joined _ hne h, hrest, List.map_cons, List.singleton_append]

lemma splitStr_ne_nil (s : Bytes) (sep : UInt8) : splitStr s sep ≠ [] :=
  List.splitOn_ne_nil sep s

lemma not_mem_of_mem_splitStr {s part : Bytes} {delim : UInt8} (h : part ∈ splitStr s delim) : delim ∉ part := by
  rw [splitStr] at h
  induction s generalizing part with
  | nil =>
    rw [List.splitOn_nil, List.mem_singleton] at h
    simp [h]
  | cons b s ih =>
    rw [List.splitOn_cons_eq_if_modifyHead] at h
    split at h
    next =>
      rcases List.mem_cons.mp h with rfl | h
      · exact List.not_mem_nil
      · exact ih h
    next hb =>
      cases hparts : s.splitOn delim with
      | nil => simp [hparts] at h
      | cons first rest =>
        rw [hparts, List.modifyHead_cons] at h
        rw [hparts] at ih
        rcases List.mem_cons.mp h with rfl | h
        · rw [List.mem_cons, not_or]
          exact ⟨fun heq => hb (by rw [heq]; exact beq_self_eq_true b), ih List.mem_cons_self⟩
        · exact ih (List.mem_cons_of_mem first h)

lemma mapM_some_mem {α β : Type} {f : α → Option β} {xs : List α} {ys : List β} (h : xs.mapM f = some ys) {y : β}
    (hy : y ∈ ys) : ∃ x ∈ xs, f x = some y := by
  induction xs generalizing ys with
  | nil =>
    obtain rfl : [] = ys := Option.some.inj h
    exact absurd hy List.not_mem_nil
  | cons x xs ih =>
    rw [List.mapM_cons] at h
    obtain ⟨first, hfirst, hrest⟩ := Option.bind_eq_some_iff.mp h
    obtain ⟨others, hothers, hsome⟩ := Option.bind_eq_some_iff.mp hrest
    obtain rfl := Option.some.inj hsome
    rcases List.mem_cons.mp hy with rfl | hlater
    · exact ⟨x, List.mem_cons_self, hfirst⟩
    · obtain ⟨x', hmem, hx'⟩ := ih hothers hlater
      exact ⟨x', List.mem_cons_of_mem x hmem, hx'⟩

lemma mapM_map_some {α β γ : Type} {f : β → Option γ} {g : α → β} {k : α → γ} {xs : List α}
    (h : ∀ x ∈ xs, f (g x) = some (k x)) : (xs.map g).mapM f = some (xs.map k) := by
  induction xs with
  | nil => rfl
  | cons x xs ih =>
    obtain ⟨hx, hothers⟩ := List.forall_mem_cons.mp h
    rw [List.map_cons, List.mapM_cons, hx, ih hothers]
    rfl

lemma mapM_isSome {α β : Type} {f : α → Option β} {xs : List α} :
    (xs.mapM f).isSome = true ↔ ∀ x ∈ xs, (f x).isSome = true := by
  induction xs with
  | nil => simp
  | cons x xs ih =>
    rw [List.mapM_cons, List.forall_mem_cons, ← ih]
    cases f x <;> cases xs.mapM f <;> simp

end V2vBft.Wire
