import V2vBft.App.WitnessCert
import V2vBft.Wire.FieldCodec

namespace V2vBft.App

open Wire

variable {e : WitnessEcho} {echoes : List WitnessEcho}

def WitnessEcho.part (echo : WitnessEcho) : Bytes :=
  decimalInt echo.signerId ++ ascii ":" ++ toHex echo.pubKey ++ ascii "," ++ toHex echo.sig

structure WitnessEcho.Fits (e : WitnessEcho) : Prop where
  signerId : -2147483648 ≤ e.signerId ∧ e.signerId < 2147483648
  pubKey : e.pubKey.length = cryptoPubkeyBytes
  sig : e.sig.length ≤ cryptoSigMaxBytes

lemma WitnessEcho.part_eq (e : WitnessEcho) :
    e.part = decimalInt e.signerId ++ 58 :: (toHex e.pubKey ++ 44 :: toHex e.sig) := by
  have hcolon : ascii ":" = [58] := by decide
  have hcomma : ascii "," = [44] := by decide
  rw [part, hcolon, hcomma]
  simp only [List.append_assoc, List.cons_append, List.nil_append]

lemma WitnessEcho.part_notMem (e : WitnessEcho) : (124 : UInt8) ∉ e.part := by
  rw [e.part_eq]
  simp only [List.mem_append, List.mem_cons, not_or]
  exact ⟨decimalInt_notMem (by decide) (by decide), by decide, toHex_notMem (by decide), by decide,
    toHex_notMem (by decide)⟩

lemma WitnessEcho.Fits.parse (h : e.Fits) : parseEchoPart e.part = some (some e) := by
  have hcolon : (58 : UInt8) ∉ decimalInt e.signerId := decimalInt_notMem (by decide) (by decide)
  have hcomma : (44 : UInt8) ∉ toHex e.pubKey := toHex_notMem (by decide)
  obtain ⟨hid, htail⟩ := @split_at_first _ (toHex e.pubKey ++ 44 :: toHex e.sig) _ hcolon
  obtain ⟨hkey, hsig⟩ := @split_at_first _ (toHex e.sig) _ hcomma
  rw [parseEchoPart, e.part_eq, if_neg (by simp), hid, htail]
  dsimp only
  rw [if_neg (by simp), hkey, hsig, stoi_decimalInt h.signerId, fromHex_toHex, fromHex_toHex]
  dsimp only
  rw [if_pos h.pubKey, if_pos h.sig]

lemma parseEchoParts_parts (h : ∀ e ∈ echoes, e.Fits) : parseEchoParts (echoes.map WitnessEcho.part) = some echoes := by
  have hparts : (echoes.map WitnessEcho.part).mapM parseEchoPart = some (echoes.map some) :=
    mapM_map_some fun e he => (h e he).parse
  rw [parseEchoParts, hparts, Option.map_some, List.filterMap_map]
  simp only [Function.comp_def, id_eq, List.filterMap_some]

lemma splitStr_parts {fields : List Bytes} (echoes : List WitnessEcho) (hne : fields ≠ [])
    (h : ∀ p ∈ fields, (124 : UInt8) ∉ p) :
    splitStr ([124].intercalate fields ++ echoes.flatMap fun e => ascii "|" ++ e.part) 124 =
      fields ++ echoes.map WitnessEcho.part := by
  have hbar : ascii "|" = [124] := by decide
  rw [hbar]
  exact splitStr_behind echoes WitnessEcho.part_notMem hne h

lemma stoi_range {s : Bytes} {i : ℤ} (h : stoi s = some i) : -2147483648 ≤ i ∧ i < 2147483648 := by
  rw [stoi, stoiBase] at h
  split at h
  next => cases h
  next v _ =>
    split at h
    next hrange => exact Option.some.inj h ▸ hrange
    next => cases h

lemma parseEchoPart_fits {part : Bytes} (h : parseEchoPart part = some (some e)) : e.Fits := by
  rw [parseEchoPart] at h
  split at h
  · cases h
  · dsimp only at h
    split at h
    · cases h
    · split at h
      next signer pub sig hsigner hpub hsig =>
        obtain rfl := Option.some.inj (Option.some.inj h)
        refine ⟨stoi_range hsigner, ?_, ?_⟩
        · dsimp only
          split
          next hlen => exact hlen
          next => decide
        · dsimp only
          split
          next hlen => exact hlen
          next => decide
      next => cases h

lemma parseEchoParts_fits {parts : List Bytes} (h : parseEchoParts parts = some echoes) : ∀ e ∈ echoes, e.Fits := by
  rw [parseEchoParts] at h
  obtain ⟨parsed, hparsed, rfl⟩ := Option.map_eq_some_iff.mp h
  intro e he
  obtain ⟨read, hread, hsome⟩ := List.mem_filterMap.mp he
  obtain rfl : read = some e := hsome
  obtain ⟨part, -, hpart⟩ := mapM_some_mem hparsed hread
  exact parseEchoPart_fits hpart

lemma getD_splitStr_notMem (s : Bytes) (sep : UInt8) (i : ℕ) : sep ∉ (splitStr s sep).getD i [] := by
  by_cases hi : i < (splitStr s sep).length
  · rw [List.getD_eq_getElem _ _ hi]
    exact not_mem_of_mem_splitStr (List.getElem_mem hi)
  · rw [List.getD_eq_default _ _ (by omega)]
    exact List.not_mem_nil

end V2vBft.App
