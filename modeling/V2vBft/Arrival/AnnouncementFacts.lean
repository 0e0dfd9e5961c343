import V2vBft.Arrival.Announcement
import V2vBft.Wire.FieldCodec

namespace V2vBft.Arrival

open Wire App

variable {cfg : ArrivalConfig} {ann ann' : ArrivalAnnouncement}

lemma joinWith_inj {sep : UInt8} {parts parts' : List Bytes} (hne : parts ≠ []) (hne' : parts' ≠ [])
    (h : ∀ p ∈ parts, sep ∉ p) (h' : ∀ p ∈ parts', sep ∉ p) (heq : joinWith sep parts = joinWith sep parts') :
    parts = parts' := by
  rw [← List.splitOn_intercalate sep h hne, ← List.splitOn_intercalate sep h' hne']
  exact congrArg (fun bs : Bytes => bs.splitOn sep) heq

lemma dirToStr_injective : Function.Injective dirToStr := by
  intro d d' h
  cases d <;> cases d' <;> first | rfl | exact absurd h (by decide)

lemma flagText_injective : Function.Injective flagText := by
  intro b b' h
  cases b <;> cases b' <;> first | rfl | exact absurd h (by decide)

structure PlainText (ann : ArrivalAnnouncement) : Prop where
  carId : 124 ∉ ann.carId
  laneId : 124 ∉ ann.laneId
  lane : 124 ∉ ann.lane

lemma PlainText.canonical (h : PlainText ann) (hshow : ∀ t, 124 ∉ cfg.showDouble t) :
    ∀ p ∈ canonicalFields cfg ann, 124 ∉ p := by
  have hint : ∀ i : ℤ, (124 : UInt8) ∉ decimalInt i := fun i => decimalInt_notMem (by decide) (by decide)
  have hhex : ∀ bs : Bytes, (124 : UInt8) ∉ toHex bs := fun bs => toHex_notMem (Or.inr (by decide))
  have hdir : ∀ d : Direction, (124 : UInt8) ∉ dirToStr d := by
    intro d
    cases d <;> decide
  have hflag : ∀ b : Bool, (124 : UInt8) ∉ flagText b := by
    intro b
    cases b <;> decide
  simp only [canonicalFields, List.forall_mem_cons, List.not_mem_nil, false_imp_iff, implies_true, and_true]
  exact ⟨h.carId, hint _, h.laneId, h.lane, hint _, hint _, hint _, hdir _, hflag _, hshow _, hhex _, hhex _⟩

-- two announcements that differ at most in the bits of the time and in the signature
structure SameClaim (cfg : ArrivalConfig) (ann ann' : ArrivalAnnouncement) : Prop where
  fields : ann = { ann' with claimedArrivalTime := ann.claimedArrivalTime, signature := ann.signature }
  time : cfg.showDouble ann.claimedArrivalTime = cfg.showDouble ann'.claimedArrivalTime

theorem canonical_sameClaim (hshow : ∀ t, 124 ∉ cfg.showDouble t) (h : PlainText ann) (h' : PlainText ann')
    (heq : canonicalArrivalAnnouncementPayload cfg ann = canonicalArrivalAnnouncementPayload cfg ann') :
    SameClaim cfg ann ann' := by
  have hfields := joinWith_inj (by simp [canonicalFields]) (by simp [canonicalFields]) (h.canonical hshow)
    (h'.canonical hshow) heq
  simp only [canonicalFields, List.cons.injEq, and_true] at hfields
  obtain ⟨hcar, hepoch, hlaneId, hlane, hphysical, hlateral, hposition, hdir, hflag, htime, hcert, hsig⟩ := hfields
  refine ⟨?_, htime⟩
  cases ann
  cases ann'
  simp only at hcar hlaneId hlane hepoch hphysical hlateral hposition hdir hflag hcert hsig
  rw [hcar, hlaneId, hlane, decimalInt_injective hepoch, decimalInt_injective hphysical,
    decimalInt_injective hlateral, decimalInt_injective hposition, dirToStr_injective hdir, flagText_injective hflag,
    toHex_injective hcert, toHex_injective hsig]

lemma SameClaim.hash (h : SameClaim cfg ann ann') (hsig : ann.signature = ann'.signature) :
    arrivalAnnouncementHash cfg ann = arrivalAnnouncementHash cfg ann' := by
  have htext : ann.fields cfg = ann'.fields cfg := by
    rw [h.fields]
    simp only [ArrivalAnnouncement.fields, h.time, hsig]
  have hheader : ann.header cfg = ann'.header cfg := by rw [ArrivalAnnouncement.header, ArrivalAnnouncement.header, htext]
  rw [arrivalAnnouncementHash, arrivalAnnouncementHash, serializeArrivalAnnouncement, serializeArrivalAnnouncement,
    hheader, hsig]

lemma deserialize_plainText {payload : Bytes} (h : deserializeArrivalAnnouncement cfg payload = some ann) :
    PlainText ann := by
  have hpart : ∀ i, (124 : UInt8) ∉ (splitStr payload 124).getD i [] := by
    intro i
    by_cases hi : i < (splitStr payload 124).length
    · rw [List.getD_eq_getElem _ _ hi]
      exact not_mem_of_mem_splitStr (List.getElem_mem hi)
    · rw [List.getD_eq_default _ _ (by omega)]
      exact List.not_mem_nil
  rw [deserializeArrivalAnnouncement] at h
  dsimp only at h
  split at h
  next =>
    obtain rfl := Option.some.inj h
    exact ⟨List.not_mem_nil, List.not_mem_nil, List.not_mem_nil⟩
  next =>
    split at h
    next =>
      obtain ⟨signature, -, rfl⟩ := Option.map_eq_some_iff.mp h
      exact ⟨hpart 0, hpart 1, hpart 2⟩
    next => cases h

lemma authenticAnnouncement_verified {payload : Bytes} (h : authenticAnnouncement cfg payload = some ann) :
    PlainText ann ∧ verifyArrivalAnnouncementOrigin cfg ann = true := by
  rw [authenticAnnouncement] at h
  split at h
  next => cases h
  next a hread =>
    split at h
    next => cases h
    next hok =>
      obtain rfl := Option.some.inj h
      refine ⟨deserialize_plainText hread, ?_⟩
      push Not at hok
      simpa using hok.2.2.1

end V2vBft.Arrival
