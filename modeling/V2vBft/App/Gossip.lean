import V2vBft.Wire.Bytes

namespace V2vBft.App

open Wire

def gossipSerialize (epoch : ℕ) (orderBytes : Bytes) : Bytes := putU32 epoch ++ orderBytes

def gossipParse (inner : Bytes) : Option (ℕ × Bytes) :=
  if inner.length < 4 then none
  else if inner.drop 4 = [] then none
  else some (readU32 inner 0, inner.drop 4)

-- the last vote of a sender for an epoch replaces its earlier ones
structure GossipAccumulator where
  entries : List ((ℕ × ℤ) × Bytes)
  deriving DecidableEq, Repr

def GossipAccumulator.empty : GossipAccumulator := ⟨[]⟩

def GossipAccumulator.record (acc : GossipAccumulator) (senderId : ℤ) (epoch : ℕ) (orderBytes : Bytes) :
    GossipAccumulator :=
  ⟨((epoch, senderId), orderBytes) :: acc.entries.filter fun vote => !decide (vote.1 = (epoch, senderId))⟩

def GossipAccumulator.count (acc : GossipAccumulator) (epoch : ℕ) (refOrder : Bytes) : ℕ :=
  acc.entries.countP fun vote => decide (vote.1.1 = epoch) && decide (vote.2 = refOrder)

def GossipAccumulator.add (acc : GossipAccumulator) (senderId : ℤ) (epoch : ℕ) (orderBytes : Bytes)
    (threshold : ℤ) : Bool × GossipAccumulator :=
  let acc := acc.record senderId epoch orderBytes
  (decide (threshold ≤ acc.count epoch orderBytes), acc)

lemma gossipParse_serialize {epoch : ℕ} {orderBytes : Bytes} (he : epoch < 4294967296) (hne : orderBytes ≠ []) :
    gossipParse (gossipSerialize epoch orderBytes) = some (epoch, orderBytes) := by
  have hread := readU32_put [] orderBytes epoch he
  have hdrop : (putU32 epoch ++ orderBytes).drop 4 = orderBytes := List.drop_left' (putU32_length epoch)
  unfold gossipParse gossipSerialize
  rw [hdrop, if_neg (by simp), if_neg hne]
  exact congrArg (fun v => some (v, orderBytes)) hread

end V2vBft.App
