import V2vBft.Wire.Bytes

namespace V2vBft.Wire

def splitStr (s : Bytes) (delim : UInt8) : List Bytes := s.splitOn delim

def isSpace (c : UInt8) : Bool := decide (9 ≤ c ∧ c ≤ 13) || decide (c = 32)

def digitValue (base : ℕ) (c : UInt8) : Option ℕ :=
  let v :=
    if 48 ≤ c ∧ c ≤ 57 then c.toNat - 48
    else if 97 ≤ c ∧ c ≤ 122 then c.toNat - 87
    else if 65 ≤ c ∧ c ≤ 90 then c.toNat - 55
    else base
  if v < base then some v else none

def digitsPrefix (base : ℕ) : Bytes → List ℕ
  | [] => []
  | c :: cs =>
    match digitValue base c with
    | some v => v :: digitsPrefix base cs
    | none => []

-- strtol / strtoul: leading spaces, one sign, then digits; none: nothing to convert
def strtol (base : ℕ) (s : Bytes) : Option ℤ :=
  let body := s.dropWhile isSpace
  let negative := decide (body.head? = some 45)
  let unsigned := if negative ∨ body.head? = some 43 then body.drop 1 else body
  match digitsPrefix base unsigned with
  | [] => none
  | ds =>
    let magnitude : ℤ := Nat.ofDigits base ds.reverse
    some (if negative then -magnitude else magnitude)

-- none: invalid_argument or out_of_range is thrown
def stoul (s : Bytes) : Option ℕ :=
  match strtol 10 s with
  | none => none
  | some v => if v.natAbs < 18446744073709551616 then some (v % 18446744073709551616).toNat else none

def stoiBase (base : ℕ) (s : Bytes) : Option ℤ :=
  match strtol base s with
  | none => none
  | some v => if -2147483648 ≤ v ∧ v < 2147483648 then some v else none

def stoi (s : Bytes) : Option ℤ := stoiBase 10 s

def toUint32 (n : ℕ) : ℕ := n % uint32Modulus

def hexDigit (v : ℕ) : UInt8 := UInt8.ofNat (if v < 10 then 48 + v else 87 + v)

def toHex (bs : Bytes) : Bytes := bs.flatMap fun b => [hexDigit (b.toNat / 16), hexDigit (b.toNat % 16)]

def fromHex : Bytes → Option Bytes
  | a :: b :: rest =>
    match stoiBase 16 [a, b], fromHex rest with
    | some v, some out => some (UInt8.ofNat (v % 256).toNat :: out)
    | _, _ => none
  | _ => some []

def decimalNat (n : ℕ) : Bytes := (Nat.toDigits 10 n).map fun c => UInt8.ofNat c.toNat

def decimalInt (i : ℤ) : Bytes := if i < 0 then 45 :: decimalNat i.natAbs else decimalNat i.natAbs

end V2vBft.Wire
