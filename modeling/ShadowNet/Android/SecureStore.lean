import ShadowNet.Go.Bech32
import ShadowNet.Go.Unicode

/-! # The age identity

`SecureStore` makes an X25519 key and writes its secret as Bech32. It does so as BIP 173 has it, but
under the human-readable part `age-secret-key`, where age asks for `age-secret-key-`.
-/

namespace ShadowNet.Android

open Go

/-! ## Kotlin -/

/-- `shl`, which counts modulo 32. -/
def shl (value : BitVec 32) (count : ℕ) : BitVec 32 := value <<< (count % 32)

def ushr (value : BitVec 32) (count : ℕ) : BitVec 32 := value >>> (count % 32)

/-- `toInt() and 0xff`. -/
def unsigned (byte : UInt8) : BitVec 32 := BitVec.ofNat 32 byte.toNat

def toByte (value : BitVec 32) : UInt8 := UInt8.ofNat value.toNat

/-- `uppercase()` of an ASCII text. -/
def uppercase (text : String) : String := String.ofList (text.toList.map Char.toUpper)

/-! ## Bech32 -/

namespace Bech32

def charset : String := "qpzry9x8gf2tvdw0s3jn54khce6mua7l"

def gen : List (BitVec 32) := [0x3b6a57b2, 0x26508e6d, 0x1ea119fa, 0x3d4233dd, 0x2a1462b3]

def polymod (values : List UInt8) : BitVec 32 :=
  values.foldl (fun chk b =>
    let top := ushr chk 25
    let chk := shl (chk &&& 0x1ffffff#32) 5 ^^^ unsigned b
    (List.range 5).foldl (fun chk i =>
      if ushr top i &&& 1#32 ≠ 0#32 then chk ^^^ gen.getD i 0 else chk) chk) 1#32

def hrpExpand (hrp : String) : List UInt8 :=
  hrp.toList.map (fun c => toByte (ushr (BitVec.ofNat 32 c.toNat) 5)) ++ [0] ++
    hrp.toList.map fun c => toByte (BitVec.ofNat 32 c.toNat &&& 31#32)

def createChecksum (hrp : String) (data : List UInt8) : List UInt8 :=
  let values := hrpExpand hrp ++ data ++ List.replicate 6 0
  let polymod := polymod values ^^^ 1#32
  (List.range 6).map fun i => toByte (ushr polymod (5 * (5 - i)) &&& 31#32)

/-- A value that is no digit is out of the bounds of the alphabet. -/
def encode (hrp : String) (data : List UInt8) : Option String :=
  ((data ++ createChecksum hrp data).mapM fun b => charset.toList[b.toNat]?).map fun digits =>
    String.ofList (hrp.toList ++ '1' :: digits)

/-- Bits that come in and go out in groups. -/
structure Regrouping where
  acc : BitVec 32 := 0
  bits : ℕ := 0
  out : List UInt8 := []

/-- `while (bits >= toBits)`; no more than `bits` groups can go out. -/
def Regrouping.drain (toBits : ℕ) (maxv : BitVec 32) : ℕ → Regrouping → Regrouping
  | 0, g => g
  | fuel + 1, g =>
      if g.bits ≥ toBits then
        let bits := g.bits - toBits
        drain toBits maxv fuel
          { g with bits, out := g.out ++ [toByte (ushr g.acc bits &&& maxv)] }
      else g

def convertBits (data : List UInt8) (fromBits toBits : ℕ) (pad : Bool) : Option (List UInt8) := do
  let maxv := shl 1#32 toBits - 1#32
  let g ← data.foldlM (fun g value =>
    let v := unsigned value
    if ushr v fromBits ≠ 0#32 then none
    else
      let g := { g with acc := shl g.acc fromBits ||| v, bits := g.bits + fromBits }
      some (g.drain toBits maxv g.bits)) ({} : Regrouping)
  if pad then
    if g.bits > 0 then g.out ++ [toByte (shl g.acc (toBits - g.bits) &&& maxv)] else g.out
  else if g.bits ≥ fromBits then none
  else if shl g.acc (toBits - g.bits) &&& maxv ≠ 0#32 then none
  else g.out

end Bech32

/-- The identity that `generateAgeIdentity` builds from the secret of a key pair. -/
def generateAgeIdentity (priv : List UInt8) : Option String := do
  let secret ← Bech32.encode "age-secret-key" (← Bech32.convertBits priv 8 5 true)
  return uppercase secret

/-! ## Regrouping -/

theorem toByte_toNat {value : BitVec 32} (small : value.toNat < 256) :
    (toByte value).toNat = value.toNat := by
  rw [toByte, UInt8.toNat_ofNat', Nat.mod_eq_of_lt small]

theorem unsigned_toNat (byte : UInt8) : (unsigned byte).toNat = byte.toNat := by
  have small := byte.toNat_lt
  rw [unsigned, BitVec.toNat_ofNat, Nat.mod_eq_of_lt (by omega)]

/-- Some bits of a number from a given place on, which a word of 32 bits still has. -/
theorem window (value : ℕ) {bits width : ℕ} (fits : bits + width ≤ 32) :
    (ushr (BitVec.ofNat 32 value) bits &&& BitVec.ofNat 32 (2 ^ width - 1)).toNat =
      value / 2 ^ bits % 2 ^ width := by
  have small : 2 ^ width ≤ 2 ^ 32 := Nat.pow_le_pow_right (by decide) (by omega)
  have positive : 0 < 2 ^ width := Nat.pow_pos (by decide)
  by_cases whole : bits = 32
  · obtain rfl : width = 0 := by omega
    simp [Nat.mod_one]
  rw [ushr, Nat.mod_eq_of_lt (by omega), BitVec.toNat_and, BitVec.toNat_ushiftRight,
    BitVec.toNat_ofNat, BitVec.toNat_ofNat, Nat.mod_eq_of_lt (show 2 ^ width - 1 < 2 ^ 32 by omega),
    Nat.and_two_pow_sub_one_eq_mod, Nat.shiftRight_eq_div_pow]
  have parts : 2 ^ 32 = 2 ^ bits * 2 ^ (32 - bits) := by
    rw [← pow_add]
    congr 1
    omega
  rw [parts, Nat.mod_mul_right_div_self]
  exact Nat.mod_mod_of_dvd _ (Nat.pow_dvd_pow 2 (by omega))

/-- The groups that have gone out and the bits that are left write the number that has come in. -/
structure Bech32.Regrouping.Holds (fromBits toBits : ℕ) (g : Bech32.Regrouping) (size value : ℕ) :
    Prop where
  acc : g.acc = BitVec.ofNat 32 value
  small : ∀ digit ∈ g.out.map (·.toNat), digit < 2 ^ toBits
  length : g.out.length * toBits + g.bits = size * fromBits
  out : valueOf (2 ^ toBits) (g.out.map (·.toNat)) = value / 2 ^ g.bits

namespace Bech32

variable {fromBits toBits : ℕ} {g : Regrouping} {size value : ℕ}

def mask (width : ℕ) : BitVec 32 := BitVec.ofNat 32 (2 ^ width - 1)

/-- A group that is put out stands for the bits that are taken off. -/
theorem Regrouping.Holds.push (narrow : toBits ≤ 8) (holds : g.Holds fromBits toBits size value)
    {bits : ℕ} (some : g.bits = bits + toBits) (few : g.bits ≤ 32) :
    ({ g with bits, out := g.out ++ [toByte (ushr g.acc bits &&& mask toBits)] } : Regrouping).Holds
      fromBits toBits size value := by
  have byte : 2 ^ toBits ≤ 2 ^ 8 := Nat.pow_le_pow_right (by decide) narrow
  have below : value / 2 ^ bits % 2 ^ toBits < 2 ^ toBits := Nat.mod_lt _ (Nat.pow_pos (by decide))
  have digit : (toByte (ushr g.acc bits &&& mask toBits)).toNat = value / 2 ^ bits % 2 ^ toBits := by
    have same := window value (some ▸ few)
    rw [mask, holds.acc, toByte_toNat (by omega), same]
  refine ⟨holds.acc, ?_, ?_, ?_⟩
  · intro one member
    rw [List.map_append, List.mem_append] at member
    rcases member with known | last
    · exact holds.small one known
    · rw [List.map_singleton, List.mem_singleton] at last
      omega
  · have length := holds.length
    dsimp only
    rw [List.length_append, List.length_singleton, Nat.succ_mul]
    omega
  · have out := holds.out
    rw [some, pow_add, ← Nat.div_div_eq_div_mul] at out
    dsimp only
    rw [List.map_append, List.map_singleton, valueOf_concat, out, digit]
    exact Nat.div_add_mod' _ _

/-- The inner loop puts out what it can and keeps less than a group. -/
theorem Regrouping.Holds.drain (positive : 0 < toBits) (narrow : toBits ≤ 8) (fuel : ℕ)
    (holds : g.Holds fromBits toBits size value) (few : g.bits ≤ 32) (enough : g.bits ≤ fuel) :
    (g.drain toBits (mask toBits) fuel).Holds fromBits toBits size value ∧
      (g.drain toBits (mask toBits) fuel).bits < toBits := by
  induction fuel generalizing g with
  | zero => exact ⟨holds, by rw [Regrouping.drain]; omega⟩
  | succ fuel ih =>
    rw [Regrouping.drain]
    split_ifs with full
    · apply ih (holds.push narrow (by omega) few)
      · dsimp only
        omega
      · dsimp only
        omega
    · exact ⟨holds, by omega⟩

/-- A byte that is taken in adds its bits. -/
theorem Regrouping.Holds.take (narrow : fromBits ≤ 8) (holds : g.Holds fromBits toBits size value)
    {byte : UInt8} (small : byte.toNat < 2 ^ fromBits) :
    ({ g with acc := shl g.acc fromBits ||| unsigned byte, bits := g.bits + fromBits } : Regrouping).Holds
      fromBits toBits (size + 1) (value * 2 ^ fromBits + byte.toNat) := by
  refine ⟨?_, holds.small, ?_, ?_⟩
  · apply BitVec.eq_of_toNat_eq
    have parts : 2 ^ 32 = 2 ^ (32 - fromBits) * 2 ^ fromBits := by
      rw [← pow_add]
      congr 1
      omega
    have low : value * 2 ^ fromBits % 2 ^ 32 = 2 ^ fromBits * (value % 2 ^ (32 - fromBits)) := by
      conv_lhs => rw [parts, Nat.mul_mod_mul_right, Nat.mul_comm]
    have room : 2 ^ fromBits * (value % 2 ^ (32 - fromBits)) + byte.toNat < 2 ^ 32 := by
      have bound : value % 2 ^ (32 - fromBits) + 1 ≤ 2 ^ (32 - fromBits) :=
        Nat.mod_lt _ (Nat.pow_pos (by decide))
      calc 2 ^ fromBits * (value % 2 ^ (32 - fromBits)) + byte.toNat
          < 2 ^ fromBits * (value % 2 ^ (32 - fromBits)) + 2 ^ fromBits := by omega
        _ = 2 ^ fromBits * (value % 2 ^ (32 - fromBits) + 1) := (Nat.mul_succ _ _).symm
        _ ≤ 2 ^ fromBits * 2 ^ (32 - fromBits) := Nat.mul_le_mul_left _ bound
        _ = 2 ^ 32 := by rw [parts, Nat.mul_comm]
    dsimp only
    rw [shl, holds.acc, Nat.mod_eq_of_lt (show fromBits < 32 by omega), BitVec.toNat_or,
      BitVec.toNat_shiftLeft, unsigned_toNat, BitVec.toNat_ofNat, BitVec.toNat_ofNat,
      Nat.shiftLeft_eq, Nat.mod_mul_mod, low, ← Nat.two_pow_add_eq_or_of_lt small, ← Nat.mod_add_mod,
      low, Nat.mod_eq_of_lt room]
  · have length := holds.length
    dsimp only
    rw [Nat.succ_mul]
    omega
  · dsimp only
    rw [holds.out, Nat.add_comm g.bits, pow_add, ← Nat.div_div_eq_div_mul]
    congr 1
    rw [Nat.mul_comm, Nat.mul_add_div (Nat.pow_pos (by decide)), Nat.div_eq_of_lt small, Nat.add_zero]

/-- One turn of the loop over the data. -/
def Regrouping.turn (fromBits toBits : ℕ) (g : Regrouping) (value : UInt8) : Option Regrouping :=
  let v := unsigned value
  if ushr v fromBits ≠ 0#32 then none
  else
    let g := { g with acc := shl g.acc fromBits ||| v, bits := g.bits + fromBits }
    some (g.drain toBits (mask toBits) g.bits)

/-- All values have been taken in and regrouped. -/
theorem foldlM_holds (wide : fromBits ≤ 8) (positive : 0 < toBits) (narrow : toBits ≤ 8)
    {data : List UInt8} (legal : ∀ byte ∈ data, byte.toNat < 2 ^ fromBits)
    (holds : g.Holds fromBits toBits size value) (few : g.bits < toBits) :
    ∃ last : Regrouping, data.foldlM (Regrouping.turn fromBits toBits) g = some last ∧
      last.Holds fromBits toBits (size + data.length) ((data.map (·.toNat)).foldl
        (fun value digit => value * 2 ^ fromBits + digit) value) ∧ last.bits < toBits := by
  induction data generalizing g size value with
  | nil => exact ⟨g, rfl, holds, few⟩
  | cons byte rest ih =>
    obtain ⟨small, others⟩ := List.forall_mem_cons.mp legal
    have fits : ¬ ushr (unsigned byte) fromBits ≠ 0#32 := by
      rw [not_not]
      apply BitVec.eq_of_toNat_eq
      rw [ushr, BitVec.toNat_ushiftRight, unsigned_toNat, Nat.shiftRight_eq_div_pow,
        Nat.mod_eq_of_lt (by omega)]
      exact Nat.div_eq_of_lt small
    obtain ⟨drained, left⟩ := (holds.take wide small).drain positive narrow (g.bits + fromBits)
      (by dsimp only; omega) le_rfl
    obtain ⟨last, folds, ends, bits⟩ := ih others drained left
    refine ⟨last, ?_, ?_, bits⟩
    · rw [List.foldlM_cons, Regrouping.turn, if_neg fits]
      exact folds
    · rw [List.length_cons, Nat.add_comm rest.length, ← Nat.add_assoc]
      exact ends

theorem map_toNat_ofNat {digits : List ℕ} (small : ∀ digit ∈ digits, digit < 32) :
    (digits.map UInt8.ofNat).map (·.toNat) = digits := by
  rw [List.map_map]
  refine (List.map_congr_left fun digit member => ?_).trans (List.map_id _)
  exact UInt8.toNat_ofNat_of_lt' ((small digit member).trans (by decide))

theorem map_ofNat_toNat (bytes : List UInt8) : (bytes.map (·.toNat)).map UInt8.ofNat = bytes := by
  simp [Function.comp_def]

/-- The conversion by its turns and its end. -/
theorem convertBits_of_turns {data : List UInt8} {pad : Bool} {last : Regrouping}
    (masks : shl 1#32 toBits - 1#32 = mask toBits)
    (folds : data.foldlM (Regrouping.turn fromBits toBits) {} = some last) :
    convertBits data fromBits toBits pad =
      if pad then
        if last.bits > 0 then some (last.out ++ [toByte (shl last.acc (toBits - last.bits) &&& mask toBits)])
        else some last.out
      else if last.bits ≥ fromBits then none
      else if shl last.acc (toBits - last.bits) &&& mask toBits ≠ 0#32 then none
      else some last.out := by
  rw [convertBits]
  simp only [masks]
  change (data.foldlM (Regrouping.turn fromBits toBits) {} >>= _) = _
  rw [folds]
  rfl

/-- What fills up the bits that are left. -/
theorem fill {last : Regrouping} (holds : last.Holds fromBits toBits size value) (left : last.bits < toBits)
    (narrow : toBits ≤ 8) : (shl last.acc (toBits - last.bits) &&& mask toBits).toNat =
      value * 2 ^ (toBits - last.bits) % 2 ^ toBits := by
  have byte : 2 ^ toBits ≤ 2 ^ 8 := Nat.pow_le_pow_right (by decide) narrow
  have positive : 0 < 2 ^ toBits := Nat.pow_pos (by decide)
  rw [shl, Nat.mod_eq_of_lt (by omega), mask, BitVec.toNat_and, BitVec.toNat_shiftLeft, holds.acc,
    BitVec.toNat_ofNat, BitVec.toNat_ofNat, Nat.mod_eq_of_lt (show 2 ^ toBits - 1 < 2 ^ 32 by omega),
    Nat.and_two_pow_sub_one_eq_mod, Nat.shiftLeft_eq, Nat.mod_mul_mod]
  exact Nat.mod_mod_of_dvd _ (Nat.pow_dvd_pow 2 (by omega))

/-- The conversion to groups of five bits is the one of the library. -/
theorem convertBits_eq (data : List UInt8) :
    convertBits data 8 5 true = some ((Go.Bech32.toQuintets data).map UInt8.ofNat) := by
  have start : ({} : Regrouping).Holds 8 5 0 0 := ⟨rfl, by simp, rfl, rfl⟩
  obtain ⟨last, folds, holds, left⟩ := foldlM_holds le_rfl (by decide) (by decide)
    (fun byte _ => byte.toNat_lt) start (by decide)
  obtain ⟨value, writes⟩ : ∃ value, value = valueOf 256 (data.map (·.toNat)) := ⟨_, rfl⟩
  change last.Holds 8 5 (0 + data.length) (valueOf 256 (data.map (·.toNat))) at holds
  rw [Nat.zero_add, ← writes] at holds
  have length := holds.length
  rw [convertBits_of_turns rfl folds, if_pos rfl, Go.Bech32.toQuintets, ← writes]
  have known := eq_digitsOf holds.small holds.out
  rw [List.length_map] at known
  by_cases more : last.bits > 0
  · have filled := fill holds left (by decide)
    have digit : (toByte (shl last.acc (5 - last.bits) &&& mask 5)).toNat =
        value * 2 ^ (5 - last.bits) % 32 := by
      rw [toByte_toNat (by omega), filled]
      rfl
    rw [if_pos more]
    have count : (8 * data.length + 4) / 5 = last.out.length + 1 := by omega
    have spare : 5 * (last.out.length + 1) - 8 * data.length = 5 - last.bits := by omega
    simp only [count, spare]
    rw [digitsOf, List.map_append]
    have front : value * 2 ^ (5 - last.bits) / 32 = value / 2 ^ last.bits := by
      rw [show 32 = 2 ^ last.bits * 2 ^ (5 - last.bits) by
        rw [← pow_add, Nat.add_sub_cancel' left.le]
        rfl]
      exact Nat.mul_div_mul_right _ _ (Nat.pow_pos (by decide))
    change last.out.map (·.toNat) = digitsOf 32 _ _ at known
    rw [front, ← known, map_ofNat_toNat, ← digit]
    simp
  · have none : last.bits = 0 := by omega
    rw [none, pow_zero, Nat.div_one] at known
    change last.out.map (·.toNat) = digitsOf 32 _ _ at known
    have count : (8 * data.length + 4) / 5 = last.out.length := by omega
    have spare : 5 * last.out.length - 8 * data.length = 0 := by omega
    simp only [count, spare]
    rw [if_neg more, pow_zero, Nat.mul_one, ← known, map_ofNat_toNat]

/-- Digits of five bits go back into bytes as they are read. -/
theorem convertBits_back {digits : List ℕ} (small : ∀ digit ∈ digits, digit < 32) :
    convertBits (digits.map UInt8.ofNat) 5 8 false = Go.Bech32.ofQuintets digits := by
  have start : ({} : Regrouping).Holds 5 8 0 0 := ⟨rfl, by simp, rfl, rfl⟩
  have back := map_toNat_ofNat small
  have legal : ∀ byte ∈ digits.map UInt8.ofNat, byte.toNat < 2 ^ 5 := by
    intro byte member
    apply small byte.toNat
    rw [← back]
    exact List.mem_map_of_mem member
  obtain ⟨last, folds, holds, left⟩ := foldlM_holds (by decide) (by decide) le_rfl legal start (by decide)
  obtain ⟨value, writes⟩ : ∃ value, value = valueOf 32 digits := ⟨_, rfl⟩
  rw [back, Nat.zero_add, List.length_map] at holds
  change last.Holds 5 8 digits.length (valueOf 32 digits) at holds
  rw [← writes] at holds
  have length := holds.length
  have filled := fill holds left le_rfl
  have spare : 5 * digits.length % 8 = last.bits := by omega
  have count : 5 * digits.length / 8 = last.out.length := by omega
  have known := eq_digitsOf holds.small holds.out
  rw [List.length_map] at known
  change last.out.map (·.toNat) = digitsOf 256 _ _ at known
  have zero : shl last.acc (8 - last.bits) &&& mask 8 ≠ 0#32 ↔ value % 2 ^ last.bits ≠ 0 := by
    have parts : 2 ^ 8 = 2 ^ last.bits * 2 ^ (8 - last.bits) := by
      rw [← pow_add, Nat.add_sub_cancel' left.le]
    rw [Ne, ← BitVec.toNat_inj, filled, parts, Nat.mul_mod_mul_right]
    simp
  rw [convertBits_of_turns rfl folds, if_neg (by decide), Go.Bech32.ofQuintets]
  simp only [spare, count, ← writes, ← known, map_ofNat_toNat, ge_iff_le]
  by_cases few : last.bits < 5
  · rw [if_neg (by omega)]
    by_cases padded : value % 2 ^ last.bits = 0
    · rw [if_neg (by rw [zero, not_not]; exact padded), if_pos ⟨few, padded⟩]
    · rw [if_pos (zero.mpr padded), if_neg fun both => padded both.2]
  · rw [if_pos (by omega), if_neg fun both => few both.1]

/-! ## The checksum -/

/-- A bit of the top five. -/
theorem ushr_bit (chk : BitVec 32) {i : ℕ} (small : i < 5) :
    ushr (ushr chk 25) i &&& 1#32 ≠ 0#32 ↔ chk.getLsbD (25 + i) = true := by
  rw [ushr, ushr, Nat.mod_eq_of_lt (show i < 32 by omega), BitVec.and_one_eq_setWidth_ofBool_getLsbD,
    BitVec.getLsbD_ushiftRight, BitVec.getLsbD_ushiftRight]
  cases chk.getLsbD (25 % 32 + i) <;> simp

/-- The checksum polynomial is the one of the library. -/
theorem polymod_eq (values : List UInt8) :
    polymod values = Go.Bech32.polymod (values.map (·.toNat)) := by
  rw [polymod, Go.Bech32.polymod, Go.Bech32.polymodFrom, List.foldl_map]
  congr 1
  funext chk b
  have feeds (chk acc : BitVec 32) {i : ℕ} (small : i < 5) :
      (if ushr (ushr chk 25) i &&& 1#32 ≠ 0#32 then acc ^^^ gen.getD i 0 else acc) =
        acc ^^^ Go.Bech32.feedback chk i (gen.getD i 0) := by
    rw [Go.Bech32.feedback]
    by_cases set : chk.getLsbD (25 + i) = true
    · rw [if_pos ((ushr_bit chk small).mpr set), if_pos set]
    · rw [if_neg (mt (ushr_bit chk small).mp set), if_neg set, BitVec.xor_zero]
  simp only [List.range, List.range.loop, List.foldl_cons, List.foldl_nil]
  rw [feeds _ _ (by decide), feeds _ _ (by decide), feeds _ _ (by decide), feeds _ _ (by decide),
    feeds _ _ (by decide)]
  rfl

/-- So are the six values of the checksum. -/
theorem createChecksum_eq (hrp : String) (data : List UInt8) {name : GoString}
    (expands : (hrpExpand hrp).map (·.toNat) = Go.Bech32.hrpExpand name) :
    createChecksum hrp data = (Go.Bech32.checksum name (data.map (·.toNat))).map UInt8.ofNat := by
  have each (p : BitVec 32) {place : ℕ} (fits : place + 5 ≤ 32) :
      toByte (ushr p place &&& 31#32) = UInt8.ofNat (p.toNat / 2 ^ place % 32) := by
    have same := window p.toNat fits
    rw [BitVec.ofNat_toNat, BitVec.setWidth_eq] at same
    exact congrArg UInt8.ofNat same
  have zeros : (List.replicate 6 (0 : UInt8)).map (·.toNat) = List.replicate 6 0 := by decide
  rw [createChecksum, Go.Bech32.checksum, polymod_eq, List.map_append, List.map_append, expands, zeros]
  simp only [List.range, List.range.loop, List.map_cons, List.map_nil]
  rw [each _ (by decide), each _ (by decide), each _ (by decide), each _ (by decide),
    each _ (by decide), each _ (by decide)]
  simp [digitsOf, Nat.div_div_eq_div_mul]

/-- Below 128 a character is one byte, whose halves are both less than a digit. -/
theorem hrpExpand_eq {hrp : String} (ascii : ∀ c ∈ hrp.toList, c.toNat < 128) :
    (hrpExpand hrp).map (·.toNat) = Go.Bech32.hrpExpand (lit hrp) := by
  have bytes : lit hrp = hrp.toList.map fun c => UInt8.ofNat c.toNat := by
    rw [← String.ofList_toList (s := hrp), lit_ofList, String.toList_ofList, List.map_eq_flatMap]
    exact List.flatMap_congr fun c member => encodeRune_ascii (ascii c member)
  have halves : ∀ c ∈ hrp.toList,
      (toByte (ushr (BitVec.ofNat 32 c.toNat) 5)).toNat = (UInt8.ofNat c.toNat).toNat / 32 ∧
        (toByte (BitVec.ofNat 32 c.toNat &&& 31#32)).toNat = (UInt8.ofNat c.toNat).toNat % 32 := by
    intro c member
    have seven := ascii c member
    have whole : (BitVec.ofNat 32 c.toNat).toNat = c.toNat := by
      rw [BitVec.toNat_ofNat, Nat.mod_eq_of_lt (by omega)]
    have high : (ushr (BitVec.ofNat 32 c.toNat) 5).toNat = c.toNat / 32 := by
      rw [ushr, BitVec.toNat_ushiftRight, whole, Nat.shiftRight_eq_div_pow]
    have low : (BitVec.ofNat 32 c.toNat &&& 31#32).toNat = c.toNat % 32 := by
      rw [BitVec.toNat_and, whole]
      exact Nat.and_two_pow_sub_one_eq_mod _ 5
    rw [toByte_toNat (by omega), toByte_toNat (by omega), high, low,
      UInt8.toNat_ofNat_of_lt' (show c.toNat < 256 by omega)]
    exact ⟨rfl, rfl⟩
  rw [hrpExpand, Go.Bech32.hrpExpand, bytes]
  simp only [List.map_append, List.map_map]
  exact congrArg₂ (· ++ ·)
    (congrArg (· ++ [0]) (List.map_congr_left fun c member => (halves c member).1))
    (List.map_congr_left fun c member => (halves c member).2)

/-- With its checksum a text passes the check. -/
theorem polymod_createChecksum {hrp : String} (ascii : ∀ c ∈ hrp.toList, c.toNat < 128)
    {data : List UInt8} (small : ∀ b ∈ data, b.toNat < 32) :
    polymod (hrpExpand hrp ++ data ++ createChecksum hrp data) = 1#32 := by
  have digits : ∀ digit ∈ data.map (·.toNat), digit < 32 := by
    intro digit member
    obtain ⟨b, inside, rfl⟩ := List.mem_map.mp member
    exact small b inside
  have checks : (createChecksum hrp data).map (·.toNat) =
      Go.Bech32.checksum (lit hrp) (data.map (·.toNat)) := by
    rw [createChecksum_eq hrp data (hrpExpand_eq ascii)]
    exact map_toNat_ofNat (digitsOf_lt (by decide) 6 _)
  rw [polymod_eq, List.map_append, List.map_append, hrpExpand_eq ascii, checks]
  exact Go.Bech32.polymod_checksum digits

/-- The checksum makes the whole come out as one, and what is regrouped goes back into the bytes. -/
theorem checksum_and_regrouping :
    (∀ (hrp : String) (data : List UInt8), (∀ c ∈ hrp.toList, 32 ≤ c.toNat ∧ c.toNat ≤ 126) →
        (∀ b ∈ data, b.toNat < 32) →
        polymod (hrpExpand hrp ++ data ++ createChecksum hrp data) = 1#32) ∧
      ∀ data : List UInt8,
        ((convertBits data 8 5 true).bind fun quintets => convertBits quintets 5 8 false) = some data := by
  constructor
  · intro hrp data printable small
    exact polymod_createChecksum (fun c member => by have := (printable c member).2; omega) small
  · intro data
    rw [convertBits_eq, Option.bind_some, convertBits_back (Go.Bech32.toQuintets_lt data),
      Go.Bech32.ofQuintets_toQuintets]

/-- The prefix `age` and three values. -/
theorem checksum_and_regrouping_age :
    polymod (hrpExpand "age" ++ [0, 31, 7] ++ createChecksum "age" [0, 31, 7]) = 1#32 :=
  checksum_and_regrouping.1 "age" [0, 31, 7] (forall_mem_of_all (by decide)) (forall_mem_of_all (by decide))

/-! ## Texts -/

theorem charset_toList : charset.toList = ['q', 'p', 'z', 'r', 'y', '9', 'x', '8', 'g', 'f', '2', 't',
    'v', 'd', 'w', '0', 's', '3', 'j', 'n', '5', '4', 'k', 'h', 'c', 'e', '6', 'm', 'u', 'a', '7',
    'l'] := by
  decide

/-- The character of a digit, which has a byte of its own in either case. -/
theorem digit_facts : ∀ value < 32, ∃ c, charset.toList[(UInt8.ofNat value).toNat]? = some c ∧
    String.utf8EncodeChar c.toUpper = [Go.Bech32.upper (Go.Bech32.digit value)] := by
  have all : ∀ value < 32, (charset.toList[(UInt8.ofNat value).toNat]?).map
      (fun c => String.utf8EncodeChar c.toUpper) =
        some [Go.Bech32.upper (Go.Bech32.digit value)] := by
    simp only [charset_toList, Go.Bech32.digit, Go.Bech32.charset_eq]
    decide
  exact fun value small => Option.map_eq_some_iff.mp (all value small)

/-- The characters of digits, in capitals. -/
theorem mapM_charset {digits : List ℕ} (small : ∀ digit ∈ digits, digit < 32) :
    ∃ chars, (digits.map UInt8.ofNat).mapM (fun b => charset.toList[b.toNat]?) = some chars ∧
      (chars.map Char.toUpper).flatMap String.utf8EncodeChar =
        (digits.map Go.Bech32.digit).map Go.Bech32.upper := by
  induction digits with
  | nil => exact ⟨[], rfl, rfl⟩
  | cons digit rest ih =>
    obtain ⟨c, found, byte⟩ := digit_facts digit (small digit (List.mem_cons_self ..))
    obtain ⟨chars, others, bytes⟩ := ih fun other member => small other (List.mem_cons_of_mem _ member)
    refine ⟨c :: chars, ?_, ?_⟩
    · rw [List.map_cons, List.mapM_cons, found, others]
      rfl
    · rw [List.map_cons, List.flatMap_cons, byte, bytes]
      rfl

end Bech32

/-- The identity is Bech32, in capitals, under a human-readable part without a final hyphen. -/
theorem generateAgeIdentity_eq (priv : List UInt8) :
    ∃ text, generateAgeIdentity priv = some text ∧
      lit text = (Go.Bech32.encode (lit "age-secret-key") priv).map Go.Bech32.upper := by
  have expands : (Bech32.hrpExpand "age-secret-key").map (·.toNat) =
      Go.Bech32.hrpExpand (lit "age-secret-key") := by decide
  have back : ((Go.Bech32.toQuintets priv).map UInt8.ofNat).map (·.toNat) =
      Go.Bech32.toQuintets priv := Bech32.map_toNat_ofNat (Go.Bech32.toQuintets_lt priv)
  have small : ∀ digit ∈ Go.Bech32.toQuintets priv ++
      Go.Bech32.checksum (lit "age-secret-key") (Go.Bech32.toQuintets priv), digit < 32 := by
    intro digit member
    rcases List.mem_append.mp member with own | check
    · exact Go.Bech32.toQuintets_lt priv digit own
    · exact digitsOf_lt (by decide) 6 _ digit check
  obtain ⟨chars, found, bytes⟩ := Bech32.mapM_charset small
  have encoded : Bech32.encode "age-secret-key" ((Go.Bech32.toQuintets priv).map UInt8.ofNat) =
      some (String.ofList ("age-secret-key".toList ++ '1' :: chars)) := by
    rw [Bech32.encode, Bech32.createChecksum_eq _ _ expands, back, ← List.map_append, found]
    rfl
  refine ⟨uppercase (String.ofList ("age-secret-key".toList ++ '1' :: chars)), ?_, ?_⟩
  · rw [generateAgeIdentity, Bech32.convertBits_eq]
    simp only [Option.bind_eq_bind, Option.bind_some, encoded]
    rfl
  · have front : (("age-secret-key".toList).map Char.toUpper).flatMap String.utf8EncodeChar =
        (lit "age-secret-key").map Go.Bech32.upper := by decide
    rw [uppercase, String.toList_ofList, lit_ofList, List.map_append, List.flatMap_append, front,
      List.map_cons, List.flatMap_cons, bytes, Go.Bech32.encode]
    simp only [List.map_append, List.map_cons]
    rfl

/-! ## What age makes of it -/

/-- `age.ParseX25519Identity`: an identity is a secret of 32 bytes under the human-readable part
`AGE-SECRET-KEY-`, in either case. -/
def ParsesIdentities (parse : GoString → Option Bytes) : Prop :=
  ∀ text secret, text.length ≤ 90 → (parse text = some secret ↔
    Go.Bech32.decode text = some (lit "age-secret-key-", secret) ∧ secret.length = 32)

/-- What the bridge does with the identity gets the secret back. -/
def Interoperates (parse : GoString → Option Bytes) (priv : List UInt8) : Prop :=
  ∃ text, generateAgeIdentity priv = some text ∧ parse (trimSpace (lit text)) = some priv

theorem readable_hrp : Go.Bech32.Readable (lit "age-secret-key") :=
  ⟨by decide, forall_mem_of_all (by decide)⟩

/-- Trimming does nothing to the identity, which is the secret's Bech32. -/
theorem generateAgeIdentity_decodes {priv : List UInt8} {text : String}
    (made : generateAgeIdentity priv = some text) :
    trimSpace (lit text) = lit text ∧
      Go.Bech32.decode (lit text) = some (lit "age-secret-key", priv) := by
  obtain ⟨_, same, bytes⟩ := generateAgeIdentity_eq priv
  cases made.symm.trans same
  rw [bytes]
  refine ⟨trimSpace_visible fun byte member => ?_, Go.Bech32.decode_map_upper readable_hrp priv⟩
  obtain ⟨small, inside, rfl⟩ := List.mem_map.mp member
  have visible := Go.Bech32.upper_visible ((Go.Bech32.encode_readable readable_hrp priv).2 small inside).1
  rw [isVisible, Bool.and_eq_true, decide_eq_true_eq, decide_eq_true_eq]
  omega

/-- An identity has 73 characters. -/
theorem generateAgeIdentity_length {priv : List UInt8} {text : String}
    (made : generateAgeIdentity priv = some text) (size : priv.length = 32) :
    (lit text).length = 73 := by
  obtain ⟨_, same, bytes⟩ := generateAgeIdentity_eq priv
  cases made.symm.trans same
  have hrp : (lit "age-secret-key").length = 14 := by decide
  rw [bytes, List.length_map, Go.Bech32.encode, List.length_append, List.length_cons, List.length_map,
    List.length_append, Go.Bech32.toQuintets, Go.Bech32.checksum, length_digitsOf, length_digitsOf, size,
    hrp]

/-- No parser of identities reads one, since its prefix is not that of age. -/
theorem parse_eq_none {parse : GoString → Option Bytes} (age : ParsesIdentities parse)
    {priv : List UInt8} (size : priv.length = 32) {text : String}
    (made : generateAgeIdentity priv = some text) : parse (trimSpace (lit text)) = none := by
  obtain ⟨trimmed, decodes⟩ := generateAgeIdentity_decodes made
  have short := generateAgeIdentity_length made size
  rw [trimmed]
  cases parsed : parse (lit text) with
  | none => rfl
  | some secret =>
    obtain ⟨named, -⟩ := (age (lit text) secret (by omega)).mp parsed
    rw [decodes] at named
    have same : lit "age-secret-key" = lit "age-secret-key-" := congrArg Prod.fst (Option.some.inj named)
    exact absurd same (by decide)

/-- The identity of every secret is made, and the bridge rejects it. -/
theorem generateAgeIdentity_rejected (parse : GoString → Option Bytes) (age : ParsesIdentities parse)
    (priv : List UInt8) (size : priv.length = 32) :
    (∃ text, generateAgeIdentity priv = some text ∧ parse (trimSpace (lit text)) = none) ∧
      ¬ Interoperates parse priv := by
  obtain ⟨text, made, -⟩ := generateAgeIdentity_eq priv
  refine ⟨⟨text, made, parse_eq_none age size made⟩, ?_⟩
  rintro ⟨other, again, parsed⟩
  rw [parse_eq_none age size again] at parsed
  cases parsed

/-- The parser that the specification describes. -/
def parseX25519Identity (text : GoString) : Option Bytes :=
  (Go.Bech32.decode text).bind fun parts =>
    if parts.1 = lit "age-secret-key-" ∧ parts.2.length = 32 then some parts.2 else none

theorem parseX25519Identity_parses : ParsesIdentities parseX25519Identity := by
  intro text secret _
  rw [parseX25519Identity, Option.bind_eq_some_iff]
  constructor
  · rintro ⟨⟨hrp, data⟩, decodes, kept⟩
    split_ifs at kept with fits
    obtain ⟨rfl, size⟩ := fits
    cases kept
    exact ⟨decodes, size⟩
  · rintro ⟨decodes, size⟩
    exact ⟨_, decodes, if_pos ⟨rfl, size⟩⟩

/-- The identity of the secret of zeroes is generated and not read. -/
theorem zeroIdentity_rejected :
    ParsesIdentities parseX25519Identity ∧ (List.replicate 32 (0 : UInt8)).length = 32 ∧
      ((∃ text, generateAgeIdentity (List.replicate 32 0) = some text ∧
        parseX25519Identity (trimSpace (lit text)) = none) ∧
          ¬ Interoperates parseX25519Identity (List.replicate 32 0)) :=
  ⟨parseX25519Identity_parses, List.length_replicate,
    generateAgeIdentity_rejected _ parseX25519Identity_parses _ List.length_replicate⟩

/-- So not every secret comes back. -/
theorem zeroIdentity_lost :
    ¬ ∀ parse, ParsesIdentities parse → ∀ priv : List UInt8, priv.length = 32 →
      Interoperates parse priv := by
  intro all
  obtain ⟨text, made, parsed⟩ := all _ parseX25519Identity_parses (List.replicate 32 0)
    List.length_replicate
  rw [parse_eq_none parseX25519Identity_parses List.length_replicate made] at parsed
  cases parsed

end ShadowNet.Android
