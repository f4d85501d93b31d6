import ShadowNet.Go.Bytes
import ShadowNet.Go.Digits

/-! # Bech32

Bytes as digits of five bits behind a human-readable part, with six digits of checksum, as BIP 173
has it, but of any length. The checksum is linear over xor, so that the digits that make it come out
as one are read off the checksum of the rest.
-/

namespace ShadowNet.Go.Bech32

def charset : GoString := lit "qpzry9x8gf2tvdw0s3jn54khce6mua7l"

def digit (value : ℕ) : UInt8 := charset.getD value 0

def value? (byte : UInt8) : Option ℕ :=
  if charset.idxOf byte < 32 then some (charset.idxOf byte) else none

/-! ## The checksum -/

/-- What a generator adds, if its bit is set in the checksum so far. -/
def feedback (chk : BitVec 32) (i : ℕ) (generator : BitVec 32) : BitVec 32 :=
  if chk.getLsbD (25 + i) then generator else 0#32

def polymodStep (chk value : BitVec 32) : BitVec 32 :=
  (chk &&& 0x1ffffff#32) <<< 5 ^^^ value ^^^ feedback chk 0 0x3b6a57b2#32 ^^^
    feedback chk 1 0x26508e6d#32 ^^^ feedback chk 2 0x1ea119fa#32 ^^^
    feedback chk 3 0x3d4233dd#32 ^^^ feedback chk 4 0x2a1462b3#32

def polymodFrom (chk : BitVec 32) (values : List ℕ) : BitVec 32 :=
  values.foldl (fun chk value => polymodStep chk (BitVec.ofNat 32 value)) chk

def polymod (values : List ℕ) : BitVec 32 := polymodFrom 1#32 values

def hrpExpand (hrp : GoString) : List ℕ :=
  hrp.map (·.toNat / 32) ++ [0] ++ hrp.map (·.toNat % 32)

def checksum (hrp : GoString) (digits : List ℕ) : List ℕ :=
  digitsOf 32 6 (polymod (hrpExpand hrp ++ digits ++ List.replicate 6 0) ^^^ 1#32).toNat

/-! ## Digits of five bits -/

/-- The last digit is filled up with zeros. -/
def toQuintets (data : Bytes) : List ℕ :=
  let count := (8 * data.length + 4) / 5
  digitsOf 32 count (valueOf 256 (data.map (·.toNat)) * 2 ^ (5 * count - 8 * data.length))

/-- What fills up the last digit must be less than a digit, and zero. -/
def ofQuintets (digits : List ℕ) : Option Bytes :=
  let spare := 5 * digits.length % 8
  if spare < 5 ∧ valueOf 32 digits % 2 ^ spare = 0 then
    some ((digitsOf 256 (5 * digits.length / 8) (valueOf 32 digits / 2 ^ spare)).map UInt8.ofNat)
  else none

/-! ## Texts -/

def isUpper (byte : UInt8) : Bool := 65 ≤ byte.toNat && byte.toNat ≤ 90
def isLower (byte : UInt8) : Bool := 97 ≤ byte.toNat && byte.toNat ≤ 122
def lower (byte : UInt8) : UInt8 := if isUpper byte then byte + 32 else byte
def upper (byte : UInt8) : UInt8 := if isLower byte then byte - 32 else byte

def encode (hrp : GoString) (data : Bytes) : GoString :=
  hrp ++ 49 :: (toQuintets data ++ checksum hrp (toQuintets data)).map digit

/-- What stands before the last separator, and behind it. -/
def split (text : GoString) : Option (GoString × GoString) :=
  (cut 49 text.reverse).map fun parts => (parts.2.reverse, parts.1.reverse)

/-- The human-readable part, in lower case, and the bytes. -/
def decode (text : GoString) : Option (GoString × Bytes) :=
  if text.any isUpper && text.any isLower || !text.all fun byte => 33 ≤ byte.toNat && byte.toNat ≤ 126 then
    none
  else do
    let (hrp, rest) ← split (text.map lower)
    let digits ← rest.mapM value?
    if hrp = [] ∨ digits.length < 6 ∨ polymod (hrpExpand hrp ++ digits) ≠ 1#32 then none
    else
      let data ← ofQuintets (digits.take (digits.length - 6))
      some (hrp, data)

/-! ## The checksum is linear -/

/-- The feedback is linear. -/
theorem feedback_xor (a b : BitVec 32) (i : ℕ) (generator : BitVec 32) :
    feedback (a ^^^ b) i generator = feedback a i generator ^^^ feedback b i generator := by
  rw [feedback, feedback, feedback, BitVec.getLsbD_xor]
  cases a.getLsbD (25 + i) <;> cases b.getLsbD (25 + i) <;> simp

/-- So is a step of the checksum. -/
theorem polymodStep_xor (a b v w : BitVec 32) :
    polymodStep (a ^^^ b) (v ^^^ w) = polymodStep a v ^^^ polymodStep b w := by
  have shifted : ((a ^^^ b) &&& 0x1ffffff#32) <<< 5 =
      (a &&& 0x1ffffff#32) <<< 5 ^^^ (b &&& 0x1ffffff#32) <<< 5 := by
    rw [← BitVec.shiftLeft_xor_distrib]
    congr 1
    ext i bound
    simp only [BitVec.getElem_and, BitVec.getElem_xor, Bool.and_xor_distrib_right]
  simp only [polymodStep, feedback_xor, shifted]
  ac_rfl

theorem two_pow_mul_xor {a b i : ℕ} (small : b < 2 ^ i) : 2 ^ i * a ^^^ b = 2 ^ i * a + b := by
  apply Nat.eq_of_testBit_eq
  intro j
  rw [Nat.testBit_xor, Nat.testBit_two_pow_mul, Nat.testBit_two_pow_mul_add a small]
  by_cases low : j < i
  · simp [low, Nat.not_le.mpr low]
  · have high : b.testBit j = false :=
      Nat.testBit_lt_two_pow (small.trans_le (Nat.pow_le_pow_right (by decide) (by omega)))
    simp [low, high, Nat.not_lt.mp low]

/-- A checksum that has room for another digit takes it up unchanged. -/
theorem polymodStep_small {chk value : BitVec 32} (small : chk.toNat < 2 ^ 25)
    (fits : value.toNat < 32) : (polymodStep chk value).toNat = chk.toNat * 32 + value.toNat := by
  have quiet (i : ℕ) (generator : BitVec 32) : feedback chk i generator = 0#32 := by
    rw [feedback, if_neg]
    rw [Bool.not_eq_true, BitVec.getLsbD, Nat.testBit_lt_two_pow]
    exact small.trans_le (Nat.pow_le_pow_right (by decide) (by omega))
  have masked : chk &&& 0x1ffffff#32 = chk := by
    apply BitVec.eq_of_toNat_eq
    rw [BitVec.toNat_and, show (0x1ffffff#32).toNat = 2 ^ 25 - 1 from rfl, Nat.and_two_pow_sub_one_eq_mod,
      Nat.mod_eq_of_lt small]
  simp only [polymodStep, quiet, masked, BitVec.xor_zero]
  rw [BitVec.toNat_xor, BitVec.toNat_shiftLeft, Nat.shiftLeft_eq, Nat.mod_eq_of_lt (by omega),
    Nat.mul_comm, two_pow_mul_xor fits, Nat.mul_comm]

/-- The checksum stays within thirty bits. -/
theorem polymodStep_lt (chk : BitVec 32) {value : BitVec 32} (fits : value.toNat < 2 ^ 30) :
    (polymodStep chk value).toNat < 2 ^ 30 := by
  have fed (i : ℕ) {generator : BitVec 32} (small : generator.toNat < 2 ^ 30) :
      (feedback chk i generator).toNat < 2 ^ 30 := by
    rw [feedback]
    split_ifs
    · exact small
    · decide
  have shifted : ((chk &&& 0x1ffffff#32) <<< 5).toNat < 2 ^ 30 := by
    have masked : chk.toNat &&& 2 ^ 25 - 1 < 2 ^ 25 := by
      rw [Nat.and_two_pow_sub_one_eq_mod]
      exact Nat.mod_lt _ (by decide)
    rw [BitVec.toNat_shiftLeft, BitVec.toNat_and, Nat.shiftLeft_eq]
    change (chk.toNat &&& 2 ^ 25 - 1) * 2 ^ 5 % 2 ^ 32 < 2 ^ 30
    omega
  simp only [polymodStep, BitVec.toNat_xor]
  repeat apply Nat.xor_lt_two_pow
  · exact shifted
  · exact fits
  · exact fed 0 (by decide)
  · exact fed 1 (by decide)
  · exact fed 2 (by decide)
  · exact fed 3 (by decide)
  · exact fed 4 (by decide)

theorem polymodFrom_lt {chk : BitVec 32} (start : chk.toNat < 2 ^ 30) {values : List ℕ}
    (small : ∀ value ∈ values, value < 32) : (polymodFrom chk values).toNat < 2 ^ 30 := by
  induction values generalizing chk with
  | nil => exact start
  | cons value rest ih =>
    have fits := small value (List.mem_cons_self ..)
    apply ih (polymodStep_lt chk ?_) fun other member => small other (List.mem_cons_of_mem _ member)
    rw [BitVec.toNat_ofNat, Nat.mod_eq_of_lt (by omega)]
    omega

theorem polymodFrom_append (chk : BitVec 32) (first second : List ℕ) :
    polymodFrom chk (first ++ second) = polymodFrom (polymodFrom chk first) second := by
  rw [polymodFrom, List.foldl_append]
  rfl

/-- Six digits at the end are added to the checksum of as many zeros. -/
theorem polymodFrom_xor (chk extra : BitVec 32) {digits : List ℕ}
    (small : ∀ digit ∈ digits, digit < 32) (room : (extra.toNat + 1) * 32 ^ digits.length ≤ 2 ^ 30) :
    ∃ last : BitVec 32, polymodFrom (chk ^^^ extra) digits =
        polymodFrom chk (List.replicate digits.length 0) ^^^ last ∧
      last.toNat = digits.foldl (fun value digit => value * 32 + digit) extra.toNat := by
  induction digits generalizing chk extra with
  | nil => exact ⟨extra, rfl, rfl⟩
  | cons digit rest ih =>
    have fits := small digit (List.mem_cons_self ..)
    rw [List.length_cons, pow_succ] at room
    have positive : 0 < 32 ^ rest.length := Nat.pow_pos (by decide)
    have early : extra.toNat < 2 ^ 25 := by
      have whole : (extra.toNat + 1) * 32 ≤ 2 ^ 30 := by
        refine Nat.le_trans (Nat.mul_le_mul_left _ ?_) room
        exact Nat.le_mul_of_pos_left 32 positive
      omega
    have value : (BitVec.ofNat 32 digit).toNat = digit := by
      rw [BitVec.toNat_ofNat, Nat.mod_eq_of_lt (by omega)]
    have taken := polymodStep_small early (value.trans_lt fits)
    rw [value] at taken
    have step : polymodStep (chk ^^^ extra) (BitVec.ofNat 32 digit) =
        polymodStep chk 0#32 ^^^ polymodStep extra (BitVec.ofNat 32 digit) := by
      rw [← polymodStep_xor, BitVec.zero_xor]
    obtain ⟨last, same, total⟩ := ih (polymodStep chk 0#32)
      (polymodStep extra (BitVec.ofNat 32 digit))
      (fun other member => small other (List.mem_cons_of_mem _ member)) (by
        rw [taken]
        calc (extra.toNat * 32 + digit + 1) * 32 ^ rest.length
            ≤ ((extra.toNat + 1) * 32) * 32 ^ rest.length := Nat.mul_le_mul_right _ (by omega)
          _ = (extra.toNat + 1) * (32 ^ rest.length * 32) := by ring
          _ ≤ 2 ^ 30 := room)
    refine ⟨last, ?_, ?_⟩
    · rw [List.length_cons, List.replicate_succ, polymodFrom, List.foldl_cons, step]
      exact same
    · rw [total, taken]
      rfl

theorem hrpExpand_lt {hrp : GoString} : ∀ value ∈ hrpExpand hrp, value < 32 := by
  intro value member
  simp only [hrpExpand, List.mem_append, List.mem_map, List.mem_singleton] at member
  rcases member with (⟨byte, -, rfl⟩ | rfl) | ⟨byte, -, rfl⟩
  · have bound := byte.toNat_lt
    omega
  · decide
  · exact Nat.mod_lt _ (by decide)

/-- The checksum makes the whole come out as one. -/
theorem polymod_checksum {hrp : GoString} {digits : List ℕ}
    (small : ∀ digit ∈ digits, digit < 32) :
    polymod (hrpExpand hrp ++ digits ++ checksum hrp digits) = 1#32 := by
  have before : ∀ value ∈ hrpExpand hrp ++ digits, value < 32 := by
    intro value member
    rcases List.mem_append.mp member with expanded | own
    · exact hrpExpand_lt value expanded
    · exact small value own
  have bounded : (polymod (hrpExpand hrp ++ digits ++ List.replicate 6 0) ^^^ 1#32).toNat < 32 ^ 6 := by
    rw [BitVec.toNat_xor]
    apply Nat.xor_lt_two_pow (n := 30)
    · apply polymodFrom_lt (by decide)
      intro value member
      rcases List.mem_append.mp member with known | zero
      · exact before value known
      · rw [(List.mem_replicate.mp zero).2]
        decide
    · decide
  have legal : ∀ digit ∈ checksum hrp digits, digit < 32 := digitsOf_lt (by decide) 6 _
  obtain ⟨last, same, total⟩ := polymodFrom_xor (polymod (hrpExpand hrp ++ digits)) 0#32
    legal (by rw [checksum, length_digitsOf]; decide)
  have added : last = polymod (hrpExpand hrp ++ digits ++ List.replicate 6 0) ^^^ 1#32 := by
    apply BitVec.eq_of_toNat_eq
    rw [total]
    exact valueOf_digitsOf bounded
  rw [checksum, length_digitsOf, ← checksum, BitVec.xor_zero] at same
  rw [polymod, polymodFrom_append]
  change polymodFrom (polymod (hrpExpand hrp ++ digits)) (checksum hrp digits) = 1#32
  have zeros : polymodFrom (polymod (hrpExpand hrp ++ digits)) (List.replicate 6 0) =
      polymod (hrpExpand hrp ++ digits ++ List.replicate 6 0) := (polymodFrom_append _ _ _).symm
  rw [same, zeros, added, ← BitVec.xor_assoc, BitVec.xor_self, BitVec.zero_xor]

/-! ## Digits of five bits -/

theorem bytes_lt (data : Bytes) : ∀ value ∈ data.map (·.toNat), value < 256 := by
  intro value member
  obtain ⟨byte, -, rfl⟩ := List.mem_map.mp member
  exact byte.toNat_lt

theorem toQuintets_lt (data : Bytes) : ∀ digit ∈ toQuintets data, digit < 32 :=
  digitsOf_lt (by decide) _ _

/-- Bytes come back from their groups of five bits. -/
theorem ofQuintets_toQuintets (data : Bytes) : ofQuintets (toQuintets data) = some data := by
  have value := valueOf_lt (bytes_lt data)
  rw [List.length_map, show 256 = 2 ^ 8 from rfl, ← pow_mul] at value
  obtain ⟨count, counts⟩ : ∃ count, count = (8 * data.length + 4) / 5 := ⟨_, rfl⟩
  have fits : valueOf 256 (data.map (·.toNat)) * 2 ^ (5 * count - 8 * data.length) < 32 ^ count := by
    rw [show 32 = 2 ^ 5 from rfl, ← pow_mul]
    calc valueOf 256 (data.map (·.toNat)) * 2 ^ (5 * count - 8 * data.length)
        < 2 ^ (8 * data.length) * 2 ^ (5 * count - 8 * data.length) :=
          Nat.mul_lt_mul_of_pos_right value (Nat.pow_pos (by decide))
      _ = 2 ^ (5 * count) := by rw [← pow_add]; congr 1; omega
  have spare : 5 * count % 8 = 5 * count - 8 * data.length := by omega
  have whole : 5 * count / 8 = data.length := by omega
  simp only [ofQuintets, toQuintets, length_digitsOf, ← counts, valueOf_digitsOf fits, spare, whole]
  rw [if_pos ⟨by omega, Nat.mul_mod_left _ _⟩, Nat.mul_div_cancel _ (Nat.pow_pos (by decide))]
  have back := digitsOf_valueOf (bytes_lt data)
  rw [List.length_map] at back
  rw [back, List.map_map]
  simp [Function.comp_def]

/-! ## Texts -/

theorem charset_eq : charset = [113, 112, 122, 114, 121, 57, 120, 56, 103, 102, 50, 116, 118, 100, 119,
    48, 115, 51, 106, 110, 53, 52, 107, 104, 99, 101, 54, 109, 117, 97, 55, 108] := by
  decide

/-- The bytes of a human-readable part in lower case. -/
def Readable (hrp : GoString) : Prop :=
  hrp ≠ [] ∧ ∀ byte ∈ hrp, (33 ≤ byte.toNat ∧ byte.toNat ≤ 126) ∧ isUpper byte = false

theorem digit_facts : ∀ value < 32, value? (digit value) = some value ∧ digit value ≠ 49 ∧
    (33 ≤ (digit value).toNat ∧ (digit value).toNat ≤ 126) ∧ isUpper (digit value) = false := by
  simp only [value?, digit, charset_eq]
  decide

theorem mapM_value? {digits : List ℕ} (small : ∀ digit ∈ digits, digit < 32) :
    (digits.map digit).mapM value? = some digits := by
  induction digits with
  | nil => rfl
  | cons value rest ih =>
    have read := (digit_facts value (small value (List.mem_cons_self ..))).1
    rw [List.map_cons, List.mapM_cons, read, ih fun other member => small other (List.mem_cons_of_mem _ member)]
    rfl

theorem lower_of_not_upper {byte : UInt8} (low : isUpper byte = false) : lower byte = byte := by
  rw [lower, low, if_neg Bool.false_ne_true]

theorem toNat_sub_32 {byte : UInt8} (small : isLower byte = true) :
    (byte - 32).toNat = byte.toNat - 32 ∧ 97 ≤ byte.toNat ∧ byte.toNat ≤ 122 := by
  simp only [isLower, Bool.and_eq_true, decide_eq_true_eq] at small
  refine ⟨UInt8.toNat_sub_of_le _ _ ?_, small⟩
  rw [UInt8.le_iff_toNat_le]
  change 32 ≤ byte.toNat
  omega

theorem lower_upper {byte : UInt8} (low : isUpper byte = false) : lower (upper byte) = byte := by
  rw [upper]
  split_ifs with letter
  · obtain ⟨value, letter⟩ := toNat_sub_32 letter
    have capital : isUpper (byte - 32) = true := by
      simp only [isUpper, Bool.and_eq_true, decide_eq_true_eq, value]
      omega
    rw [lower, if_pos capital, UInt8.sub_add_cancel]
  · exact lower_of_not_upper low

/-- The last one separates the prefix from the digits. -/
theorem split_encode (hrp : GoString) {digits : List ℕ} (small : ∀ digit ∈ digits, digit < 32) :
    split (hrp ++ 49 :: digits.map digit) = some (hrp, digits.map digit) := by
  have flat : (49 : UInt8) ∉ (digits.map digit).reverse := by
    rw [List.mem_reverse, List.mem_map]
    rintro ⟨value, member, same⟩
    exact (digit_facts value (small value member)).2.1 same
  rw [split, List.reverse_append, List.reverse_cons, List.append_assoc, List.singleton_append,
    cut_append flat]
  simp

/-- Every text that reads as an encoding in lower case decodes to what was encoded. -/
theorem decode_of_lower {hrp text : GoString} {data : Bytes} (named : hrp ≠ [])
    (visible : ∀ byte ∈ text, 33 ≤ byte.toNat ∧ byte.toNat ≤ 126)
    (unmixed : (∀ byte ∈ text, isUpper byte = false) ∨ ∀ byte ∈ text, isLower byte = false)
    (same : text.map lower = encode hrp data) : decode text = some (hrp, data) := by
  have pure : ¬ (text.any isUpper && text.any isLower ||
      !text.all fun byte => 33 ≤ byte.toNat && byte.toNat ≤ 126) = true := by
    simp only [Bool.or_eq_true, Bool.and_eq_true, List.any_eq_true, Bool.not_eq_true',
      List.all_eq_false, decide_eq_true_eq, not_or, not_exists, not_and]
    refine ⟨?_, fun byte member outside => outside (visible byte member).1 (visible byte member).2⟩
    rintro ⟨capital, inside, high⟩ small member low
    rcases unmixed with none | none
    · rw [none capital inside] at high
      cases high
    · rw [none small member] at low
      cases low
  have digits : ∀ digit ∈ toQuintets data ++ checksum hrp (toQuintets data), digit < 32 := by
    intro digit member
    rcases List.mem_append.mp member with own | check
    · exact toQuintets_lt data digit own
    · exact digitsOf_lt (by decide) 6 _ digit check
  have six : (checksum hrp (toQuintets data)).length = 6 := length_digitsOf _ _
  rw [decode, if_neg pure, same, encode, split_encode hrp digits]
  simp only [Option.bind_eq_bind, Option.bind_some, mapM_value? digits]
  rw [if_neg, List.length_append, six, Nat.add_sub_cancel, List.take_left, ofQuintets_toQuintets]
  · rfl
  · rw [not_or, not_or, ← List.append_assoc, polymod_checksum (toQuintets_lt data)]
    refine ⟨named, ?_, fun differs => differs rfl⟩
    rw [List.length_append, six]
    omega

/-- An encoded text can be read. -/
theorem encode_readable {hrp : GoString} (readable : Readable hrp) (data : Bytes) :
    Readable (encode hrp data) := by
  refine ⟨by simp [encode], fun byte member => ?_⟩
  rcases List.mem_append.mp member with own | rest
  · exact readable.2 byte own
  · rcases List.mem_cons.mp rest with rfl | coded
    · decide
    · obtain ⟨value, inside, rfl⟩ := List.mem_map.mp coded
      have small : value < 32 := by
        rcases List.mem_append.mp inside with own | check
        · exact toQuintets_lt data value own
        · exact digitsOf_lt (by decide) 6 _ value check
      exact (digit_facts value small).2.2

theorem upper_visible {byte : UInt8} (visible : 33 ≤ byte.toNat ∧ byte.toNat ≤ 126) :
    33 ≤ (upper byte).toNat ∧ (upper byte).toNat ≤ 126 := by
  rw [upper]
  split_ifs with letter
  · obtain ⟨value, letter⟩ := toNat_sub_32 letter
    omega
  · exact visible

/-- The encoding in capitals decodes to what was encoded. -/
theorem decode_map_upper {hrp : GoString} (readable : Readable hrp) (data : Bytes) :
    decode ((encode hrp data).map upper) = some (hrp, data) := by
  have coded := (encode_readable readable data).2
  apply decode_of_lower readable.1
  · intro byte member
    obtain ⟨small, inside, rfl⟩ := List.mem_map.mp member
    exact upper_visible (coded small inside).1
  · right
    intro byte member
    obtain ⟨small, inside, rfl⟩ := List.mem_map.mp member
    rw [upper]
    split_ifs with letter
    · obtain ⟨value, letter⟩ := toNat_sub_32 letter
      rw [isLower, value, Bool.and_eq_false_iff, decide_eq_false_iff_not, decide_eq_false_iff_not]
      omega
    · exact Bool.not_eq_true _ ▸ letter
  · rw [List.map_map]
    refine (List.map_congr_left fun byte member => ?_).trans (List.map_id _)
    exact lower_upper (coded byte member).2

end ShadowNet.Go.Bech32
