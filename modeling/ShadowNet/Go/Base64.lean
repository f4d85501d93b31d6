import ShadowNet.Go.Utf8

/-! # Base64

Six-bit digits in the URL-safe alphabet, without padding: `base64.RawURLEncoding`. The decoder skips
carriage returns and line feeds and ignores the trailing bits of a partial group, as the non-strict
encoding does; a single left-over digit is an error. The other encodings differ in two digits and
in the padding.
-/

namespace ShadowNet.Go.Base64

/-- The sextets of a byte string, most significant bits first. -/
def toSextets : Bytes → List ℕ
  | a :: b :: c :: rest =>
      a.toNat / 4 :: (a.toNat % 4 * 16 + b.toNat / 16) :: (b.toNat % 16 * 4 + c.toNat / 64) ::
        c.toNat % 64 :: toSextets rest
  | [a, b] => [a.toNat / 4, a.toNat % 4 * 16 + b.toNat / 16, b.toNat % 16 * 4]
  | [a] => [a.toNat / 4, a.toNat % 4 * 16]
  | [] => []

def ofSextets : List ℕ → Option Bytes
  | p :: q :: r :: s :: rest =>
      (ofSextets rest).map fun tail =>
        UInt8.ofNat (p * 4 + q / 16) :: UInt8.ofNat (q % 16 * 16 + r / 4) ::
          UInt8.ofNat (r % 4 * 64 + s) :: tail
  | [p, q, r] => some [UInt8.ofNat (p * 4 + q / 16), UInt8.ofNat (q % 16 * 16 + r / 4)]
  | [p, q] => some [UInt8.ofNat (p * 4 + q / 16)]
  | [_] => none
  | [] => some []

/-- The digit of a sextet in `A-Za-z0-9-_`. -/
def digit (sextet : ℕ) : UInt8 :=
  if sextet < 26 then UInt8.ofNat (65 + sextet)
  else if sextet < 52 then UInt8.ofNat (71 + sextet)
  else if sextet < 62 then UInt8.ofNat (sextet - 4)
  else if sextet = 62 then 45
  else 95

def sextet? (byte : UInt8) : Option ℕ :=
  let value := byte.toNat
  if 65 ≤ value ∧ value ≤ 90 then some (value - 65)
  else if 97 ≤ value ∧ value ≤ 122 then some (value - 71)
  else if 48 ≤ value ∧ value ≤ 57 then some (value + 4)
  else if value = 45 then some 62
  else if value = 95 then some 63
  else none

def isNewline (byte : UInt8) : Bool := byte = 10 || byte = 13

/-- `base64.RawURLEncoding.EncodeToString`. -/
def encode (bytes : Bytes) : GoString := (toSextets bytes).map digit

/-- `base64.RawURLEncoding.DecodeString`. -/
def decode (text : GoString) : Option Bytes :=
  ((text.filter (!isNewline ·)).mapM sextet?).bind ofSextets

private theorem digit_facts : ∀ sextet < 64, sextet? (digit sextet) = some sextet ∧
    isNewline (digit sextet) = false ∧ isVisible (digit sextet) = true := by decide

private theorem toSextets_lt (bytes : Bytes) : ∀ sextet ∈ toSextets bytes, sextet < 64 := by
  fun_induction toSextets bytes with
  | case1 a b c rest ih =>
    have first := a.toNat_lt
    have second := b.toNat_lt
    intro sextet member
    simp only [List.mem_cons] at member
    rcases member with rfl | rfl | rfl | rfl | member
    · omega
    · omega
    · have third := c.toNat_lt
      omega
    · omega
    · exact ih sextet member
  | case2 a b =>
    have first := a.toNat_lt
    have second := b.toNat_lt
    intro sextet member
    simp only [List.mem_cons, List.not_mem_nil, or_false] at member
    omega
  | case3 a =>
    have first := a.toNat_lt
    intro sextet member
    simp only [List.mem_cons, List.not_mem_nil, or_false] at member
    omega
  | case4 => simp

private theorem ofNat_of_eq {b : UInt8} {value : ℕ} (same : value = b.toNat) :
    UInt8.ofNat value = b := by rw [same, UInt8.ofNat_toNat]

private theorem ofSextets_toSextets (bytes : Bytes) : ofSextets (toSextets bytes) = some bytes := by
  fun_induction toSextets bytes with
  | case1 a b c rest ih =>
    have first := a.toNat_lt
    have second := b.toNat_lt
    have third := c.toNat_lt
    simp only [ofSextets, ih, Option.map_some]
    rw [ofNat_of_eq (b := a) (by omega), ofNat_of_eq (b := b) (by omega),
      ofNat_of_eq (b := c) (by omega)]
  | case2 a b =>
    have first := a.toNat_lt
    have second := b.toNat_lt
    simp only [ofSextets]
    rw [ofNat_of_eq (b := a) (by omega), ofNat_of_eq (b := b) (by omega)]
  | case3 a =>
    have first := a.toNat_lt
    simp only [ofSextets]
    rw [ofNat_of_eq (b := a) (by omega)]
  | case4 => rfl

private theorem mapM_sextet? {sextets : List ℕ} (bound : ∀ sextet ∈ sextets, sextet < 64) :
    ((sextets.map digit).filter (!isNewline ·)).mapM sextet? = some sextets := by
  induction sextets with
  | nil => rfl
  | cons sextet rest ih =>
    obtain ⟨read, kept, _⟩ := digit_facts sextet (bound sextet (List.mem_cons_self ..))
    rw [List.map_cons, List.filter_cons_of_pos (by simp [kept]), List.mapM_cons, read,
      ih fun other member => bound other (List.mem_cons_of_mem _ member)]
    rfl

/-- Decoding an encoding returns the bytes. -/
@[simp] theorem decode_encode (bytes : Bytes) : decode (encode bytes) = some bytes := by
  rw [decode, encode, mapM_sextet? (toSextets_lt bytes), Option.bind_some, ofSextets_toSextets]

/-- Eight bits a byte, six bits a digit. -/
theorem length_encode (bytes : Bytes) : (encode bytes).length = (bytes.length * 4 + 2) / 3 := by
  rw [encode, List.length_map]
  fun_induction toSextets bytes with
  | case1 a b c rest ih =>
    simp only [List.length_cons, ih]
    omega
  | case2 a b => simp only [List.length_cons, List.length_nil]
  | case3 a => simp only [List.length_cons, List.length_nil]
  | case4 => rfl

/-- An encoded text has visible characters only. -/
theorem visible_encode (bytes : Bytes) : ∀ byte ∈ encode bytes, isVisible byte = true := by
  intro byte member
  obtain ⟨sextet, present, rfl⟩ := List.mem_map.mp member
  exact (digit_facts sextet (toSextets_lt bytes sextet present)).2.2

theorem ascii_encode (bytes : Bytes) : Ascii (encode bytes) :=
  ascii_of_visible (visible_encode bytes)

/-! ## The other encodings -/

/-- The value of a digit in the alphabet of `base64.StdEncoding`. -/
def stdSextet? (byte : UInt8) : Option ℕ :=
  if byte = 43 then some 62
  else if byte = 47 then some 63
  else if byte = 45 ∨ byte = 95 then none
  else sextet? byte

/-- A `base64.Encoding`, as its decoder sees it. -/
structure Encoding where
  sextet? : UInt8 → Option ℕ
  padded : Bool

def rawURLEncoding : Encoding := ⟨sextet?, false⟩
def urlEncoding : Encoding := ⟨sextet?, true⟩
def rawStdEncoding : Encoding := ⟨stdSextet?, false⟩
def stdEncoding : Encoding := ⟨stdSextet?, true⟩

/-- Whole groups of four digits, of which one or two `=` at the end are no digits. -/
def unpadded (text : GoString) : Option GoString :=
  if text.length % 4 ≠ 0 then none
  else if hasSuffix text [61, 61] then some (text.take (text.length - 2))
  else if hasSuffix text [61] then some (text.take (text.length - 1))
  else some text

/-- `DecodeString` of any of the encodings. -/
def Encoding.decodeString (encoding : Encoding) (text : GoString) : Option Bytes := do
  let digits := text.filter (!isNewline ·)
  let digits ← if encoding.padded then unpadded digits else some digits
  ofSextets (← digits.mapM encoding.sextet?)

theorem rawURLEncoding_decodeString (text : GoString) :
    rawURLEncoding.decodeString text = decode text := rfl

/-- The digit of a sextet in the alphabet of `base64.StdEncoding`. -/
def stdDigit (sextet : ℕ) : UInt8 :=
  if sextet = 62 then 43 else if sextet = 63 then 47 else digit sextet

/-- The encoding with one of the alphabets, with padding or without. -/
def encoding (std padded : Bool) : Encoding := ⟨if std then stdSextet? else sextet?, padded⟩

/-- `EncodeToString` of the encoding with these marks. -/
def encodeToString (std padded : Bool) (bytes : Bytes) : GoString :=
  let digits := (toSextets bytes).map (if std then stdDigit else digit)
  if padded then digits ++ List.replicate ((4 - digits.length % 4) % 4) 61 else digits

private theorem digit_reads : ∀ sextet < 64, ∀ std other : Bool,
    ((encoding other false).sextet? ((if std then stdDigit else digit) sextet) = some sextet ∨
      other ≠ std ∧ (encoding other false).sextet? ((if std then stdDigit else digit) sextet) = none) ∧
    isNewline ((if std then stdDigit else digit) sextet) = false ∧
    isVisible ((if std then stdDigit else digit) sextet) = true ∧
    (if std then stdDigit else digit) sextet ≠ 61 := by decide

private theorem mapM_digits (std other needs : Bool) {sextets : List ℕ}
    (bound : ∀ sextet ∈ sextets, sextet < 64) :
    (sextets.map (if std then stdDigit else digit)).mapM (encoding other needs).sextet? = some sextets ∨
      other ≠ std ∧
        (sextets.map (if std then stdDigit else digit)).mapM (encoding other needs).sextet? = none := by
  induction sextets with
  | nil => exact .inl rfl
  | cons sextet rest ih =>
    obtain ⟨own, others⟩ := List.forall_mem_cons.mp bound
    have first : _ ∨ other ≠ std ∧ (encoding other needs).sextet? _ = none :=
      (digit_reads sextet own std other).1
    rw [List.map_cons, List.mapM_cons]
    rcases first with read | ⟨differ, refused⟩
    · rw [show (encoding other needs).sextet? _ = _ from read]
      rcases ih others with all | ⟨differ, none⟩
      · exact .inl (by rw [all]; rfl)
      · exact .inr ⟨differ, by rw [none]; rfl⟩
    · exact .inr ⟨differ, by rw [refused]; rfl⟩

private theorem mapM_pad {encoding : Encoding} (foreign : encoding.sextet? 61 = none)
    (digits : GoString) {count : ℕ} (some : 0 < count) :
    (digits ++ List.replicate count 61).mapM encoding.sextet? = none := by
  induction digits with
  | nil =>
    cases count with
    | zero => omega
    | succ count => rw [List.nil_append, List.replicate_succ, List.mapM_cons, foreign]; rfl
  | cons digit rest ih =>
    rw [List.cons_append, List.mapM_cons, ih]
    cases encoding.sextet? digit <;> rfl

private theorem unpadded_bare {digits : GoString} (bare : (61 : UInt8) ∉ digits)
    (whole : digits.length % 4 = 0) : unpadded digits = some digits := by
  have ends (tail : GoString) (pad : (61 : UInt8) ∈ tail) : hasSuffix digits tail = false :=
    decide_eq_false fun suffix => bare (suffix.subset pad)
  rw [unpadded, if_neg (by omega), ends [61, 61] (by simp), ends [61] (by simp)]
  rfl

private theorem unpadded_pads {digits : GoString} (bare : (61 : UInt8) ∉ digits)
    (group : digits.length % 4 ≠ 1) :
    unpadded (digits ++ List.replicate ((4 - digits.length % 4) % 4) 61) = some digits := by
  have below := Nat.mod_lt digits.length (by decide : 0 < 4)
  have cases : digits.length % 4 = 0 ∨ digits.length % 4 = 2 ∨ digits.length % 4 = 3 := by omega
  rcases cases with whole | two | three
  · rw [whole]
    simpa using unpadded_bare bare whole
  · have ends : hasSuffix (digits ++ [61, 61]) [61, 61] = true :=
      decide_eq_true (List.suffix_append digits [61, 61])
    have size : (digits ++ [61, 61]).length = digits.length + 2 := by simp
    rw [two, show List.replicate ((4 - 2) % 4) (61 : UInt8) = [61, 61] from rfl, unpadded, size,
      if_neg (by omega), ends, if_pos rfl, Nat.add_sub_cancel, List.take_left]
  · have ends : hasSuffix (digits ++ [61]) [61] = true :=
      decide_eq_true (List.suffix_append digits [61])
    have single : hasSuffix (digits ++ [61]) [61, 61] = false := by
      refine decide_eq_false fun suffix => bare ?_
      obtain ⟨front, shape⟩ := suffix
      have same : front ++ [61] = digits :=
        (List.append_inj' (by simpa using shape) rfl).1
      exact same ▸ List.mem_append_right _ (List.mem_singleton_self _)
    have size : (digits ++ [61]).length = digits.length + 1 := by simp
    rw [three, show List.replicate ((4 - 3) % 4) (61 : UInt8) = [61] from rfl, unpadded, size,
      if_neg (by omega), single, if_neg (by decide), ends, if_pos rfl, Nat.add_sub_cancel,
      List.take_left]

section

variable (std padded : Bool) (bytes : Bytes)

private theorem plain_digits : ∀ byte ∈ (toSextets bytes).map (if std then stdDigit else digit),
    isNewline byte = false ∧ isVisible byte = true ∧ byte ≠ 61 := by
  intro byte member
  obtain ⟨sextet, present, rfl⟩ := List.mem_map.mp member
  exact (digit_reads sextet (toSextets_lt bytes sextet present) std std).2

/-- Neither variant writes line ends. -/
theorem plain_encodeToString : ∀ byte ∈ encodeToString std padded bytes,
    isNewline byte = false ∧ isVisible byte = true := by
  have digits := plain_digits std bytes
  intro byte member
  cases padded with
  | false =>
    obtain ⟨line, visible, -⟩ := digits byte member
    exact ⟨line, visible⟩
  | true =>
    rcases List.mem_append.mp member with digit | pad
    · obtain ⟨line, visible, -⟩ := digits byte digit
      exact ⟨line, visible⟩
    · rw [List.eq_of_mem_replicate pad]
      exact ⟨rfl, rfl⟩

theorem length_toSextets : (toSextets bytes).length = (bytes.length * 4 + 2) / 3 := by
  simpa [encode] using length_encode bytes

/-- How long an encoded text is. -/
theorem length_encodeToString : (encodeToString std padded bytes).length =
    if padded then (bytes.length + 2) / 3 * 4 else (bytes.length * 4 + 2) / 3 := by
  cases padded with
  | false => exact (List.length_map _).trans (length_toSextets bytes)
  | true =>
    rw [encodeToString, if_pos rfl, List.length_append, List.length_replicate, List.length_map,
      length_toSextets]
    simp only [if_true]
    omega

private theorem decodeString_eq (encoding : Encoding) {text : GoString}
    (lines : ∀ byte ∈ text, isNewline byte = false) : encoding.decodeString text =
      (if encoding.padded then unpadded text else some text).bind fun digits =>
        (digits.mapM encoding.sextet?).bind ofSextets := by
  have kept : text.filter (!isNewline ·) = text :=
    List.filter_eq_self.mpr fun byte member => by rw [lines byte member]; rfl
  rw [Encoding.decodeString, kept]
  cases encoding.padded <;> rfl

private theorem length_ofSextets {sextets : List ℕ} {bytes : Bytes}
    (read : ofSextets sextets = some bytes) : bytes.length ≤ sextets.length := by
  induction sextets using ofSextets.induct generalizing bytes with
  | case1 p q r s rest ih =>
    obtain ⟨tail, later, rfl⟩ := Option.map_eq_some_iff.mp read
    have bound := ih later
    simp only [List.length_cons]
    omega
  | case2 p q r =>
    cases read
    simp
  | case3 p q =>
    cases read
    simp
  | case4 p => cases read
  | case5 =>
    cases read
    rfl

private theorem length_mapM {read : UInt8 → Option ℕ} {text : GoString} {sextets : List ℕ}
    (all : text.mapM read = some sextets) : sextets.length = text.length := by
  induction text generalizing sextets with
  | nil =>
    cases all
    rfl
  | cons byte rest ih =>
    rw [List.mapM_cons] at all
    obtain ⟨sextet, -, all⟩ := Option.bind_eq_some_iff.mp all
    obtain ⟨others, later, all⟩ := Option.bind_eq_some_iff.mp all
    cases all
    rw [List.length_cons, List.length_cons, ih later]

/-- A decoder makes no more bytes than it is given. -/
theorem length_decodeString {encoding : Encoding} {text : GoString} {bytes : Bytes}
    (read : encoding.decodeString text = some bytes) : bytes.length ≤ text.length := by
  obtain ⟨digits, few, sextets, all, made⟩ : ∃ digits : GoString, digits.length ≤ text.length ∧
      ∃ sextets, digits.mapM encoding.sextet? = some sextets ∧ ofSextets sextets = some bytes := by
    have kept := List.length_filter_le (!isNewline ·) text
    rw [Encoding.decodeString] at read
    cases padded : encoding.padded with
    | false =>
      rw [padded] at read
      obtain ⟨sextets, all, made⟩ := Option.bind_eq_some_iff.mp read
      exact ⟨_, kept, sextets, all, made⟩
    | true =>
      rw [padded, if_pos rfl] at read
      obtain ⟨digits, cut, read⟩ := Option.bind_eq_some_iff.mp read
      obtain ⟨sextets, all, made⟩ := Option.bind_eq_some_iff.mp read
      refine ⟨digits, ?_, sextets, all, made⟩
      rw [unpadded] at cut
      split_ifs at cut <;> cases cut
      · exact (List.length_take_le' ..).trans kept
      · exact (List.length_take_le' ..).trans kept
      · exact kept
  have bound := length_ofSextets made
  rw [length_mapM all] at bound
  omega

/-- An encoding is read by a decoder as what it encodes or not at all; by its own it is read. -/
theorem decodeString_encodeToString (other needs : Bool) :
    (encoding other needs).decodeString (encodeToString std padded bytes) = some bytes ∨
      (other, needs) ≠ (std, padded) ∧
        (encoding other needs).decodeString (encodeToString std padded bytes) = none := by
  rw [decodeString_eq _ fun byte member => (plain_encodeToString std padded bytes byte member).1]
  have bare : (61 : UInt8) ∉ (toSextets bytes).map (if std then stdDigit else digit) :=
    fun pad => (plain_digits std bytes 61 pad).2.2 rfl
  have group : ((toSextets bytes).map (if std then stdDigit else digit)).length % 4 ≠ 1 := by
    rw [List.length_map, length_toSextets]
    omega
  have digits := mapM_digits std other needs (toSextets_lt bytes)
  have foreign : (encoding other needs).sextet? 61 = none := by cases other <;> rfl
  have back := ofSextets_toSextets bytes
  rw [encodeToString]
  generalize (toSextets bytes).map (if std then stdDigit else digit) = text at bare group digits ⊢
  -- Whatever the decoder takes to be the digits is read or refused as a whole.
  have reads : (text.mapM (encoding other needs).sextet?).bind ofSextets = some bytes ∨
      (other, needs) ≠ (std, padded) ∧
        (text.mapM (encoding other needs).sextet?).bind ofSextets = none := by
    rcases digits with read | ⟨differ, refused⟩
    · exact .inl (by rw [read, Option.bind_some, back])
    · exact .inr ⟨fun same => differ (congrArg Prod.fst same), by rw [refused]; rfl⟩
  cases padded with
  | false =>
    cases needs with
    | false => exact reads
    | true =>
      rw [if_neg Bool.false_ne_true, show (encoding other true).padded = true from rfl, if_pos rfl]
      by_cases whole : text.length % 4 = 0
      · rw [unpadded_bare bare whole]
        exact reads
      · rw [unpadded, if_pos whole]
        exact .inr ⟨by simp, rfl⟩
  | true =>
    rw [if_pos rfl]
    cases needs with
    | false =>
      rw [show (encoding other false).padded = false from rfl, if_neg Bool.false_ne_true,
        Option.bind_some]
      rcases Nat.eq_zero_or_pos ((4 - text.length % 4) % 4) with none | some
      · rw [none, List.replicate_zero, List.append_nil]
        exact reads
      · rw [mapM_pad foreign text some]
        exact .inr ⟨by simp, rfl⟩
    | true =>
      rw [show (encoding other true).padded = true from rfl, if_pos rfl, unpadded_pads bare group]
      exact reads

end

end ShadowNet.Go.Base64
