import ShadowNet.Go.Bytes

/-! # Runes and UTF-8

Ranging over a Go string yields one rune per step: a decoded code point, or `RuneError` of width
one at a byte that starts no valid encoding. `runes` keeps the offending byte, so that nothing is
lost and the segmentation determines the string. `toValid` is what `encoding/json` and
`strings.Map` make of a string: every offending byte becomes U+FFFD.
-/

namespace ShadowNet.Go

/-- `utf8.AppendRune`. -/
abbrev encodeRune (c : Char) : Bytes := String.utf8EncodeChar c

/-- `unicode.ReplacementChar`. -/
def replacement : Char := Char.ofNat 0xFFFD

def isCont (byte : UInt8) : Bool := 0x80 ≤ byte.toNat && byte.toNat < 0xC0

def pack2 (a b : UInt8) : ℕ := (a.toNat - 0xC0) * 0x40 + (b.toNat - 0x80)

def pack3 (a b c : UInt8) : ℕ :=
  (a.toNat - 0xE0) * 0x1000 + (b.toNat - 0x80) * 0x40 + (c.toNat - 0x80)

def pack4 (a b c d : UInt8) : ℕ :=
  (a.toNat - 0xF0) * 0x40000 + (b.toNat - 0x80) * 0x1000 + (c.toNat - 0x80) * 0x40 +
    (d.toNat - 0x80)

/-- `utf8.DecodeRune` on a valid first rune; overlong forms, surrogates and values past
U+10FFFF are refused. -/
def decodeRune : Bytes → Option (Char × Bytes)
  | [] => none
  | a :: rest =>
    if a.toNat < 0x80 then some (Char.ofNat a.toNat, rest)
    else if a.toNat < 0xC2 then none
    else if a.toNat < 0xE0 then
      match rest with
      | b :: rest => if isCont b then some (Char.ofNat (pack2 a b), rest) else none
      | _ => none
    else if a.toNat < 0xF0 then
      match rest with
      | b :: c :: rest =>
        if isCont b && isCont c && decide (0x800 ≤ pack3 a b c) &&
            (decide (pack3 a b c < 0xD800) || decide (0xE000 ≤ pack3 a b c)) then
          some (Char.ofNat (pack3 a b c), rest)
        else none
      | _ => none
    else if a.toNat < 0xF5 then
      match rest with
      | b :: c :: d :: rest =>
        if isCont b && isCont c && isCont d && decide (0x10000 ≤ pack4 a b c d) &&
            decide (pack4 a b c d < 0x110000) then
          some (Char.ofNat (pack4 a b c d), rest)
        else none
      | _ => none
    else none

private theorem char_bound (c : Char) :
    c.toNat < 0xD800 ∨ (0xDFFF < c.toNat ∧ c.toNat < 0x110000) := c.valid

private theorem toNat_ofNat {n : ℕ} (valid : n < 0xD800 ∨ (0xDFFF < n ∧ n < 0x110000)) :
    (Char.ofNat n).toNat = n := by
  have isValid : n.isValidChar := valid
  rw [Char.ofNat, dif_pos isValid]
  rfl

-- Unfolding the validity test of a symbolic value compares it with a literal in unary.
attribute [local irreducible] Char.ofNat

private theorem ofNat_eq (c : Char) {value : ℕ} (same : value = c.toNat) : Char.ofNat value = c := by
  rw [same, Char.ofNat_toNat]

private theorem ofNat_toNat_eq {b : UInt8} {value : ℕ} (same : b.toNat = value) :
    UInt8.ofNat value = b := by
  rw [← same, UInt8.ofNat_toNat]

private theorem encode_one {c : Char} (top : c.toNat ≤ 0x7f) :
    encodeRune c = [UInt8.ofNat c.toNat] := if_pos top

private theorem encode_two {c : Char} (bottom : ¬ c.toNat ≤ 0x7f) (top : c.toNat ≤ 0x7ff) :
    encodeRune c = [UInt8.ofNat (c.toNat / 64 % 0x20 + 0xc0), UInt8.ofNat (c.toNat % 0x40 + 0x80)] :=
  (if_neg bottom).trans (if_pos top)

private theorem encode_three {c : Char} (bottom : ¬ c.toNat ≤ 0x7ff) (top : c.toNat ≤ 0xffff) :
    encodeRune c = [UInt8.ofNat (c.toNat / 4096 % 0x10 + 0xe0),
      UInt8.ofNat (c.toNat / 64 % 0x40 + 0x80), UInt8.ofNat (c.toNat % 0x40 + 0x80)] :=
  (if_neg (fun small => bottom (by change c.toNat ≤ 127 at small; omega))).trans
    ((if_neg bottom).trans (if_pos top))

private theorem encode_four {c : Char} (bottom : ¬ c.toNat ≤ 0xffff) :
    encodeRune c = [UInt8.ofNat (c.toNat / 262144 % 0x08 + 0xf0),
      UInt8.ofNat (c.toNat / 4096 % 0x40 + 0x80), UInt8.ofNat (c.toNat / 64 % 0x40 + 0x80),
      UInt8.ofNat (c.toNat % 0x40 + 0x80)] :=
  (if_neg (fun small => bottom (by change c.toNat ≤ 127 at small; omega))).trans
    ((if_neg (fun small => bottom (by change c.toNat ≤ 2047 at small; omega))).trans (if_neg bottom))

private theorem byte_toNat {n : ℕ} (bound : n < 256) : (UInt8.ofNat n).toNat = n := by
  rw [UInt8.toNat_ofNat', Nat.mod_eq_of_lt bound]

/-- An ASCII rune is its own encoding. -/
theorem encodeRune_ascii {c : Char} (ascii : c.toNat < 0x80) :
    encodeRune c = [UInt8.ofNat c.toNat] := encode_one (by omega)

/-- The encoding of a rune past ASCII has no ASCII byte. -/
theorem encodeRune_wide {c : Char} (wide : ¬ c.toNat < 0x80) :
    ∀ byte ∈ encodeRune c, 0x80 ≤ byte.toNat := by
  have bound := char_bound c
  intro byte member
  by_cases two : c.toNat ≤ 0x7ff
  · rw [encode_two (by omega) two] at member
    simp only [List.mem_cons, List.not_mem_nil, or_false] at member
    obtain rfl | rfl := member <;> rw [byte_toNat (by omega)] <;> omega
  by_cases three : c.toNat ≤ 0xffff
  · rw [encode_three two three] at member
    simp only [List.mem_cons, List.not_mem_nil, or_false] at member
    obtain rfl | rfl | rfl := member <;> rw [byte_toNat (by omega)] <;> omega
  · rw [encode_four three] at member
    simp only [List.mem_cons, List.not_mem_nil, or_false] at member
    obtain rfl | rfl | rfl | rfl := member <;> rw [byte_toNat (by omega)] <;> omega

private theorem isCont_ofNat {value : ℕ} (low : 0x80 ≤ value) (high : value < 0xC0) :
    isCont (UInt8.ofNat value) = true := by
  rw [isCont, byte_toNat (by omega), Bool.and_eq_true]
  exact ⟨decide_eq_true low, decide_eq_true high⟩

private theorem decode_two {a b : UInt8} {rest : Bytes} {c : Char} (low : 0xC2 ≤ a.toNat)
    (high : a.toNat < 0xE0) (cont : isCont b = true) (value : pack2 a b = c.toNat) :
    decodeRune (a :: b :: rest) = some (c, rest) := by
  simp only [decodeRune]
  rw [if_neg (by omega), if_neg (by omega), if_pos high, value, Char.ofNat_toNat]
  exact if_pos cont

private theorem decode_three {a b c : UInt8} {rest : Bytes} {char : Char} (low : 0xE0 ≤ a.toNat)
    (high : a.toNat < 0xF0) (contB : isCont b = true) (contC : isCont c = true)
    (long : 0x800 ≤ char.toNat) (value : pack3 a b c = char.toNat) :
    decodeRune (a :: b :: c :: rest) = some (char, rest) := by
  have bound := char_bound char
  simp only [decodeRune]
  rw [if_neg (by omega), if_neg (by omega), if_neg (by omega), if_pos high, value,
    Char.ofNat_toNat]
  apply if_pos
  simp only [contB, contC, Bool.and_eq_true, Bool.or_eq_true, decide_eq_true_eq, true_and]
  omega

private theorem decode_four {a b c d : UInt8} {rest : Bytes} {char : Char} (low : 0xF0 ≤ a.toNat)
    (high : a.toNat < 0xF5) (contB : isCont b = true) (contC : isCont c = true)
    (contD : isCont d = true) (long : 0x10000 ≤ char.toNat) (value : pack4 a b c d = char.toNat) :
    decodeRune (a :: b :: c :: d :: rest) = some (char, rest) := by
  have bound := char_bound char
  simp only [decodeRune]
  rw [if_neg (by omega), if_neg (by omega), if_neg (by omega), if_neg (by omega), if_pos high,
    value, Char.ofNat_toNat]
  apply if_pos
  simp only [contB, contC, contD, Bool.and_eq_true, decide_eq_true_eq, true_and]
  omega

/-- Decoding what `encodeRune` wrote returns the rune and leaves the rest untouched. -/
@[simp] theorem decodeRune_encodeRune (c : Char) (rest : Bytes) :
    decodeRune (encodeRune c ++ rest) = some (c, rest) := by
  have bound := char_bound c
  by_cases one : c.toNat ≤ 0x7f
  · rw [encode_one one]
    simp only [List.cons_append, List.nil_append, decodeRune, UInt8.toNat_ofNat']
    rw [if_pos (by omega), ofNat_eq c (by omega)]
  by_cases two : c.toNat ≤ 0x7ff
  · rw [encode_two one two]
    simp only [List.cons_append, List.nil_append]
    refine decode_two ?_ ?_ (isCont_ofNat (by omega) (by omega)) ?_
    · rw [byte_toNat (by omega)]; omega
    · rw [byte_toNat (by omega)]; omega
    · have lead := byte_toNat (n := c.toNat / 64 % 0x20 + 0xc0) (by omega)
      have tail := byte_toNat (n := c.toNat % 0x40 + 0x80) (by omega)
      unfold pack2
      omega
  by_cases three : c.toNat ≤ 0xffff
  · rw [encode_three two three]
    simp only [List.cons_append, List.nil_append]
    refine decode_three ?_ ?_ (isCont_ofNat (by omega) (by omega))
      (isCont_ofNat (by omega) (by omega)) (by omega) ?_
    · rw [byte_toNat (by omega)]; omega
    · rw [byte_toNat (by omega)]; omega
    · have lead := byte_toNat (n := c.toNat / 4096 % 0x10 + 0xe0) (by omega)
      have middle := byte_toNat (n := c.toNat / 64 % 0x40 + 0x80) (by omega)
      have tail := byte_toNat (n := c.toNat % 0x40 + 0x80) (by omega)
      unfold pack3
      omega
  · rw [encode_four three]
    simp only [List.cons_append, List.nil_append]
    refine decode_four ?_ ?_ (isCont_ofNat (by omega) (by omega))
      (isCont_ofNat (by omega) (by omega)) (isCont_ofNat (by omega) (by omega)) (by omega) ?_
    · rw [byte_toNat (by omega)]; omega
    · rw [byte_toNat (by omega)]; omega
    · have lead := byte_toNat (n := c.toNat / 262144 % 0x08 + 0xf0) (by omega)
      have second := byte_toNat (n := c.toNat / 4096 % 0x40 + 0x80) (by omega)
      have third := byte_toNat (n := c.toNat / 64 % 0x40 + 0x80) (by omega)
      have tail := byte_toNat (n := c.toNat % 0x40 + 0x80) (by omega)
      unfold pack4
      omega

theorem encodeRune_one {a : UInt8} (ascii : a.toNat < 0x80) :
    encodeRune (Char.ofNat a.toNat) = [a] := by
  have value := toNat_ofNat (n := a.toNat) (.inl (by omega))
  rw [encode_one (by omega), value, UInt8.ofNat_toNat]

private theorem encodeRune_two {a b : UInt8} (low : 0xC2 ≤ a.toNat) (high : a.toNat < 0xE0)
    (cont : isCont b = true) : encodeRune (Char.ofNat (pack2 a b)) = [a, b] := by
  simp only [isCont, Bool.and_eq_true, decide_eq_true_eq] at cont
  have size : pack2 a b = (a.toNat - 0xC0) * 0x40 + (b.toNat - 0x80) := rfl
  have value := toNat_ofNat (n := pack2 a b) (.inl (by omega))
  rw [encode_two (by omega) (by omega), value, ofNat_toNat_eq (b := a) (by omega),
    ofNat_toNat_eq (b := b) (by omega)]

private theorem encodeRune_three {a b c : UInt8} (low : 0xE0 ≤ a.toNat) (high : a.toNat < 0xF0)
    (contB : isCont b = true) (contC : isCont c = true) (long : 0x800 ≤ pack3 a b c)
    (scalar : pack3 a b c < 0xD800 ∨ 0xE000 ≤ pack3 a b c) :
    encodeRune (Char.ofNat (pack3 a b c)) = [a, b, c] := by
  simp only [isCont, Bool.and_eq_true, decide_eq_true_eq] at contB contC
  have size : pack3 a b c =
    (a.toNat - 0xE0) * 0x1000 + (b.toNat - 0x80) * 0x40 + (c.toNat - 0x80) := rfl
  have value := toNat_ofNat (n := pack3 a b c)
    (scalar.imp id fun high => ⟨by omega, by omega⟩)
  rw [encode_three (by omega) (by omega), value, ofNat_toNat_eq (b := a) (by omega),
    ofNat_toNat_eq (b := b) (by omega), ofNat_toNat_eq (b := c) (by omega)]

private theorem encodeRune_four {a b c d : UInt8} (low : 0xF0 ≤ a.toNat) (high : a.toNat < 0xF5)
    (contB : isCont b = true) (contC : isCont c = true) (contD : isCont d = true)
    (long : 0x10000 ≤ pack4 a b c d) (scalar : pack4 a b c d < 0x110000) :
    encodeRune (Char.ofNat (pack4 a b c d)) = [a, b, c, d] := by
  simp only [isCont, Bool.and_eq_true, decide_eq_true_eq] at contB contC contD
  have size : pack4 a b c d = (a.toNat - 0xF0) * 0x40000 + (b.toNat - 0x80) * 0x1000 +
    (c.toNat - 0x80) * 0x40 + (d.toNat - 0x80) := rfl
  have value := toNat_ofNat (n := pack4 a b c d) (.inr ⟨by omega, scalar⟩)
  rw [encode_four (by omega), value, ofNat_toNat_eq (b := a) (by omega),
    ofNat_toNat_eq (b := b) (by omega), ofNat_toNat_eq (b := c) (by omega),
    ofNat_toNat_eq (b := d) (by omega)]

/-- A decoded rune is exactly the encoding at the front of the string. -/
theorem decodeRune_eq_some {s rest : Bytes} {c : Char} (decoded : decodeRune s = some (c, rest)) :
    s = encodeRune c ++ rest := by
  unfold decodeRune at decoded
  split at decoded
  · cases decoded
  · split_ifs at decoded with one stray two three four
    · cases decoded
      rw [encodeRune_one one]
      rfl
    · split at decoded
      · split_ifs at decoded with cont
        cases decoded
        rw [encodeRune_two (by omega) two cont]
        rfl
      · cases decoded
    · split at decoded
      · split_ifs at decoded with ok
        cases decoded
        simp only [Bool.and_eq_true, Bool.or_eq_true, decide_eq_true_eq] at ok
        rw [encodeRune_three (by omega) three ok.1.1.1 ok.1.1.2 ok.1.2 ok.2]
        rfl
      · cases decoded
    · split at decoded
      · split_ifs at decoded with ok
        cases decoded
        simp only [Bool.and_eq_true, decide_eq_true_eq] at ok
        rw [encodeRune_four (by omega) four ok.1.1.1.1 ok.1.1.1.2 ok.1.1.2 ok.1.2 ok.2]
        rfl
      · cases decoded

/-- More bytes behind a decodable rune do not change it. -/
theorem decodeRune_append {s rest : Bytes} {c : Char} (decoded : decodeRune s = some (c, rest))
    (more : Bytes) : decodeRune (s ++ more) = some (c, rest ++ more) := by
  rw [decodeRune_eq_some decoded, List.append_assoc, decodeRune_encodeRune]

/-! ## Segmentation into runes -/

/-- One step of a range loop over a string: a code point, or a byte that begins none. -/
inductive Sym where
  | rune (c : Char)
  | bad (byte : UInt8)
deriving DecidableEq, Repr

def Sym.bytes : Sym → Bytes
  | .rune c => encodeRune c
  | .bad byte => [byte]

def runesAux : ℕ → Bytes → List Sym
  | 0, _ => []
  | _ + 1, [] => []
  | fuel + 1, byte :: rest =>
      match decodeRune (byte :: rest) with
      | some (c, rest) => .rune c :: runesAux fuel rest
      | none => .bad byte :: runesAux fuel rest

/-- The runes of `for _, r := range s`, with the offending bytes themselves. -/
def runes (s : GoString) : List Sym := runesAux s.length s

def ofSyms (syms : List Sym) : GoString := syms.flatMap Sym.bytes

/-- The UTF-8 encoding of a sequence of code points. -/
def utf8 (chars : List Char) : GoString := chars.flatMap encodeRune

theorem encodeRune_ne_nil (c : Char) : encodeRune c ≠ [] := by
  simp only [encodeRune, String.utf8EncodeChar]
  split_ifs <;> simp

private theorem decodeRune_length {s rest : Bytes} {c : Char}
    (decoded : decodeRune s = some (c, rest)) : rest.length < s.length := by
  have positive := List.length_pos_of_ne_nil (encodeRune_ne_nil c)
  rw [decodeRune_eq_some decoded, List.length_append]
  omega

private theorem runesAux_fuel {fuel : ℕ} {s : Bytes} (enough : s.length ≤ fuel) :
    runesAux fuel s = runes s := by
  have stable : ∀ first second s, s.length ≤ first → s.length ≤ second →
      runesAux first s = runesAux second s := by
    intro first
    induction first with
    | zero =>
      intro second s bound _
      obtain rfl := List.eq_nil_of_length_eq_zero (Nat.le_zero.mp bound)
      cases second <;> rfl
    | succ first ih =>
      intro second s bound other
      cases s with
      | nil => cases second <;> rfl
      | cons byte rest =>
        cases second with
        | zero => simp at other
        | succ second =>
          simp only [List.length_cons] at bound other
          simp only [runesAux]
          split
          · next c tail decoded =>
            have shorter := decodeRune_length decoded
            simp only [List.length_cons] at shorter
            rw [ih second tail (by omega) (by omega)]
          · rw [ih second rest (by omega) (by omega)]
  exact stable _ _ s enough le_rfl

@[simp] theorem runes_nil : runes [] = [] := rfl

theorem runes_decoded {s rest : Bytes} {c : Char} (decoded : decodeRune s = some (c, rest)) :
    runes s = .rune c :: runes rest := by
  have shorter := decodeRune_length decoded
  cases s with
  | nil => simp at shorter
  | cons byte tail =>
    simp only [List.length_cons] at shorter
    rw [runes, List.length_cons, runesAux, decoded]
    simp only
    rw [runesAux_fuel (by omega)]

theorem runes_bad {byte : UInt8} {rest : Bytes} (undecodable : decodeRune (byte :: rest) = none) :
    runes (byte :: rest) = .bad byte :: runes rest := by
  rw [runes, List.length_cons, runesAux, undecodable]
  rfl

@[simp] theorem runes_encodeRune (c : Char) (rest : Bytes) :
    runes (encodeRune c ++ rest) = .rune c :: runes rest :=
  runes_decoded (decodeRune_encodeRune c rest)

/-- Induction along the segmentation of a string. -/
theorem runes_induction {motive : GoString → Prop} (nil : motive [])
    (rune : ∀ c rest, motive rest → motive (encodeRune c ++ rest))
    (bad : ∀ byte rest, decodeRune (byte :: rest) = none → motive rest → motive (byte :: rest))
    (s : GoString) : motive s := by
  induction bound : s.length using Nat.strong_induction_on generalizing s with
  | _ size ih =>
    cases s with
    | nil => exact nil
    | cons byte rest =>
      cases decoded : decodeRune (byte :: rest) with
      | none => exact bad byte rest decoded (ih rest.length (by simp [← bound]) rest rfl)
      | some pair =>
        obtain ⟨c, tail⟩ := pair
        have shorter := decodeRune_length decoded
        rw [decodeRune_eq_some decoded]
        exact rune c tail (ih tail.length (by omega) tail rfl)

theorem ofSyms_append (first second : List Sym) :
    ofSyms (first ++ second) = ofSyms first ++ ofSyms second := List.flatMap_append

/-- The segmentation loses nothing. -/
@[simp] theorem ofSyms_runes (s : GoString) : ofSyms (runes s) = s := by
  induction s using runes_induction with
  | nil => rfl
  | rune c rest ih => simpa [ofSyms, Sym.bytes] using ih
  | bad byte rest undecodable ih => simpa [runes_bad undecodable, ofSyms, Sym.bytes] using ih

theorem runes_injective : Function.Injective runes := fun first second same => by
  rw [← ofSyms_runes first, same, ofSyms_runes]

@[simp] theorem runes_utf8_append (chars : List Char) (rest : GoString) :
    runes (utf8 chars ++ rest) = chars.map .rune ++ runes rest := by
  induction chars with
  | nil => rfl
  | cons c chars ih =>
    rw [utf8, List.flatMap_cons, List.append_assoc, runes_encodeRune]
    exact congrArg _ ih

@[simp] theorem runes_utf8 (chars : List Char) : runes (utf8 chars) = chars.map .rune := by
  simpa using runes_utf8_append chars []

theorem utf8_append (first second : List Char) : utf8 (first ++ second) = utf8 first ++ utf8 second :=
  List.flatMap_append

/-- Syms that re-segment to themselves: what a range loop can produce. -/
def Segmented (syms : List Sym) : Prop := runes (ofSyms syms) = syms

theorem segmented_runes (s : GoString) : Segmented (runes s) := by rw [Segmented, ofSyms_runes]

theorem segmented_cons {sym : Sym} {syms : List Sym} : Segmented (sym :: syms) ↔
    (∀ byte, sym = .bad byte → decodeRune (byte :: ofSyms syms) = none) ∧ Segmented syms := by
  cases sym with
  | rune c => simp [Segmented, ofSyms, Sym.bytes]
  | bad byte =>
    simp only [Segmented, ofSyms, List.flatMap_cons, Sym.bytes, List.cons_append, List.nil_append,
      Sym.bad.injEq, forall_eq']
    constructor
    · intro same
      cases decoded : decodeRune (byte :: syms.flatMap Sym.bytes) with
      | none => rw [runes_bad decoded] at same; exact ⟨rfl, (List.cons.inj same).2⟩
      | some pair => rw [runes_decoded decoded] at same; simp at same
    · rintro ⟨undecodable, same⟩
      rw [runes_bad undecodable, same]

/-- A prefix and a suffix of a segmentation are segmentations of their own bytes. -/
theorem segmented_append {first second : List Sym} (whole : Segmented (first ++ second)) :
    Segmented first ∧ Segmented second := by
  induction first with
  | nil => exact ⟨rfl, whole⟩
  | cons sym first ih =>
    obtain ⟨head, tail⟩ := segmented_cons.mp whole
    obtain ⟨left, right⟩ := ih tail
    refine ⟨segmented_cons.mpr ⟨fun byte same => ?_, left⟩, right⟩
    have undecodable := head byte same
    cases decoded : decodeRune (byte :: ofSyms first) with
    | none => rfl
    | some pair =>
      have extended := decodeRune_append decoded (ofSyms second)
      rw [List.cons_append, ← ofSyms_append] at extended
      exact absurd (undecodable.symm.trans extended) (by simp)

/-! ## Valid UTF-8 -/

/-- The code point a range loop sees. -/
def Sym.seen : Sym → Char
  | .rune c => c
  | .bad _ => replacement

/-- Every byte that begins no rune becomes U+FFFD. -/
def toValid (s : GoString) : GoString := utf8 ((runes s).map Sym.seen)

/-- `utf8.ValidString`. -/
def Valid (s : GoString) : Prop := toValid s = s

instance (s : GoString) : Decidable (Valid s) := inferInstanceAs (Decidable (_ = _))

theorem valid_utf8 (chars : List Char) : Valid (utf8 chars) := by
  simp only [Valid, toValid, runes_utf8, List.map_map, Function.comp_def, Sym.seen, List.map_id']

/-- A valid string is the encoding of some characters. -/
theorem valid_iff {s : GoString} : Valid s ↔ ∃ chars, s = utf8 chars :=
  ⟨fun valid => ⟨_, valid.symm⟩, fun ⟨chars, same⟩ => same ▸ valid_utf8 chars⟩

theorem valid_toValid (s : GoString) : Valid (toValid s) := valid_utf8 _

@[simp] theorem toValid_toValid (s : GoString) : toValid (toValid s) = toValid s := valid_toValid s

theorem Valid.append {first second : GoString} (left : Valid first) (right : Valid second) :
    Valid (first ++ second) := by
  obtain ⟨start, rfl⟩ := valid_iff.mp left
  obtain ⟨tail, rfl⟩ := valid_iff.mp right
  exact valid_iff.mpr ⟨start ++ tail, (utf8_append start tail).symm⟩

theorem toValid_eq_nil {s : GoString} : toValid s = [] ↔ s = [] := by
  constructor
  · intro empty
    cases shape : runes s with
    | nil => rw [← ofSyms_runes s, shape]; rfl
    | cons sym rest =>
      rw [toValid, shape, List.map_cons, utf8, List.flatMap_cons] at empty
      exact (encodeRune_ne_nil _ (List.append_eq_nil_iff.mp empty).1).elim
  · rintro rfl
    rfl

/-! ## ASCII -/

def Ascii (s : GoString) : Prop := ∀ byte ∈ s, byte.toNat < 0x80

instance (s : GoString) : Decidable (Ascii s) := List.decidableBAll _ s

/-- An ASCII byte that is neither white space nor a control before the space. -/
def isVisible (byte : UInt8) : Bool := 0x20 < byte.toNat && byte.toNat < 0x80

theorem ascii_of_visible {s : GoString} (visible : ∀ byte ∈ s, isVisible byte = true) : Ascii s := by
  intro byte member
  have own := visible byte member
  simp only [isVisible, Bool.and_eq_true, decide_eq_true_eq] at own
  exact own.2

theorem visible_itoa (value : ℤ) : ∀ byte ∈ itoa value, isVisible byte = true := by
  intro byte member
  rcases mem_itoa member with rfl | digit
  · decide
  · simp only [isDigit, isVisible, Bool.and_eq_true, decide_eq_true_eq] at digit ⊢
    omega

theorem runes_ascii {byte : UInt8} (ascii : byte.toNat < 0x80) (rest : GoString) :
    runes (byte :: rest) = .rune (Char.ofNat byte.toNat) :: runes rest := by
  have split := runes_encodeRune (Char.ofNat byte.toNat) rest
  rwa [encodeRune_one ascii] at split

theorem Ascii.runes_append {front : GoString} (ascii : Ascii front) (rest : GoString) :
    runes (front ++ rest) = runes front ++ runes rest := by
  induction front with
  | nil => rfl
  | cons byte front ih =>
    obtain ⟨own, below⟩ := List.forall_mem_cons.mp ascii
    rw [List.cons_append, runes_ascii own, runes_ascii own, ih below, List.cons_append]

/-- An ASCII byte begins a new rune, whatever stands before it. -/
theorem runes_append_ascii {byte : UInt8} (ascii : byte.toNat < 0x80) (s rest : GoString) :
    runes (s ++ byte :: rest) = runes s ++ runes (byte :: rest) := by
  induction s using runes_induction with
  | nil => rfl
  | rune c tail ih => rw [List.append_assoc, runes_encodeRune, runes_encodeRune, ih, List.cons_append]
  | bad first tail undecodable ih =>
    have stays : decodeRune (first :: tail ++ byte :: rest) = none := by
      cases decoded : decodeRune (first :: tail ++ byte :: rest) with
      | none => rfl
      | some found =>
        obtain ⟨c, more⟩ := found
        have shape := decodeRune_eq_some decoded
        have decodes (left : GoString) (own : first :: tail = encodeRune c ++ left) : False := by
          rw [own, decodeRune_encodeRune] at undecodable
          cases undecodable
        rcases List.append_eq_append_iff.mp shape with ⟨left, own, behind⟩ | ⟨left, own, -⟩
        · cases left with
          | nil => exact (decodes [] (by rw [List.append_nil, own, List.append_nil])).elim
          | cons other left =>
            obtain ⟨rfl, -⟩ := List.cons.inj behind
            -- The rune would have to take in the ASCII byte.
            by_cases narrow : c.toNat < 0x80
            · have size := congrArg List.length own
              simp [encodeRune_ascii narrow] at size
            · have wide := encodeRune_wide narrow byte
                (own ▸ List.mem_append_right _ (List.mem_cons_self ..))
              omega
        · exact (decodes left own).elim
    rw [List.cons_append] at stays ⊢
    rw [runes_bad stays, runes_bad undecodable, ih, List.cons_append]

theorem Ascii.eq_utf8 {s : GoString} (ascii : Ascii s) :
    s = utf8 (s.map fun byte => Char.ofNat byte.toNat) := by
  induction s with
  | nil => rfl
  | cons byte rest ih =>
    rw [List.map_cons, utf8, List.flatMap_cons, encodeRune_one (ascii byte (List.mem_cons_self ..))]
    exact congrArg _ (ih fun other member => ascii other (List.mem_cons_of_mem _ member))

theorem Ascii.valid {s : GoString} (ascii : Ascii s) : Valid s :=
  valid_iff.mpr ⟨_, ascii.eq_utf8⟩

end ShadowNet.Go
