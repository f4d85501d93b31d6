import Mathlib
import ShadowNet.Go.Utf8

/-! # Case and white space

`unicode.ToLower`, `ToUpper` and `IsSpace` are table lookups; the tables of Unicode 15 are written
out, so that folding is total and decidable on every rune. What the string functions above them
need is read off the tables by two finite checks: folding is idempotent, and it neither makes nor
removes white space. Hence trimming and folding commute.
-/

namespace ShadowNet.Go

/-- A run of the simple lower-case mapping: every `stride`-th code point from `lo` to `hi` moves
by one distance, which takes `lo` to `target`. -/
structure CaseRange where
  lo : ℕ
  hi : ℕ
  stride : ℕ
  target : ℕ

/-- The code points past ASCII that have another lower-case form. -/
def caseRanges : List CaseRange :=
  [⟨0xC0, 0xD6, 1, 0xE0⟩, ⟨0xD8, 0xDE, 1, 0xF8⟩, ⟨0x100, 0x12E, 2, 0x101⟩, ⟨0x130, 0x130, 1, 0x69⟩,
  ⟨0x132, 0x136, 2, 0x133⟩, ⟨0x139, 0x147, 2, 0x13A⟩, ⟨0x14A, 0x176, 2, 0x14B⟩,
  ⟨0x178, 0x178, 1, 0xFF⟩, ⟨0x179, 0x17D, 2, 0x17A⟩, ⟨0x181, 0x181, 1, 0x253⟩,
  ⟨0x182, 0x184, 2, 0x183⟩, ⟨0x186, 0x186, 1, 0x254⟩, ⟨0x187, 0x187, 1, 0x188⟩,
  ⟨0x189, 0x18A, 1, 0x256⟩, ⟨0x18B, 0x18B, 1, 0x18C⟩, ⟨0x18E, 0x18E, 1, 0x1DD⟩,
  ⟨0x18F, 0x18F, 1, 0x259⟩, ⟨0x190, 0x190, 1, 0x25B⟩, ⟨0x191, 0x191, 1, 0x192⟩,
  ⟨0x193, 0x193, 1, 0x260⟩, ⟨0x194, 0x194, 1, 0x263⟩, ⟨0x196, 0x196, 1, 0x269⟩,
  ⟨0x197, 0x197, 1, 0x268⟩, ⟨0x198, 0x198, 1, 0x199⟩, ⟨0x19C, 0x19C, 1, 0x26F⟩,
  ⟨0x19D, 0x19D, 1, 0x272⟩, ⟨0x19F, 0x19F, 1, 0x275⟩, ⟨0x1A0, 0x1A4, 2, 0x1A1⟩,
  ⟨0x1A6, 0x1A6, 1, 0x280⟩, ⟨0x1A7, 0x1A7, 1, 0x1A8⟩, ⟨0x1A9, 0x1A9, 1, 0x283⟩,
  ⟨0x1AC, 0x1AC, 1, 0x1AD⟩, ⟨0x1AE, 0x1AE, 1, 0x288⟩, ⟨0x1AF, 0x1AF, 1, 0x1B0⟩,
  ⟨0x1B1, 0x1B2, 1, 0x28A⟩, ⟨0x1B3, 0x1B5, 2, 0x1B4⟩, ⟨0x1B7, 0x1B7, 1, 0x292⟩,
  ⟨0x1B8, 0x1B8, 1, 0x1B9⟩, ⟨0x1BC, 0x1BC, 1, 0x1BD⟩, ⟨0x1C4, 0x1C4, 1, 0x1C6⟩,
  ⟨0x1C5, 0x1C5, 1, 0x1C6⟩, ⟨0x1C7, 0x1C7, 1, 0x1C9⟩, ⟨0x1C8, 0x1C8, 1, 0x1C9⟩,
  ⟨0x1CA, 0x1CA, 1, 0x1CC⟩, ⟨0x1CB, 0x1DB, 2, 0x1CC⟩, ⟨0x1DE, 0x1EE, 2, 0x1DF⟩,
  ⟨0x1F1, 0x1F1, 1, 0x1F3⟩, ⟨0x1F2, 0x1F4, 2, 0x1F3⟩, ⟨0x1F6, 0x1F6, 1, 0x195⟩,
  ⟨0x1F7, 0x1F7, 1, 0x1BF⟩, ⟨0x1F8, 0x21E, 2, 0x1F9⟩, ⟨0x220, 0x220, 1, 0x19E⟩,
  ⟨0x222, 0x232, 2, 0x223⟩, ⟨0x23A, 0x23A, 1, 0x2C65⟩, ⟨0x23B, 0x23B, 1, 0x23C⟩,
  ⟨0x23D, 0x23D, 1, 0x19A⟩, ⟨0x23E, 0x23E, 1, 0x2C66⟩, ⟨0x241, 0x241, 1, 0x242⟩,
  ⟨0x243, 0x243, 1, 0x180⟩, ⟨0x244, 0x244, 1, 0x289⟩, ⟨0x245, 0x245, 1, 0x28C⟩,
  ⟨0x246, 0x24E, 2, 0x247⟩, ⟨0x370, 0x372, 2, 0x371⟩, ⟨0x376, 0x376, 1, 0x377⟩,
  ⟨0x37F, 0x37F, 1, 0x3F3⟩, ⟨0x386, 0x386, 1, 0x3AC⟩, ⟨0x388, 0x38A, 1, 0x3AD⟩,
  ⟨0x38C, 0x38C, 1, 0x3CC⟩, ⟨0x38E, 0x38F, 1, 0x3CD⟩, ⟨0x391, 0x3A1, 1, 0x3B1⟩,
  ⟨0x3A3, 0x3AB, 1, 0x3C3⟩, ⟨0x3CF, 0x3CF, 1, 0x3D7⟩, ⟨0x3D8, 0x3EE, 2, 0x3D9⟩,
  ⟨0x3F4, 0x3F4, 1, 0x3B8⟩, ⟨0x3F7, 0x3F7, 1, 0x3F8⟩, ⟨0x3F9, 0x3F9, 1, 0x3F2⟩,
  ⟨0x3FA, 0x3FA, 1, 0x3FB⟩, ⟨0x3FD, 0x3FF, 1, 0x37B⟩, ⟨0x400, 0x40F, 1, 0x450⟩,
  ⟨0x410, 0x42F, 1, 0x430⟩, ⟨0x460, 0x480, 2, 0x461⟩, ⟨0x48A, 0x4BE, 2, 0x48B⟩,
  ⟨0x4C0, 0x4C0, 1, 0x4CF⟩, ⟨0x4C1, 0x4CD, 2, 0x4C2⟩, ⟨0x4D0, 0x52E, 2, 0x4D1⟩,
  ⟨0x531, 0x556, 1, 0x561⟩, ⟨0x10A0, 0x10C5, 1, 0x2D00⟩, ⟨0x10C7, 0x10C7, 1, 0x2D27⟩,
  ⟨0x10CD, 0x10CD, 1, 0x2D2D⟩, ⟨0x13A0, 0x13EF, 1, 0xAB70⟩, ⟨0x13F0, 0x13F5, 1, 0x13F8⟩,
  ⟨0x1C90, 0x1CBA, 1, 0x10D0⟩, ⟨0x1CBD, 0x1CBF, 1, 0x10FD⟩, ⟨0x1E00, 0x1E94, 2, 0x1E01⟩,
  ⟨0x1E9E, 0x1E9E, 1, 0xDF⟩, ⟨0x1EA0, 0x1EFE, 2, 0x1EA1⟩, ⟨0x1F08, 0x1F0F, 1, 0x1F00⟩,
  ⟨0x1F18, 0x1F1D, 1, 0x1F10⟩, ⟨0x1F28, 0x1F2F, 1, 0x1F20⟩, ⟨0x1F38, 0x1F3F, 1, 0x1F30⟩,
  ⟨0x1F48, 0x1F4D, 1, 0x1F40⟩, ⟨0x1F59, 0x1F5F, 2, 0x1F51⟩, ⟨0x1F68, 0x1F6F, 1, 0x1F60⟩,
  ⟨0x1F88, 0x1F8F, 1, 0x1F80⟩, ⟨0x1F98, 0x1F9F, 1, 0x1F90⟩, ⟨0x1FA8, 0x1FAF, 1, 0x1FA0⟩,
  ⟨0x1FB8, 0x1FB9, 1, 0x1FB0⟩, ⟨0x1FBA, 0x1FBB, 1, 0x1F70⟩, ⟨0x1FBC, 0x1FBC, 1, 0x1FB3⟩,
  ⟨0x1FC8, 0x1FCB, 1, 0x1F72⟩, ⟨0x1FCC, 0x1FCC, 1, 0x1FC3⟩, ⟨0x1FD8, 0x1FD9, 1, 0x1FD0⟩,
  ⟨0x1FDA, 0x1FDB, 1, 0x1F76⟩, ⟨0x1FE8, 0x1FE9, 1, 0x1FE0⟩, ⟨0x1FEA, 0x1FEB, 1, 0x1F7A⟩,
  ⟨0x1FEC, 0x1FEC, 1, 0x1FE5⟩, ⟨0x1FF8, 0x1FF9, 1, 0x1F78⟩, ⟨0x1FFA, 0x1FFB, 1, 0x1F7C⟩,
  ⟨0x1FFC, 0x1FFC, 1, 0x1FF3⟩, ⟨0x2126, 0x2126, 1, 0x3C9⟩, ⟨0x212A, 0x212A, 1, 0x6B⟩,
  ⟨0x212B, 0x212B, 1, 0xE5⟩, ⟨0x2132, 0x2132, 1, 0x214E⟩, ⟨0x2160, 0x216F, 1, 0x2170⟩,
  ⟨0x2183, 0x2183, 1, 0x2184⟩, ⟨0x24B6, 0x24CF, 1, 0x24D0⟩, ⟨0x2C00, 0x2C2F, 1, 0x2C30⟩,
  ⟨0x2C60, 0x2C60, 1, 0x2C61⟩, ⟨0x2C62, 0x2C62, 1, 0x26B⟩, ⟨0x2C63, 0x2C63, 1, 0x1D7D⟩,
  ⟨0x2C64, 0x2C64, 1, 0x27D⟩, ⟨0x2C67, 0x2C6B, 2, 0x2C68⟩, ⟨0x2C6D, 0x2C6D, 1, 0x251⟩,
  ⟨0x2C6E, 0x2C6E, 1, 0x271⟩, ⟨0x2C6F, 0x2C6F, 1, 0x250⟩, ⟨0x2C70, 0x2C70, 1, 0x252⟩,
  ⟨0x2C72, 0x2C72, 1, 0x2C73⟩, ⟨0x2C75, 0x2C75, 1, 0x2C76⟩, ⟨0x2C7E, 0x2C7F, 1, 0x23F⟩,
  ⟨0x2C80, 0x2CE2, 2, 0x2C81⟩, ⟨0x2CEB, 0x2CED, 2, 0x2CEC⟩, ⟨0x2CF2, 0x2CF2, 1, 0x2CF3⟩,
  ⟨0xA640, 0xA66C, 2, 0xA641⟩, ⟨0xA680, 0xA69A, 2, 0xA681⟩, ⟨0xA722, 0xA72E, 2, 0xA723⟩,
  ⟨0xA732, 0xA76E, 2, 0xA733⟩, ⟨0xA779, 0xA77B, 2, 0xA77A⟩, ⟨0xA77D, 0xA77D, 1, 0x1D79⟩,
  ⟨0xA77E, 0xA786, 2, 0xA77F⟩, ⟨0xA78B, 0xA78B, 1, 0xA78C⟩, ⟨0xA78D, 0xA78D, 1, 0x265⟩,
  ⟨0xA790, 0xA792, 2, 0xA791⟩, ⟨0xA796, 0xA7A8, 2, 0xA797⟩, ⟨0xA7AA, 0xA7AA, 1, 0x266⟩,
  ⟨0xA7AB, 0xA7AB, 1, 0x25C⟩, ⟨0xA7AC, 0xA7AC, 1, 0x261⟩, ⟨0xA7AD, 0xA7AD, 1, 0x26C⟩,
  ⟨0xA7AE, 0xA7AE, 1, 0x26A⟩, ⟨0xA7B0, 0xA7B0, 1, 0x29E⟩, ⟨0xA7B1, 0xA7B1, 1, 0x287⟩,
  ⟨0xA7B2, 0xA7B2, 1, 0x29D⟩, ⟨0xA7B3, 0xA7B3, 1, 0xAB53⟩, ⟨0xA7B4, 0xA7C2, 2, 0xA7B5⟩,
  ⟨0xA7C4, 0xA7C4, 1, 0xA794⟩, ⟨0xA7C5, 0xA7C5, 1, 0x282⟩, ⟨0xA7C6, 0xA7C6, 1, 0x1D8E⟩,
  ⟨0xA7C7, 0xA7C9, 2, 0xA7C8⟩, ⟨0xA7D0, 0xA7D0, 1, 0xA7D1⟩, ⟨0xA7D6, 0xA7D8, 2, 0xA7D7⟩,
  ⟨0xA7F5, 0xA7F5, 1, 0xA7F6⟩, ⟨0xFF21, 0xFF3A, 1, 0xFF41⟩, ⟨0x10400, 0x10427, 1, 0x10428⟩,
  ⟨0x104B0, 0x104D3, 1, 0x104D8⟩, ⟨0x10570, 0x1057A, 1, 0x10597⟩, ⟨0x1057C, 0x1058A, 1, 0x105A3⟩,
  ⟨0x1058C, 0x10592, 1, 0x105B3⟩, ⟨0x10594, 0x10595, 1, 0x105BB⟩, ⟨0x10C80, 0x10CB2, 1, 0x10CC0⟩,
  ⟨0x118A0, 0x118BF, 1, 0x118C0⟩, ⟨0x16E40, 0x16E5F, 1, 0x16E60⟩, ⟨0x1E900, 0x1E921, 1, 0x1E922⟩]

def CaseRange.covers (range : CaseRange) (value : ℕ) : Bool :=
  range.lo.ble value && value.ble range.hi && ((value - range.lo) % range.stride).beq 0

def lowerNat (value : ℕ) : ℕ :=
  if value < 0x80 then
    if 65 ≤ value ∧ value ≤ 90 then value + 32 else value
  else
    match caseRanges.find? (·.covers value) with
    | some range => range.target + (value - range.lo)
    | none => value

/-- `unicode.ToLower`. -/
def lowerRune (c : Char) : Char := Char.ofNat (lowerNat c.toNat)

/-- The inclusive runs of `unicode.White_Space`. -/
def spaceRanges : List (ℕ × ℕ) :=
  [(9, 13), (32, 32), (0x85, 0x85), (0xA0, 0xA0), (0x1680, 0x1680), (0x2000, 0x200A),
    (0x2028, 0x2029), (0x202F, 0x202F), (0x205F, 0x205F), (0x3000, 0x3000)]

def isSpaceNat (value : ℕ) : Bool :=
  spaceRanges.any fun range => decide (range.1 ≤ value) && decide (value ≤ range.2)

/-- `unicode.IsSpace`. -/
def isSpace (c : Char) : Bool := isSpaceNat c.toNat

/-- The last code point a run moves to. -/
def CaseRange.last (range : CaseRange) : ℕ := range.target + (range.hi - range.lo)

def CaseRange.reaches (range : CaseRange) (value : ℕ) : Bool :=
  range.target.ble value && value.ble range.last && ((value - range.target) % range.stride).beq 0

/-- Where the upper-case form is not the one that `caseRanges` takes to the code point. -/
def upperExceptions : List (ℕ × ℕ) :=
  [(0xB5, 0x39C), (0xDF, 0xDF), (0x131, 0x49), (0x17F, 0x53), (0x1C5, 0x1C4), (0x1C8, 0x1C7),
    (0x1CB, 0x1CA), (0x1F2, 0x1F1), (0x345, 0x399), (0x3C2, 0x3A3), (0x3D0, 0x392), (0x3D1, 0x398),
    (0x3D5, 0x3A6), (0x3D6, 0x3A0), (0x3F0, 0x39A), (0x3F1, 0x3A1), (0x3F5, 0x395),
    (0x1C80, 0x412), (0x1C81, 0x414), (0x1C82, 0x41E), (0x1C83, 0x421), (0x1C84, 0x422),
    (0x1C85, 0x422), (0x1C86, 0x42A), (0x1C87, 0x462), (0x1C88, 0xA64A), (0x1E9B, 0x1E60),
    (0x1FBE, 0x399)]

def upperNat (value : ℕ) : ℕ :=
  if value < 0x80 then
    if 97 ≤ value ∧ value ≤ 122 then value - 32 else value
  else
    match upperExceptions.find? (·.1 = value) with
    | some (_, upper) => upper
    | none =>
        match caseRanges.find? (·.reaches value) with
        | some range => range.lo + (value - range.target)
        | none => value

/-- `unicode.ToUpper`. -/
def upperRune (c : Char) : Char := Char.ofNat (upperNat c.toNat)

/-! ## What the tables say -/

/-- The image of one run meets no code point that moves again. -/
def CaseRange.settles (first second : CaseRange) : Bool :=
  first.last.blt second.lo || second.hi.blt first.target ||
    ((first.stride.beq 2 || first.lo.beq first.hi) && second.stride.beq 2 &&
      ((first.target + second.lo) % 2).beq 1)

/-- A run stays among the scalar values, off the capitals and off white space. -/
def CaseRange.lands (range : CaseRange) : Bool :=
  Nat.ble 0x80 range.lo &&
    (range.last.blt 0xD800 || (Nat.blt 0xDFFF range.target && range.last.blt 0x110000)) &&
    (range.last.blt 65 || Nat.blt 90 range.target) &&
    spaceRanges.all fun space =>
      (range.hi.blt space.1 || space.2.blt range.lo) &&
        (range.last.blt space.1 || space.2.blt range.target)

private theorem caseRanges_lands : caseRanges.all CaseRange.lands = true := by decide

private theorem caseRanges_settles :
    caseRanges.all (fun first => caseRanges.all first.settles) = true := by decide +kernel

private theorem covers_bounds {range : CaseRange} {value : ℕ} (covered : range.covers value = true) :
    range.lo ≤ value ∧ value ≤ range.hi ∧ (value - range.lo) % range.stride = 0 := by
  simpa only [CaseRange.covers, Bool.and_eq_true, Nat.ble_eq, Nat.beq_eq, and_assoc] using covered

private theorem not_covers_of_settles {first second : CaseRange} {value : ℕ}
    (settled : first.settles second = true) (covered : first.covers value = true) :
    second.covers (first.target + (value - first.lo)) = false := by
  obtain ⟨low, high, aligned⟩ := covers_bounds covered
  by_contra other
  obtain ⟨low', high', aligned'⟩ := covers_bounds (Bool.not_eq_false _ |>.mp other)
  simp only [CaseRange.settles, CaseRange.last, Bool.or_eq_true, Bool.and_eq_true, Nat.blt_eq,
    Nat.beq_eq] at settled
  rcases settled with (below | above) | ⟨⟨two | single, two'⟩, odd⟩
  · omega
  · omega
  · rw [two] at aligned
    rw [two'] at aligned'
    omega
  · rw [two'] at aligned'
    omega

/-- How a code point moves: inside ASCII, by one run of the table, or not at all. -/
private theorem lowerNat_cases (value : ℕ) :
    (value < 0x80 ∧ 65 ≤ value ∧ value ≤ 90 ∧ lowerNat value = value + 32) ∨
    (0x80 ≤ value ∧ ∃ range ∈ caseRanges, range.covers value = true ∧
      lowerNat value = range.target + (value - range.lo)) ∨
    ((value < 65 ∨ 90 < value) ∧ lowerNat value = value) := by
  unfold lowerNat
  split
  · next ascii =>
    split
    · next capital => exact .inl ⟨ascii, capital.1, capital.2, rfl⟩
    · next small => exact .inr (.inr ⟨by omega, rfl⟩)
  · next wide =>
    split
    · next range found =>
      have covered : range.covers value = true := by
        simpa using List.find?_some found
      exact .inr (.inl ⟨by omega, range, List.mem_of_find?_eq_some found, covered, rfl⟩)
    · exact .inr (.inr ⟨by omega, rfl⟩)

private theorem lands_facts {range : CaseRange} (member : range ∈ caseRanges) :
    0x80 ≤ range.lo ∧
    (range.last < 0xD800 ∨ (0xDFFF < range.target ∧ range.last < 0x110000)) ∧
    (range.last < 65 ∨ 90 < range.target) ∧
    ∀ space ∈ spaceRanges, (range.hi < space.1 ∨ space.2 < range.lo) ∧
      (range.last < space.1 ∨ space.2 < range.target) := by
  have lands := List.all_eq_true.mp caseRanges_lands range member
  simpa only [CaseRange.lands, Bool.and_eq_true, Bool.or_eq_true, Nat.ble_eq, Nat.blt_eq,
    List.all_eq_true, and_assoc] using lands

theorem lowerNat_lowerNat (value : ℕ) : lowerNat (lowerNat value) = lowerNat value := by
  rcases lowerNat_cases value with ⟨_, low, high, moved⟩ | ⟨_, range, member, covered, moved⟩ |
    ⟨_, same⟩
  · rw [moved, lowerNat, if_pos (by omega), if_neg (by omega)]
  · obtain ⟨wide, _, capital, _⟩ := lands_facts member
    obtain ⟨low, high, _⟩ := covers_bounds covered
    have settled := List.all_eq_true.mp
      (List.all_eq_true.mp caseRanges_settles range member)
    rw [moved]
    unfold CaseRange.last at capital
    unfold lowerNat
    split
    · rw [if_neg (by omega)]
    · rw [List.find?_eq_none.mpr]
      intro second present
      rw [not_covers_of_settles (settled second present) covered]
      decide
  · rw [same, same]

private theorem lowerNat_valid {value : ℕ} (valid : value.isValidChar) :
    (lowerNat value).isValidChar := by
  change value < 0xD800 ∨ (0xDFFF < value ∧ value < 0x110000) at valid
  change lowerNat value < 0xD800 ∨ (0xDFFF < lowerNat value ∧ lowerNat value < 0x110000)
  rcases lowerNat_cases value with ⟨_, low, high, moved⟩ | ⟨_, range, member, covered, moved⟩ |
    ⟨_, same⟩
  · omega
  · obtain ⟨_, scalar, _⟩ := lands_facts member
    obtain ⟨low, high, _⟩ := covers_bounds covered
    unfold CaseRange.last at scalar
    omega
  · rw [same]; exact valid

private theorem isSpaceNat_iff (value : ℕ) : isSpaceNat value = true ↔
    ∃ space ∈ spaceRanges, space.1 ≤ value ∧ value ≤ space.2 := by
  simp only [isSpaceNat, List.any_eq_true, Bool.and_eq_true, decide_eq_true_eq]

theorem isSpaceNat_lowerNat (value : ℕ) : isSpaceNat (lowerNat value) = isSpaceNat value := by
  rcases lowerNat_cases value with ⟨_, low, high, moved⟩ | ⟨_, range, member, covered, moved⟩ |
    ⟨_, same⟩
  · rw [moved, Bool.eq_iff_iff, isSpaceNat_iff, isSpaceNat_iff]
    simp only [spaceRanges, List.mem_cons, List.not_mem_nil, or_false, exists_eq_or_imp,
      exists_eq_left]
    omega
  · obtain ⟨_, _, _, spaces⟩ := lands_facts member
    obtain ⟨low, high, _⟩ := covers_bounds covered
    unfold CaseRange.last at spaces
    rw [Bool.eq_iff_iff, isSpaceNat_iff, isSpaceNat_iff]
    constructor
    · rintro ⟨space, present, inside⟩
      have apart := (spaces space present).2
      omega
    · rintro ⟨space, present, inside⟩
      have apart := (spaces space present).1
      omega
  · rw [same]

private theorem toNat_lowerRune (c : Char) : (lowerRune c).toNat = lowerNat c.toNat := by
  have valid : (lowerNat c.toNat).isValidChar := lowerNat_valid c.valid
  rw [lowerRune, Char.ofNat, dif_pos valid]
  rfl

@[simp] theorem lowerRune_lowerRune (c : Char) : lowerRune (lowerRune c) = lowerRune c := by
  conv_lhs => rw [lowerRune, toNat_lowerRune, lowerNat_lowerNat]
  rfl

@[simp] theorem isSpace_lowerRune (c : Char) : isSpace (lowerRune c) = isSpace c := by
  rw [isSpace, toNat_lowerRune, isSpaceNat_lowerNat, isSpace]

/-! ## `strings.ToLower` -/

/-- `strings.ToLower`: a byte outside UTF-8 becomes U+FFFD, which has no other case. -/
def toLower (s : GoString) : GoString := utf8 ((runes s).map fun sym => lowerRune sym.seen)

/-- `strings.ToUpper`. -/
def toUpper (s : GoString) : GoString := utf8 ((runes s).map fun sym => upperRune sym.seen)

theorem valid_toLower (s : GoString) : Valid (toLower s) := valid_utf8 _

@[simp] theorem runes_toLower (s : GoString) :
    runes (toLower s) = (runes s).map fun sym => .rune (lowerRune sym.seen) := by
  rw [toLower, runes_utf8, List.map_map]
  rfl

@[simp] theorem toLower_toLower (s : GoString) : toLower (toLower s) = toLower s := by
  conv_lhs => rw [toLower, runes_toLower, List.map_map]
  simp only [Function.comp_def, Sym.seen, lowerRune_lowerRune]
  rfl

theorem toLower_append_ascii {byte : UInt8} (ascii : byte.toNat < 0x80) (s rest : GoString) :
    toLower (s ++ byte :: rest) = toLower s ++ toLower (byte :: rest) := by
  rw [toLower, runes_append_ascii ascii, List.map_append, utf8_append]
  rfl

theorem Ascii.toLower_append {front : GoString} (ascii : Ascii front) (rest : GoString) :
    toLower (front ++ rest) = toLower front ++ toLower rest := by
  rw [toLower, ascii.runes_append, List.map_append, utf8_append]
  rfl

@[simp] theorem toLower_toValid (s : GoString) : toLower (toValid s) = toLower s := by
  rw [toLower, toValid, runes_utf8, List.map_map, List.map_map]
  rfl

/-! ## `strings.TrimSpace` -/

def Sym.isSpace : Sym → Bool
  | .rune c => Go.isSpace c
  | .bad _ => false

def trimSyms (syms : List Sym) : List Sym := (syms.dropWhile Sym.isSpace).rdropWhile Sym.isSpace

/-- `strings.TrimSpace`. -/
def trimSpace (s : GoString) : GoString := ofSyms (trimSyms (runes s))

/-- A string of white space only, in the source `strings.TrimSpace(s) == ""`. -/
def isBlank (s : GoString) : Bool := trimSpace s = []

theorem infix_trimSyms (syms : List Sym) : trimSyms syms <:+: syms := by
  obtain ⟨front, first⟩ := List.dropWhile_suffix (l := syms) Sym.isSpace
  obtain ⟨back, second⟩ := List.rdropWhile_prefix Sym.isSpace (syms.dropWhile Sym.isSpace)
  exact ⟨front, back, by rw [trimSyms, List.append_assoc, second, first]⟩

theorem infix_trimSpace (s : GoString) : trimSpace s <:+: s := by
  obtain ⟨front, back, whole⟩ := infix_trimSyms (runes s)
  refine ⟨ofSyms front, ofSyms back, ?_⟩
  rw [trimSpace, ← ofSyms_append, ← ofSyms_append, whole, ofSyms_runes]

@[simp] theorem runes_trimSpace (s : GoString) : runes (trimSpace s) = trimSyms (runes s) := by
  obtain ⟨front, back, whole⟩ := infix_trimSyms (runes s)
  have segmented := segmented_runes s
  rw [← whole] at segmented
  exact (segmented_append (segmented_append segmented).1).2

private theorem isSpace_replacement : isSpace replacement = false := by decide

private theorem dropWhile_idem {α : Type*} (p : α → Bool) (items : List α) :
    (items.dropWhile p).dropWhile p = items.dropWhile p := by
  induction items with
  | nil => rfl
  | cons item rest ih =>
    cases keep : p item with
    | true => simpa [keep] using ih
    | false => simp [keep]

theorem trimSyms_trimSyms (syms : List Sym) : trimSyms (trimSyms syms) = trimSyms syms := by
  have front : (trimSyms syms).dropWhile Sym.isSpace = trimSyms syms := by
    cases shape : trimSyms syms with
    | nil => rfl
    | cons sym rest =>
      obtain ⟨back, second⟩ := List.rdropWhile_prefix Sym.isSpace (syms.dropWhile Sym.isSpace)
      have start : (syms.dropWhile Sym.isSpace).dropWhile Sym.isSpace =
        syms.dropWhile Sym.isSpace := dropWhile_idem _ _
      rw [← second, ← trimSyms, shape, List.cons_append, List.dropWhile_cons] at start
      split at start
      · have size := congrArg List.length start
        have bound := (List.dropWhile_suffix (l := rest ++ back) Sym.isSpace).length_le
        simp only [List.length_cons, List.length_append] at size bound
        omega
      · next solid => rw [List.dropWhile_cons, if_neg solid]
  conv_lhs => rw [trimSyms, front]
  rw [trimSyms, List.rdropWhile_idempotent]

@[simp] theorem trimSpace_trimSpace (s : GoString) : trimSpace (trimSpace s) = trimSpace s := by
  conv_lhs => rw [trimSpace, runes_trimSpace, trimSyms_trimSyms]
  rfl

private theorem trimSyms_map {f : Sym → Sym} (same : ∀ sym, (f sym).isSpace = sym.isSpace)
    (syms : List Sym) : trimSyms (syms.map f) = (trimSyms syms).map f := by
  have shared : Sym.isSpace ∘ f = Sym.isSpace := funext same
  simp only [trimSyms, List.rdropWhile, List.dropWhile_map, ← List.map_reverse, shared]

/-- Folding a byte outside UTF-8 to U+FFFD changes no white space, so trimming commutes with it. -/
theorem trimSpace_toLower (s : GoString) : trimSpace (toLower s) = toLower (trimSpace s) := by
  have same : ∀ sym : Sym, (Sym.rune (lowerRune sym.seen)).isSpace = sym.isSpace := by
    rintro (c | byte)
    · exact isSpace_lowerRune c
    · exact (isSpace_lowerRune replacement).trans isSpace_replacement
  apply runes_injective
  rw [runes_trimSpace, runes_toLower, runes_toLower, runes_trimSpace]
  exact trimSyms_map same _

theorem Valid.trimSpace {s : GoString} (valid : Valid s) : Valid (trimSpace s) := by
  have sound : ∀ sym ∈ runes s, ∃ c, sym = .rune c := by
    obtain ⟨chars, rfl⟩ := valid_iff.mp valid
    simp
  have shape : ∀ syms : List Sym, (∀ sym ∈ syms, ∃ c, sym = .rune c) →
      ofSyms syms = utf8 (syms.map Sym.seen) := by
    intro syms all
    induction syms with
    | nil => rfl
    | cons sym rest ih =>
      obtain ⟨c, rfl⟩ := all sym (List.mem_cons_self ..)
      exact congrArg (encodeRune c ++ ·) (ih fun other member => all other (List.mem_cons_of_mem _ member))
  refine valid_iff.mpr ⟨_, shape _ fun sym member => sound sym ?_⟩
  exact (infix_trimSyms (runes s)).subset member

theorem isBlank_trimSpace (s : GoString) : isBlank (trimSpace s) = isBlank s := by
  rw [isBlank, trimSpace_trimSpace, isBlank]

theorem trimSyms_eq_nil {syms : List Sym} :
    trimSyms syms = [] ↔ ∀ sym ∈ syms, sym.isSpace = true := by
  rw [trimSyms, List.rdropWhile_eq_nil_iff]
  constructor
  · intro spaces
    have nothing : syms.dropWhile Sym.isSpace = [] := by
      by_contra filled
      have first := List.head_dropWhile_not Sym.isSpace filled
      rw [spaces _ (List.head_mem filled)] at first
      cases first
    exact List.dropWhile_eq_nil_iff.mp nothing
  · intro spaces sym member
    exact spaces sym ((List.dropWhile_suffix Sym.isSpace).subset member)

/-- A blank string consists of white space. -/
theorem isBlank_iff {s : GoString} :
    isBlank s = true ↔ ∀ sym ∈ runes s, sym.isSpace = true := by
  rw [isBlank, decide_eq_true_eq, ← trimSyms_eq_nil, ← runes_trimSpace]
  exact ⟨fun empty => by rw [empty, runes_nil], fun empty => runes_injective empty⟩

/-- White space is well formed. -/
theorem isBlank_eq_utf8 {s : GoString} (blank : isBlank s = true) :
    ∃ chars, s = utf8 chars ∧ ∀ c ∈ chars, isSpace c = true := by
  have spaces := isBlank_iff.mp blank
  have shape : ∃ chars : List Char, runes s = chars.map .rune ∧ ∀ c ∈ chars, isSpace c = true := by
    generalize runes s = syms at spaces
    induction syms with
    | nil => exact ⟨[], rfl, by simp⟩
    | cons sym rest ih =>
      obtain ⟨own, others⟩ := List.forall_mem_cons.mp spaces
      obtain ⟨chars, rfl, each⟩ := ih others
      cases sym with
      | bad byte => cases own
      | rune c => exact ⟨c :: chars, rfl, List.forall_mem_cons.mpr ⟨own, each⟩⟩
  obtain ⟨chars, shape, each⟩ := shape
  exact ⟨chars, runes_injective (shape.trans (runes_utf8 chars).symm), each⟩

/-! ## Strings of ASCII bytes -/

private theorem isSpace_visible : ∀ value < 0x80, 0x20 < value →
    isSpace (Char.ofNat value) = false := by decide

private theorem visible_rune {byte : UInt8} (visible : isVisible byte = true) :
    byte.toNat < 0x80 ∧ isSpace (Char.ofNat byte.toNat) = false := by
  simp only [isVisible, Bool.and_eq_true, decide_eq_true_eq] at visible
  exact ⟨visible.2, isSpace_visible byte.toNat visible.2 visible.1⟩

private theorem runes_solid {s : GoString} (visible : ∀ byte ∈ s, isVisible byte = true) :
    ∀ sym ∈ runes s, sym.isSpace = false := by
  induction s with
  | nil => simp
  | cons byte rest ih =>
    obtain ⟨own, below⟩ := List.forall_mem_cons.mp visible
    obtain ⟨low, solid⟩ := visible_rune own
    rw [runes_ascii low]
    exact List.forall_mem_cons.mpr ⟨solid, ih below⟩

/-- Trimming leaves strings of visible bytes alone. -/
theorem trimSpace_visible {s : GoString} (visible : ∀ byte ∈ s, isVisible byte = true) :
    trimSpace s = s := by
  have solid := runes_solid visible
  have front : (runes s).dropWhile Sym.isSpace = runes s :=
    List.dropWhile_eq_self_iff.mpr fun nonempty => by simp [solid _ (List.getElem_mem nonempty)]
  have back : (runes s).rdropWhile Sym.isSpace = runes s :=
    List.rdropWhile_eq_self_iff.mpr fun nonempty => by simp [solid _ (List.getLast_mem nonempty)]
  rw [trimSpace, trimSyms, front, back, ofSyms_runes]

/-- Trimming leaves a visible byte in front where it is. -/
theorem trimSpace_cons_visible {byte : UInt8} (visible : isVisible byte = true) (rest : GoString) :
    ∃ kept, trimSpace (byte :: rest) = byte :: kept := by
  obtain ⟨low, plain⟩ := visible_rune visible
  have solid : (Sym.rune (Char.ofNat byte.toNat)).isSpace = false := plain
  have front : trimSyms (runes (byte :: rest)) =
      (.rune (Char.ofNat byte.toNat) :: runes rest).rdropWhile Sym.isSpace := by
    rw [trimSyms, runes_ascii low, List.dropWhile_cons_of_neg (by simp [solid])]
  have filled : (.rune (Char.ofNat byte.toNat) :: runes rest).rdropWhile Sym.isSpace ≠ [] := by
    rw [Ne, List.rdropWhile_eq_nil_iff, List.forall_mem_cons, solid]
    simp
  obtain empty | ⟨kept, shape, -⟩ := List.prefix_cons_iff.mp
    (List.rdropWhile_prefix Sym.isSpace (.rune (Char.ofNat byte.toNat) :: runes rest))
  · exact absurd empty filled
  · refine ⟨ofSyms kept, ?_⟩
    rw [trimSpace, front, shape]
    exact congrArg (· ++ ofSyms kept) (encodeRune_one low)

/-- The rune that a visible byte ends. -/
private theorem isSpace_last {chars : List Char} {last : UInt8} (ends : (utf8 chars).getLast? = some last)
    (visible : isVisible last = true) : ∃ front c, chars = front ++ [c] ∧ isSpace c = false := by
  obtain rfl | ⟨front, c, rfl⟩ := List.eq_nil_or_concat' chars
  · cases ends
  refine ⟨front, c, rfl, ?_⟩
  have own : last ∈ encodeRune c := by
    rw [utf8_append, List.getLast?_append_of_ne_nil _ (by simp [utf8])] at ends
    have member := List.mem_of_getLast? ends
    rwa [utf8, List.flatMap_singleton] at member
  obtain ⟨low, plain⟩ := visible_rune visible
  by_cases ascii : c.toNat < 0x80
  · rw [encodeRune_ascii ascii, List.mem_singleton] at own
    rw [own, UInt8.toNat_ofNat', Nat.mod_eq_of_lt (by omega), Char.ofNat_toNat] at plain
    exact plain
  · exact absurd (encodeRune_wide ascii last own) (by omega)

/-- Trimming takes the white space from around a string with visible ends. -/
theorem trimSpace_padded {before s after : GoString} {first last : UInt8}
    (leading : isBlank before = true) (trailing : isBlank after = true) (valid : Valid s)
    (starts : s.head? = some first) (firstVisible : isVisible first = true)
    (ends : s.getLast? = some last) (lastVisible : isVisible last = true) :
    trimSpace (before ++ s ++ after) = s := by
  obtain ⟨low, plain⟩ := visible_rune firstVisible
  obtain ⟨spaces, rfl, spacesBlank⟩ := isBlank_eq_utf8 leading
  obtain ⟨later, rfl, laterBlank⟩ := isBlank_eq_utf8 trailing
  obtain ⟨chars, rfl⟩ := valid_iff.mp valid
  obtain ⟨front, c, rfl, solid⟩ := isSpace_last ends lastVisible
  obtain ⟨rest, shape⟩ : ∃ rest, (front ++ [c]).map Sym.rune =
      .rune (Char.ofNat first.toNat) :: rest := by
    obtain ⟨rest, shape⟩ := List.head?_eq_some_iff.mp starts
    have split := runes_utf8 (front ++ [c])
    rw [shape, runes_ascii low] at split
    exact ⟨runes rest, split.symm⟩
  have headSolid : ¬ (Sym.rune (Char.ofNat first.toNat)).isSpace = true := by
    simpa [Sym.isSpace] using plain
  have lastSolid : ¬ (Sym.rune c).isSpace = true := by simpa [Sym.isSpace] using solid
  have blank {chars : List Char} (each : ∀ c ∈ chars, isSpace c = true) :
      ∀ sym ∈ chars.map Sym.rune, sym.isSpace = true := by
    intro sym member
    obtain ⟨c, inside, rfl⟩ := List.mem_map.mp member
    exact each c inside
  have whole : runes (utf8 spaces ++ utf8 (front ++ [c]) ++ utf8 later) =
      spaces.map Sym.rune ++ ((front ++ [c]).map Sym.rune ++ later.map Sym.rune) := by
    rw [← utf8_append, ← utf8_append, runes_utf8, List.map_append, List.map_append,
      List.append_assoc]
  have dropped : (spaces.map Sym.rune ++ ((front ++ [c]).map Sym.rune ++ later.map Sym.rune)).dropWhile
      Sym.isSpace = (front ++ [c]).map Sym.rune ++ later.map Sym.rune := by
    rw [List.dropWhile_append_of_pos (blank spacesBlank), shape, List.cons_append,
      List.dropWhile_cons_of_neg headSolid]
  have back : ((front ++ [c]).map Sym.rune ++ later.map Sym.rune).rdropWhile Sym.isSpace =
      (front ++ [c]).map Sym.rune := by
    rw [List.rdropWhile, List.reverse_append, List.dropWhile_append_of_pos, List.map_append,
      List.reverse_append, List.map_singleton, List.reverse_singleton, List.singleton_append,
      List.dropWhile_cons_of_neg lastSolid, List.reverse_cons, List.reverse_reverse]
    exact fun sym member => blank laterBlank sym (List.mem_reverse.mp member)
  rw [trimSpace, whole, trimSyms, dropped, back, utf8, ofSyms, List.flatMap_map]
  rfl

/-- A string with a visible byte is not blank. -/
theorem isBlank_of_visible {s : GoString} {byte : UInt8} (member : byte ∈ s)
    (visible : isVisible byte = true) : isBlank s = false := by
  obtain ⟨ascii, plain⟩ := visible_rune visible
  rw [Bool.eq_false_iff]
  intro blank
  obtain ⟨chars, rfl, spaces⟩ := isBlank_eq_utf8 blank
  obtain ⟨c, inside, own⟩ := List.mem_flatMap.mp member
  have space := spaces c inside
  have low : c.toNat < 0x80 := by
    by_contra wide
    have high := encodeRune_wide wide byte own
    omega
  rw [encodeRune_ascii low, List.mem_singleton] at own
  rw [own, UInt8.toNat_ofNat', Nat.mod_eq_of_lt (by omega), Char.ofNat_toNat, space] at plain
  cases plain

/-- An ASCII byte that is neither a capital letter nor white space. -/
def isFolded (byte : UInt8) : Bool := isVisible byte && !(65 ≤ byte.toNat && byte.toNat ≤ 90)

private theorem lowerRune_folded : ∀ value < 0x80, ¬(65 ≤ value ∧ value ≤ 90) →
    lowerRune (Char.ofNat value) = Char.ofNat value := by
  decide

/-- Folding leaves such strings alone. -/
theorem toLower_folded {s : GoString} (folded : ∀ byte ∈ s, isFolded byte = true) :
    toLower s = s := by
  apply runes_injective
  rw [runes_toLower]
  induction s with
  | nil => rfl
  | cons byte rest ih =>
    obtain ⟨own, below⟩ := List.forall_mem_cons.mp folded
    simp only [isFolded, isVisible, Bool.and_eq_true, Bool.not_eq_true', decide_eq_true_eq,
      Bool.and_eq_false_iff, decide_eq_false_iff_not] at own
    rw [runes_ascii own.1.2, List.map_cons, Sym.seen, lowerRune_folded _ own.1.2 (by omega)]
    exact congrArg _ (ih below)

/-- Trimming leaves such strings alone. -/
theorem trimSpace_folded {s : GoString} (folded : ∀ byte ∈ s, isFolded byte = true) :
    trimSpace s = s :=
  trimSpace_visible fun byte member => ((Bool.and_eq_true _ _).mp (folded byte member)).1

/-! ## Bytes that neither folding nor trimming touches -/

/-- A visible ASCII byte that is no letter. -/
def isSolid (byte : UInt8) : Bool :=
  isVisible byte && !(65 ≤ byte.toNat && byte.toNat ≤ 90) &&
    !(97 ≤ byte.toNat && byte.toNat ≤ 122)

/-- The image of a run is outside ASCII or a letter. -/
def CaseRange.soft (range : CaseRange) : Bool :=
  Nat.ble 0x80 range.target || (Nat.ble 97 range.target && Nat.ble range.last 122)

private theorem caseRanges_soft : caseRanges.all CaseRange.soft = true := by decide

private theorem sum_dropWhile {α : Type} {p : α → Bool} {f : α → ℕ} (none : ∀ item, p item = true → f item = 0)
    (items : List α) : ((items.dropWhile p).map f).sum = (items.map f).sum := by
  induction items with
  | nil => rfl
  | cons item rest ih =>
    rw [List.dropWhile_cons, List.map_cons, List.sum_cons]
    split_ifs with dropped
    · rw [ih, none item dropped, Nat.zero_add]
    · rw [List.map_cons, List.sum_cons]

private theorem replacement_wide : ¬ replacement.toNat < 0x80 := by decide

section

variable {counts : UInt8 → Bool} (solid : ∀ byte, counts byte = true → isSolid byte = true)
include solid

theorem countP_wide {c : Char} (wide : ¬ c.toNat < 0x80) : (encodeRune c).countP counts = 0 := by
  apply List.countP_eq_zero.mpr
  intro byte member counted
  have high := encodeRune_wide wide byte member
  have own := solid byte counted
  simp only [isSolid, isVisible, Bool.and_eq_true, decide_eq_true_eq] at own
  omega

private theorem countP_letter {c : Char}
    (letter : 65 ≤ c.toNat ∧ c.toNat ≤ 90 ∨ 97 ≤ c.toNat ∧ c.toNat ≤ 122) :
    (encodeRune c).countP counts = 0 := by
  rw [encodeRune_ascii (by omega)]
  apply List.countP_eq_zero.mpr
  intro byte member counted
  obtain rfl := List.mem_singleton.mp member
  have own := solid _ counted
  have value : (UInt8.ofNat c.toNat).toNat = c.toNat := by
    rw [UInt8.toNat_ofNat', Nat.mod_eq_of_lt (by omega)]
  simp only [isSolid, Bool.and_eq_true, Bool.not_eq_true', Bool.and_eq_false_iff,
    decide_eq_false_iff_not, value] at own
  omega

private theorem countP_lowerRune (c : Char) :
    (encodeRune (lowerRune c)).countP counts = (encodeRune c).countP counts := by
  have moved := toNat_lowerRune c
  rcases lowerNat_cases c.toNat with ⟨-, low, high, same⟩ | ⟨wide, range, member, covered, same⟩ |
    ⟨-, same⟩
  · rw [countP_letter solid (.inl ⟨low, high⟩), countP_letter solid (.inr (by omega))]
  · have soft := List.all_eq_true.mp caseRanges_soft range member
    obtain ⟨low, high, -⟩ := covers_bounds covered
    simp only [CaseRange.soft, CaseRange.last, Bool.or_eq_true, Bool.and_eq_true, Nat.ble_eq]
      at soft
    rw [countP_wide solid (c := c) (by omega)]
    rcases soft with far | letter
    · exact countP_wide solid (by omega)
    · exact countP_letter solid (.inr (by omega))
  · rw [lowerRune, same, Char.ofNat_toNat]

private theorem countP_bad {byte : UInt8} {rest : Bytes} (undecodable : decodeRune (byte :: rest) = none) :
    counts byte = false := by
  by_contra counted
  have own := solid byte (Bool.not_eq_false _ |>.mp counted)
  simp only [isSolid, isVisible, Bool.and_eq_true, decide_eq_true_eq] at own
  have decoded := decodeRune_encodeRune (Char.ofNat byte.toNat) rest
  rw [encodeRune_one own.1.1.2, List.singleton_append, undecodable] at decoded
  cases decoded

private theorem countP_seen {f : Char → Char}
    (keeps : ∀ c, (encodeRune (f c)).countP counts = (encodeRune c).countP counts) (s : GoString) :
    (utf8 ((runes s).map fun sym => f sym.seen)).countP counts = s.countP counts := by
  induction s using runes_induction with
  | nil => rfl
  | rune c rest ih =>
    rw [runes_encodeRune, List.map_cons, utf8, List.flatMap_cons, List.countP_append,
      List.countP_append, Sym.seen, keeps]
    exact congrArg _ ih
  | bad byte rest undecodable ih =>
    rw [runes_bad undecodable, List.map_cons, utf8, List.flatMap_cons, List.countP_append, Sym.seen,
      keeps, countP_wide solid replacement_wide, Nat.zero_add,
      List.countP_cons_of_neg (by rw [countP_bad solid undecodable]; exact Bool.false_ne_true)]
    exact ih

theorem countP_toLower (s : GoString) : (toLower s).countP counts = s.countP counts :=
  countP_seen solid (countP_lowerRune solid) s

theorem countP_toValid (s : GoString) : (toValid s).countP counts = s.countP counts :=
  countP_seen solid (fun _ => rfl) s

theorem countP_trimSpace (s : GoString) : (trimSpace s).countP counts = s.countP counts := by
  have space (sym : Sym) (blank : sym.isSpace = true) : sym.bytes.countP counts = 0 := by
    cases sym with
    | bad byte => cases blank
    | rune c =>
      by_cases ascii : c.toNat < 0x80
      · have low : ¬ 0x20 < c.toNat := by
          intro high
          have visible := isSpace_visible c.toNat ascii high
          rw [Char.ofNat_toNat] at visible
          exact absurd (visible.symm.trans blank) Bool.false_ne_true
        rw [Sym.bytes, encodeRune_ascii ascii]
        apply List.countP_eq_zero.mpr
        intro byte member counted
        obtain rfl := List.mem_singleton.mp member
        have own := solid _ counted
        simp only [isSolid, isVisible, Bool.and_eq_true, decide_eq_true_eq] at own
        rw [UInt8.toNat_ofNat', Nat.mod_eq_of_lt (by omega)] at own
        exact low own.1.1.1
      · exact countP_wide solid ascii
  have total (syms : List Sym) :
      (ofSyms syms).countP counts = (syms.map fun sym => sym.bytes.countP counts).sum := by
    rw [ofSyms, List.countP_flatMap]
    rfl
  rw [trimSpace, total, trimSyms, List.rdropWhile, List.map_reverse, List.sum_reverse,
    sum_dropWhile space, List.map_reverse, List.sum_reverse, sum_dropWhile space, ← total]
  exact congrArg (List.countP counts) (ofSyms_runes s)

end

end ShadowNet.Go
