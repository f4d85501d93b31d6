import Mathlib

/-! # Byte strings

A Go string is an immutable byte sequence; nothing makes it valid UTF-8. Strings and `[]byte`
share one list representation, ordered bytewise as Go's `<` orders strings. Decimal integers are
written and read here because `strconv` works on the bytes directly.
-/

namespace ShadowNet.Go

abbrev Bytes := List UInt8

/-- A Go `string`: any bytes at all. -/
abbrev GoString := List UInt8

/-- The bytes of a source literal. -/
def lit (text : String) : GoString := text.toByteArray.data.toList

theorem lit_append (first second : String) : lit (first ++ second) = lit first ++ lit second := by
  rw [lit, String.toByteArray_append, lit, lit, ByteArray.data_append, Array.toList_append]

/-- A literal by its characters: this is how a long one is evaluated. -/
theorem lit_ofList (characters : List Char) :
    lit (String.ofList characters) = characters.flatMap String.utf8EncodeChar := by
  rw [lit, String.toByteArray_ofList, List.utf8Encode, List.data_toByteArray]

/-- A property of the bytes of a closed string is checked byte by byte. -/
theorem forall_mem_of_all {α : Type} {p : α → Prop} [DecidablePred p] {s : List α}
    (all : s.all (decide <| p ·) = true) : ∀ byte ∈ s, p byte := by
  simpa using all

/-- What is related to the items of a list one by one is there for each. -/
theorem forall₂_mem {α β : Type} {R : α → β → Prop} {as : List α} {bs : List β}
    (each : List.Forall₂ R as bs) : ∀ a ∈ as, ∃ b ∈ bs, R a b := by
  induction each with
  | nil => exact List.forall_mem_nil _
  | cons here _ ih =>
    refine List.forall_mem_cons.mpr ⟨⟨_, List.mem_cons_self .., here⟩, fun a member => ?_⟩
    obtain ⟨b, inside, related⟩ := ih a member
    exact ⟨b, List.mem_cons_of_mem _ inside, related⟩

instance instLinearOrderByte : LinearOrder UInt8 where
  le_refl a := UInt8.le_refl a
  le_trans _ _ _ := UInt8.le_trans
  le_antisymm _ _ := UInt8.le_antisymm
  le_total a b := UInt8.le_total a b
  lt_iff_le_not_ge a b := by
    rw [UInt8.lt_iff_toNat_lt, UInt8.le_iff_toNat_le, UInt8.le_iff_toNat_le]
    omega
  toDecidableLE := inferInstance
  toDecidableEq := inferInstance
  toDecidableLT := inferInstance

instance instLawfulBEqByte : LawfulBEq UInt8 := inferInstance

instance instLawfulBEqGoString : LawfulBEq GoString := inferInstance

/-- `strings.HasPrefix`. -/
def hasPrefix (s start : GoString) : Bool := decide (start <+: s)

/-- `strings.HasSuffix`. -/
def hasSuffix (s tail : GoString) : Bool := decide (tail <:+ s)

/-- `strings.Contains`. -/
def contains (s part : GoString) : Bool := decide (part <:+: s)

/-- `strings.Split(s, string(sep))` for a one-byte separator. -/
def splitOn (sep : UInt8) : GoString → List GoString
  | [] => [[]]
  | byte :: rest =>
      if byte = sep then [] :: splitOn sep rest
      else
        match splitOn sep rest with
        | [] => [[byte]]
        | first :: others => (byte :: first) :: others

/-- A text without the separator is one part. -/
theorem splitOn_single {sep : UInt8} {s : GoString} (flat : sep ∉ s) : splitOn sep s = [s] := by
  induction s with
  | nil => rfl
  | cons byte rest ih =>
    rw [List.mem_cons, not_or] at flat
    rw [splitOn, if_neg (Ne.symm flat.1), ih flat.2]

/-- `strings.Cut` at one byte. -/
def cut (sep : UInt8) (s : GoString) : Option (GoString × GoString) :=
  match s.dropWhile (· ≠ sep) with
  | [] => none
  | _ :: after => some (s.takeWhile (· ≠ sep), after)

/-- `strings.SplitN` for a one-byte separator and a count that is not negative. -/
def splitN (sep : UInt8) : ℕ → GoString → List GoString
  | 0, _ => []
  | 1, s => [s]
  | count + 2, s =>
      match cut sep s with
      | none => [s]
      | some (before, after) => before :: splitN sep (count + 1) after

/-- A text is cut at the first separator. -/
theorem cut_append {sep : UInt8} {before : GoString} (flat : sep ∉ before) (after : GoString) :
    cut sep (before ++ sep :: after) = some (before, after) := by
  have other : ∀ byte ∈ before, decide (byte ≠ sep) = true := fun byte member =>
    decide_eq_true fun same => flat (same ▸ member)
  rw [cut, List.dropWhile_append_of_pos other, List.takeWhile_append_of_pos other]
  simp

theorem cut_eq_none {sep : UInt8} {s : GoString} (flat : sep ∉ s) : cut sep s = none := by
  have other : ∀ byte ∈ s, decide (byte ≠ sep) = true := fun byte member =>
    decide_eq_true fun same => flat (same ▸ member)
  rw [cut, List.dropWhile_eq_nil_iff.mpr other]

theorem splitN_append {sep : UInt8} {before : GoString} (flat : sep ∉ before) (count : ℕ)
    (after : GoString) :
    splitN sep (count + 2) (before ++ sep :: after) = before :: splitN sep (count + 1) after := by
  rw [splitN, cut_append flat]

def isLowerLetter (byte : UInt8) : Bool := 97 ≤ byte.toNat && byte.toNat ≤ 122

/-! ## Substrings -/

/-- The longest front whose bytes pass a test ends at a byte that fails it. -/
theorem takeWhile_eq_iff {p : UInt8 → Bool} {text front : GoString} :
    text.takeWhile p = front ↔
      ∃ after, text = front ++ after ∧ (∀ byte ∈ front, p byte = true) ∧
        ∀ byte ∈ after.head?, p byte = false := by
  constructor
  · rintro rfl
    refine ⟨text.dropWhile p, List.takeWhile_append_dropWhile.symm, fun byte member =>
      List.mem_takeWhile_imp member, fun byte first => ?_⟩
    have stops := List.head?_dropWhile_not p text
    rwa [Option.mem_def.mp first] at stops
  · rintro ⟨after, rfl, front, stops⟩
    rw [List.takeWhile_append_of_pos front]
    cases after with
    | nil => simp
    | cons byte rest => simp [stops byte rfl]

theorem takeWhile_append_stop {p : UInt8 → Bool} {sep : UInt8} (stops : p sep = false)
    (front rest : GoString) : (front ++ sep :: rest).takeWhile p = front.takeWhile p := by
  induction front with
  | nil => simp [stops]
  | cons byte front ih =>
    rw [List.cons_append, List.takeWhile_cons, List.takeWhile_cons, ih]

private theorem dropInfix?_go_eq_none {part s : GoString} (nonempty : part ≠ []) (before : GoString) :
    List.dropInfix?.go part s before = none ↔ ¬ part <:+: s := by
  induction s generalizing before with
  | nil => simp [List.dropInfix?.go, nonempty]
  | cons byte rest ih =>
    rw [List.dropInfix?.go, List.infix_cons_iff, not_or]
    cases dropped : (byte :: rest).dropPrefix? part with
    | none =>
      have apart : ¬ part <+: byte :: rest := by
        rintro ⟨after, same⟩
        have found : (byte :: rest).dropPrefix? part = some after :=
          List.dropPrefix?_eq_some_iff.mpr ⟨part, same.symm, beq_self_eq_true part⟩
        cases dropped.symm.trans found
      exact (ih (byte :: before)).trans (iff_and_self.mpr fun _ => apart)
    | some after =>
      obtain ⟨own, whole, same⟩ := List.dropPrefix?_eq_some_iff.mp dropped
      refine iff_of_false nofun fun apart => apart.1 ⟨after, ?_⟩
      rw [whole, beq_iff_eq.mp same]

theorem dropInfix?_eq_none {part s : GoString} (nonempty : part ≠ []) :
    s.dropInfix? part = none ↔ ¬ part <:+: s :=
  dropInfix?_go_eq_none nonempty []

/-- A part without the separator stands before it or after it. -/
theorem part_beside {sep : UInt8} {first second before part after : GoString} (flat : sep ∉ part)
    (whole : first ++ sep :: second = before ++ part ++ after) :
    (∃ rest, first = before ++ part ++ rest ∧ after = rest ++ sep :: second) ∨
      ∃ front, before = first ++ sep :: front ∧ second = front ++ part ++ after := by
  rcases List.append_eq_append_iff.mp whole with ⟨tail, ahead, behind⟩ | ⟨tail, ahead, behind⟩
  · cases tail with
    | nil =>
      rw [List.append_nil] at ahead
      exact .inl ⟨[], by rw [List.append_nil, ahead], behind.symm⟩
    | cons own front =>
      obtain ⟨rfl, rest⟩ := List.cons.inj behind
      rcases List.append_eq_append_iff.mp ahead with ⟨inner, left, right⟩ | ⟨inner, left, right⟩
      · rw [right] at flat
        exact absurd (List.mem_append_right _ (List.mem_cons_self ..)) flat
      · cases inner with
        | nil =>
          rw [List.nil_append] at right
          exact absurd (right ▸ List.mem_cons_self .. : sep ∈ part) flat
        | cons other inner =>
          obtain ⟨rfl, within⟩ := List.cons.inj right
          refine .inr ⟨inner, left, rest.trans ?_⟩
          rw [within]
          rfl
  · exact .inl ⟨tail, ahead, behind⟩

/-- A separated part occurs before the separator or after it. -/
theorem contains_beside {sep : UInt8} {part : GoString} (flat : sep ∉ part) (first second : GoString) :
    contains (first ++ sep :: second) part = (contains first part || contains second part) := by
  rw [Bool.eq_iff_iff, Bool.or_eq_true]
  simp only [contains, decide_eq_true_eq]
  constructor
  · rintro ⟨before, after, whole⟩
    rcases part_beside flat whole.symm with ⟨rest, same, -⟩ | ⟨front, -, same⟩
    · exact .inl ⟨before, rest, same.symm⟩
    · exact .inr ⟨front, after, same.symm⟩
  · rintro (inside | inside)
    · exact inside.trans (List.prefix_append ..).isInfix
    · exact inside.trans ((List.suffix_cons ..).trans (List.suffix_append ..)).isInfix

theorem dropInfix?_front {part : GoString} (rest : GoString) :
    (part ++ rest).dropInfix? part = some ([], rest) :=
  List.dropInfix?_eq_some_iff.mpr
    ⟨⟨part, rfl, beq_self_eq_true part⟩, fun _ _ _ _ _ => Nat.zero_le _⟩

/-- The first occurrence is the one before the separator, or else the first behind it. -/
theorem dropInfix?_beside {sep : UInt8} {part : GoString} (flat : sep ∉ part)
    (nonempty : part ≠ []) (first second : GoString) :
    (first ++ sep :: second).dropInfix? part =
      ((first.dropInfix? part).map fun found => (found.1, found.2 ++ sep :: second)).or
        ((second.dropInfix? part).map fun found => (first ++ sep :: found.1, found.2)) := by
  cases ahead : first.dropInfix? part with
  | some found =>
    obtain ⟨before, after⟩ := found
    obtain ⟨⟨own, shape, same⟩, least⟩ := List.dropInfix?_eq_some_iff.mp ahead
    obtain rfl := beq_iff_eq.mp same
    refine List.dropInfix?_eq_some_iff.mpr ⟨⟨own, by simp [shape], same⟩, ?_⟩
    intro before' own' after' whole same'
    obtain rfl := beq_iff_eq.mp same'
    rcases part_beside flat whole with ⟨rest, within, -⟩ | ⟨front, beyond, -⟩
    · exact least before' own' rest within same'
    · have inside := congrArg List.length shape
      have outside := congrArg List.length beyond
      simp only [List.length_append, List.length_cons] at inside outside
      dsimp only
      omega
  | none =>
    have absent := (dropInfix?_eq_none nonempty).mp ahead
    cases behind : second.dropInfix? part with
    | none =>
      refine (dropInfix?_eq_none nonempty).mpr fun inside => ?_
      have split := contains_beside flat first second
      simp only [contains, inside, absent, (dropInfix?_eq_none nonempty).mp behind] at split
      cases split
    | some found =>
      obtain ⟨before, after⟩ := found
      obtain ⟨⟨own, shape, same⟩, least⟩ := List.dropInfix?_eq_some_iff.mp behind
      obtain rfl := beq_iff_eq.mp same
      refine List.dropInfix?_eq_some_iff.mpr ⟨⟨own, by simp [shape], same⟩, ?_⟩
      intro before' own' after' whole same'
      obtain rfl := beq_iff_eq.mp same'
      rcases part_beside flat whole with ⟨rest, within, -⟩ | ⟨front, beyond, rest⟩
      · exact absurd ⟨before', rest, within.symm⟩ absent
      · have low := least front own' after' rest same'
        rw [beyond]
        simp only [List.length_append, List.length_cons]
        omega

/-! ## Decimal integers -/

def digitByte (digit : ℕ) : UInt8 := UInt8.ofNat (48 + digit)

def isDigit (byte : UInt8) : Bool := 48 ≤ byte.toNat && byte.toNat ≤ 57

/-- Digits of `value` in front of `acc`; the fuel bounds the number of divisions. -/
def natDigitsAux : ℕ → ℕ → Bytes → Bytes
  | 0, _, acc => acc
  | fuel + 1, value, acc =>
      if value < 10 then digitByte value :: acc
      else natDigitsAux fuel (value / 10) (digitByte (value % 10) :: acc)

/-- A natural number in base ten, without leading zeros. -/
def natDigits (value : ℕ) : Bytes := natDigitsAux (value + 1) value []

/-- `strconv.FormatInt(value, 10)`. -/
def itoa (value : ℤ) : Bytes :=
  if value < 0 then 45 :: natDigits value.natAbs else natDigits value.natAbs

def readDigits (start : ℕ) (digits : Bytes) : ℕ :=
  digits.foldl (fun value byte => 10 * value + (byte.toNat - 48)) start

/-- A non-empty run of digits, as a natural number. -/
def parseNat (text : Bytes) : Option ℕ :=
  if text ≠ [] ∧ text.all isDigit then some (readDigits 0 text) else none

/-- `strconv.ParseInt(text, 10, 64)` before its range check, on the sign JSON allows. -/
def parseInt (text : Bytes) : Option ℤ :=
  match text with
  | 45 :: digits => (parseNat digits).map fun value : ℕ => -(value : ℤ)
  | digits => (parseNat digits).map fun value : ℕ => (value : ℤ)

/-- `strconv.Atoi`, where an `int` has 64 bits. -/
def atoi (text : Bytes) : Option ℤ :=
  let value :=
    match text with
    | 43 :: digits => (parseNat digits).map fun value : ℕ => (value : ℤ)
    | _ => parseInt text
  value.filter fun value => -2 ^ 63 ≤ value ∧ value < 2 ^ 63

theorem digitByte_toNat {digit : ℕ} (bound : digit < 10) :
    (digitByte digit).toNat = 48 + digit := by
  simp only [digitByte, UInt8.toNat_ofNat']
  omega

theorem isDigit_digitByte {digit : ℕ} (bound : digit < 10) : isDigit (digitByte digit) = true := by
  simp only [isDigit, digitByte_toNat bound, Bool.and_eq_true, decide_eq_true_eq]
  omega

private theorem natDigitsAux_spec {fuel value : ℕ} (bound : value < fuel) (acc : Bytes) :
    ∃ digits : Bytes, natDigitsAux fuel value acc = digits ++ acc ∧ digits ≠ [] ∧
      digits.all isDigit = true ∧ readDigits 0 digits = value := by
  induction fuel generalizing value acc with
  | zero => omega
  | succ fuel ih =>
    unfold natDigitsAux
    split
    · next small =>
      refine ⟨[digitByte value], rfl, by simp, ?_, ?_⟩
      · simp [isDigit_digitByte small]
      · simp [readDigits, digitByte_toNat small]
    · next large =>
      obtain ⟨digits, shape, _, decimal, reads⟩ := @ih (value / 10) (by omega)
        (digitByte (value % 10) :: acc)
      have last : value % 10 < 10 := Nat.mod_lt _ (by decide)
      refine ⟨digits ++ [digitByte (value % 10)], by simp [shape], by simp, ?_, ?_⟩
      · simp [decimal, isDigit_digitByte last]
      · simp only [readDigits, List.foldl_append, List.foldl_cons, List.foldl_nil,
          digitByte_toNat last] at reads ⊢
        rw [reads]
        omega

/-- The digits of a number are read as that number. -/
theorem natDigits_spec (value : ℕ) : natDigits value ≠ [] ∧
    (natDigits value).all isDigit = true ∧ readDigits 0 (natDigits value) = value := by
  obtain ⟨digits, shape, nonempty, decimal, reads⟩ :=
    natDigitsAux_spec (Nat.lt_succ_self value) []
  rw [natDigits, shape, List.append_nil]
  exact ⟨nonempty, decimal, reads⟩

private theorem natDigitsAux_lead {fuel value : ℕ} (bound : value < fuel) (positive : 0 < value)
    (acc : Bytes) : ∃ digit rest, natDigitsAux fuel value acc = digitByte digit :: rest ∧
      0 < digit ∧ digit < 10 := by
  induction fuel generalizing value acc with
  | zero => omega
  | succ fuel ih =>
    unfold natDigitsAux
    split
    · next small => exact ⟨value, acc, rfl, positive, small⟩
    · next large => exact ih (by omega) (by omega) _

/-- A positive number is written without a leading zero. -/
theorem natDigits_lead {value : ℕ} (positive : 0 < value) :
    ∃ digit rest, natDigits value = digitByte digit :: rest ∧ 0 < digit ∧ digit < 10 :=
  natDigitsAux_lead (Nat.lt_succ_self value) positive []

/-- A number is parsed from its digits. -/
@[simp] theorem parseNat_natDigits (value : ℕ) : parseNat (natDigits value) = some value := by
  obtain ⟨nonempty, decimal, reads⟩ := natDigits_spec value
  rw [parseNat, if_pos ⟨nonempty, decimal⟩, reads]

private theorem parseInt_digits {digits : Bytes} (nonempty : digits ≠ [])
    (decimal : digits.all isDigit = true) :
    parseInt digits = (parseNat digits).map fun value : ℕ => (value : ℤ) := by
  unfold parseInt
  split
  · simp [isDigit] at decimal
  · rfl

/-- A number is written in digits, with a sign where it is negative. -/
theorem mem_itoa {value : ℤ} {byte : UInt8} (member : byte ∈ itoa value) :
    byte = 0x2D ∨ isDigit byte = true := by
  have decimal := List.all_eq_true.mp (natDigits_spec value.natAbs).2.1
  unfold itoa at member
  split_ifs at member
  · rcases List.mem_cons.mp member with sign | digit
    · exact .inl sign
    · exact .inr (decimal byte digit)
  · exact .inr (decimal byte member)

/-- Reading back a formatted integer returns it. -/
@[simp] theorem parseInt_itoa (value : ℤ) : parseInt (itoa value) = some value := by
  unfold itoa
  split
  · next negative =>
    change (parseNat (natDigits value.natAbs)).map (fun value : ℕ => -(value : ℤ)) = some value
    rw [parseNat_natDigits, Option.map_some]
    exact congrArg some (by omega)
  · next positive =>
    obtain ⟨nonempty, decimal, _⟩ := natDigits_spec value.natAbs
    rw [parseInt_digits nonempty decimal, parseNat_natDigits, Option.map_some]
    exact congrArg some (by omega)

/-- A number that fits into an `int` is read back. -/
theorem atoi_itoa {value : ℤ} (low : -2 ^ 63 ≤ value) (high : value < 2 ^ 63) :
    atoi (itoa value) = some value := by
  have unsigned (digits : Bytes) : itoa value ≠ 43 :: digits := fun shape => by
    have sign := mem_itoa (shape ▸ List.mem_cons_self .. : 43 ∈ itoa value)
    exact absurd sign (by decide)
  rw [atoi, parseInt_itoa, Option.filter_some, if_pos (decide_eq_true ⟨low, high⟩)]
  exact unsigned

end ShadowNet.Go
