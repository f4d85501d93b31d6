import ShadowNet.Profile.Store

/-! # Forms of a master key

The texts that `ParseMasterKey` documents for a key. Trimming comes first, so a key given by its raw
bytes is told apart from the white space around it by nothing; the other forms contain no white
space, and no form is read as a form of another key.
-/

namespace ShadowNet

open Go Go.Json

/-- What stands in front of the hexadecimal digits. -/
inductive HexMark where
  | none | small | capital
deriving DecidableEq

def HexMark.text : HexMark → GoString
  | .none => []
  | .small => lit "0x"
  | .capital => lit "0X"

/-- The encodings of a key; a hexadecimal digit has its case for itself. -/
inductive KeyForm where
  | raw
  | hex (mark : HexMark) (capital : ℕ → Bool)
  | base64 (std padded : Bool)

def KeyForm.text (key : MasterKey) : KeyForm → GoString
  | .raw => key.val
  | .hex mark capital => mark.text ++ hexDigits capital 0 key.val
  | .base64 std padded => Base64.encodeToString std padded key.val

@[simp] theorem sizedKey_val (key : MasterKey) : sizedKey (some key.val) = some key := by
  simp [sizedKey, key.property]

theorem sizedKey_eq_some {decoded : Option Bytes} {key : MasterKey} :
    sizedKey decoded = some key ↔ decoded = some key.val := by
  constructor
  · intro sized
    obtain ⟨bytes, rfl, fits⟩ := Option.bind_eq_some_iff.mp sized
    split_ifs at fits
    cases fits
    rfl
  · rintro rfl
    exact sizedKey_val key

/-- The second step of `ParseMasterKey`. -/
def hexKey (s : GoString) : Option MasterKey :=
  let hexS := if hasPrefix s (lit "0x") || hasPrefix s (lit "0X") then s.drop 2 else s
  if hexS.length = 64 then sizedKey (hexDecode hexS) else none

/-- The last step of `ParseMasterKey`. -/
def base64Key (s : GoString) : Option MasterKey :=
  [Base64.rawURLEncoding, Base64.urlEncoding, Base64.rawStdEncoding,
    Base64.stdEncoding].findSome? fun enc => sizedKey (enc.decodeString s)

theorem parseMasterKey_long {text : GoString} (filled : trimSpace text ≠ [])
    (size : (trimSpace text).length ≠ 32) {key : MasterKey} : parseMasterKey text = .ok key ↔
      (hexKey (trimSpace text)).or (base64Key (trimSpace text)) = some key := by
  simp only [parseMasterKey, if_neg filled, dif_neg size, ← hexKey.eq_def, ← base64Key.eq_def]
  cases (hexKey (trimSpace text)).or (base64Key (trimSpace text)) with
  | none => simp
  | some found => rw [Except.ok.injEq, Option.some.injEq]

/-- Fewer bytes than a key has are no encoding of one. -/
theorem parseMasterKey_short {text : GoString} (short : (trimSpace text).length < 32)
    (key : MasterKey) : parseMasterKey text ≠ .ok key := by
  intro read
  have filled : trimSpace text ≠ [] := by
    intro empty
    rw [parseMasterKey, if_pos empty] at read
    cases read
  rcases Option.or_eq_some_iff.mp ((parseMasterKey_long filled (by omega)).mp read) with
    hex | ⟨-, base64⟩
  · rw [hexKey] at hex
    split_ifs at hex with marked sized sized
    · rw [List.length_drop] at sized
      omega
    · omega
  · obtain ⟨enc, -, decoded⟩ := List.exists_of_findSome?_eq_some base64
    have bound := Base64.length_decodeString (sizedKey_eq_some.mp decoded)
    rw [key.property] at bound
    omega

theorem HexMark.visible (mark : HexMark) : ∀ byte ∈ mark.text, isVisible byte = true := by
  cases mark <;> exact forall_mem_of_all (by decide)

/-- The digits are found behind the mark, and without one none is seen. -/
theorem hexKey_hexDigits (mark : HexMark) (capital : ℕ → Bool) (key : MasterKey) :
    hexKey (mark.text ++ hexDigits capital 0 key.val) = some key := by
  have digits := hex_hexDigits capital 0 key.val
  have size : (hexDigits capital 0 key.val).length = 64 := by rw [length_hexDigits, key.property]
  have decoded : sizedKey (hexDecode (hexDigits capital 0 key.val)) = some key := by
    rw [hexDecode_hexDigits, sizedKey_val]
  generalize hexDigits capital 0 key.val = text at digits size decoded
  rw [hexKey]
  cases mark with
  | none =>
    have unmarked (mark : GoString) (letter : UInt8) (inside : letter ∈ mark)
        (other : (hexValue letter).isSome = false) : hasPrefix text mark = false := by
      apply decide_eq_false
      intro start
      have own := digits letter (start.subset inside)
      rw [other] at own
      cases own
    rw [show HexMark.none.text ++ text = text from rfl, unmarked (lit "0x") 0x78 (by decide) rfl,
      unmarked (lit "0X") 0x58 (by decide) rfl]
    simp only [Bool.or_self, Bool.false_eq_true, if_false, size, if_true, decoded]
  | small =>
    have marked : hasPrefix (HexMark.small.text ++ text) (lit "0x") = true :=
      decide_eq_true (List.prefix_append _ _)
    have rest : (HexMark.small.text ++ text).drop 2 = text := List.drop_left' (by decide)
    rw [marked, Bool.true_or, if_pos rfl, rest]
    simp only [size, if_true, decoded]
  | capital =>
    have marked : hasPrefix (HexMark.capital.text ++ text) (lit "0X") = true :=
      decide_eq_true (List.prefix_append _ _)
    have rest : (HexMark.capital.text ++ text).drop 2 = text := List.drop_left' (by decide)
    rw [marked, Bool.or_true, if_pos rfl, rest]
    simp only [size, if_true, decoded]

/-- The decoders before the right one read the key as well or nothing. -/
theorem base64Key_encodeToString (std padded : Bool) (key : MasterKey) :
    base64Key (Base64.encodeToString std padded key.val) = some key := by
  have each (other needs : Bool) :
      sizedKey ((Base64.encoding other needs).decodeString
        (Base64.encodeToString std padded key.val)) = some key ∨
      (other, needs) ≠ (std, padded) ∧
        sizedKey ((Base64.encoding other needs).decodeString
          (Base64.encodeToString std padded key.val)) = none := by
    rcases Base64.decodeString_encodeToString std padded key.val other needs with
      read | ⟨differ, refused⟩
    · exact .inl (by rw [read, sizedKey_val])
    · exact .inr ⟨differ, by rw [refused]; rfl⟩
  have listed : base64Key (Base64.encodeToString std padded key.val) =
      [(false, false), (false, true), (true, false), (true, true)].findSome? fun marks =>
        sizedKey ((Base64.encoding marks.1 marks.2).decodeString
          (Base64.encodeToString std padded key.val)) := rfl
  rw [listed]
  cases result : List.findSome? _ _ with
  | none =>
    have own := List.findSome?_eq_none_iff.mp result (std, padded)
      (by cases std <;> cases padded <;> simp)
    rcases each std padded with read | ⟨differ, -⟩
    · rw [read] at own
      cases own
    · exact absurd rfl differ
  | some found =>
    obtain ⟨marks, -, decoded⟩ := List.exists_of_findSome?_eq_some result
    rcases each marks.1 marks.2 with read | ⟨-, refused⟩
    · rw [← decoded, read]
    · rw [refused] at decoded
      cases decoded

/-- A form other than the raw one has no white space and is longer than a key. -/
theorem KeyForm.solid {form : KeyForm} (coded : form ≠ .raw) (key : MasterKey) :
    trimSpace (form.text key) = form.text key ∧ 32 < (form.text key).length := by
  cases form with
  | raw => exact absurd rfl coded
  | hex mark capital =>
    refine ⟨trimSpace_visible ?_, ?_⟩
    · intro byte member
      rcases List.mem_append.mp member with marked | digit
      · exact mark.visible byte marked
      · exact visible_of_hexValue (hex_hexDigits capital 0 key.val byte digit)
    · rw [text, List.length_append, length_hexDigits, key.property]
      omega
  | base64 std padded =>
    refine ⟨trimSpace_visible fun byte member =>
      (Base64.plain_encodeToString std padded key.val byte member).2, ?_⟩
    rw [text, Base64.length_encodeToString, key.property]
    cases padded <;> decide

theorem parseMasterKey_coded {form : KeyForm} (coded : form ≠ .raw) (key : MasterKey) :
    parseMasterKey (form.text key) = .ok key := by
  obtain ⟨trimmed, long⟩ := KeyForm.solid coded key
  have filled : trimSpace (form.text key) ≠ [] := by
    rw [trimmed]
    exact List.ne_nil_of_length_pos (by omega)
  rw [parseMasterKey_long filled (by rw [trimmed]; omega), trimmed]
  cases form with
  | raw => exact absurd rfl coded
  | hex mark capital => rw [KeyForm.text, hexKey_hexDigits, Option.some_or]
  | base64 std padded =>
    have plain : hexKey (KeyForm.text key (.base64 std padded)) = none := by
      have size : (KeyForm.text key (.base64 std padded)).length = if padded then 44 else 43 := by
        rw [KeyForm.text, Base64.length_encodeToString, key.property]
      rw [hexKey, if_neg]
      cases padded <;> split <;> simp [List.length_drop, size]
    rw [plain, Option.none_or, KeyForm.text, base64Key_encodeToString]

/-- Raw bytes are trimmed like any text, and what is left of a key is none. -/
theorem parseMasterKey_raw (key : MasterKey) {read : MasterKey} :
    parseMasterKey key.val = .ok read ↔ read = key ∧ trimSpace key.val = key.val := by
  have within := infix_trimSpace key.val
  constructor
  · intro parsed
    by_cases short : (trimSpace key.val).length < 32
    · exact absurd parsed (parseMasterKey_short short read)
    have bound := within.length_le
    rw [key.property] at bound
    have whole : trimSpace key.val = key.val := within.eq_of_length (by rw [key.property]; omega)
    have filled : trimSpace key.val ≠ [] := List.ne_nil_of_length_pos (by omega)
    rw [parseMasterKey, if_neg filled, dif_pos (by omega), Except.ok.injEq] at parsed
    exact ⟨Subtype.ext (parsed ▸ whole), whole⟩
  · rintro ⟨rfl, whole⟩
    have filled : read.val ≠ [] := List.ne_nil_of_length_pos (by rw [read.property]; decide)
    simp only [parseMasterKey, whole, if_neg filled, dif_pos read.property]

/-- No form of a key is taken for another key. -/
theorem parseMasterKey_unambiguous {form : KeyForm} {key read : MasterKey}
    (parsed : parseMasterKey (form.text key) = .ok read) : read = key := by
  by_cases coded : form = .raw
  · rw [coded] at parsed
    exact ((parseMasterKey_raw key).mp parsed).1
  · rw [parseMasterKey_coded coded] at parsed
    exact (Except.ok.inj parsed).symm

/-- A documented text of a key is read as the key unless it is raw and trimming shortens it. -/
theorem parseMasterKey_reads_iff (form : KeyForm) (key : MasterKey) :
    (parseMasterKey (form.text key) = .ok key ∧
      ∀ text read, parseMasterKey text = .ok read → read.val.length = 32) ↔
      (form = .raw → trimSpace key.val = key.val) := by
  have sized : ∀ text read, parseMasterKey text = .ok read → read.val.length = 32 :=
    fun _ read _ => read.property
  rw [and_iff_left sized]
  by_cases coded : form = .raw
  · rw [coded, KeyForm.text, parseMasterKey_raw]
    simp
  · exact iff_of_true (parseMasterKey_coded coded key) fun raw => absurd raw coded

/-- Thirty-one letters behind a line feed. -/
theorem parseMasterKey_lineFeed : ¬ ∀ (form : KeyForm) (key : MasterKey),
    parseMasterKey (form.text key) = .ok key ∧
      ∀ text read, parseMasterKey text = .ok read → read.val.length = 32 := by
  intro every
  have whole := ((parseMasterKey_raw ⟨0x0A :: List.replicate 31 0x6B, rfl⟩).mp (every .raw _).1).2
  revert whole
  decide

end ShadowNet
