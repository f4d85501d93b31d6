import ShadowNet.Go.Json.Scanner

/-! # Writing JSON texts, and reading them back

`encode` writes a value as `json.Marshal` does, with the HTML-safe string escapes. A text written
so is read back as the same value up to the replacement of bytes outside UTF-8, whatever
surrounds it: the round trip is stated inside an arbitrary stack of open containers.
-/

namespace ShadowNet.Go.Json

def hexDigit (value : ℕ) : UInt8 := if value < 10 then UInt8.ofNat (48 + value) else UInt8.ofNat (87 + value)

/-- The escape of an ASCII byte with `escapeHTML` set. -/
def escapeAscii (byte : UInt8) : Bytes :=
  if byte = 0x22 || byte = 0x5C then [0x5C, byte]
  else if byte = 0x08 then [0x5C, 0x62]
  else if byte = 0x0C then [0x5C, 0x66]
  else if byte = 0x0A then [0x5C, 0x6E]
  else if byte = 0x0D then [0x5C, 0x72]
  else if byte = 0x09 then [0x5C, 0x74]
  else if byte.toNat < 0x20 || byte = 0x3C || byte = 0x3E || byte = 0x26 then
    [0x5C, 0x75, 0x30, 0x30, hexDigit (byte.toNat / 16), hexDigit (byte.toNat % 16)]
  else [byte]

def escapeSym : Sym → Bytes
  | .rune c =>
      if c.toNat < 0x80 then escapeAscii (UInt8.ofNat c.toNat)
      else if c.toNat = 0x2028 then lit "\\u2028"
      else if c.toNat = 0x2029 then lit "\\u2029"
      else encodeRune c
  | .bad _ => lit "\\ufffd"

/-- What stands between the quotes of an encoded string. -/
def escape (text : GoString) : Bytes := (runes text).flatMap escapeSym

def quote (text : GoString) : Bytes := 0x22 :: (escape text ++ [0x22])

mutual
/-- `json.Marshal` of a value. -/
def encode : Value → Bytes
  | .null => lit "null"
  | .bool value => if value then lit "true" else lit "false"
  | .num text => text
  | .str text => quote text
  | .arr [] => [0x5B, 0x5D]
  | .arr (item :: rest) => 0x5B :: (encode item ++ (encodeItems rest ++ [0x5D]))
  | .obj [] => [0x7B, 0x7D]
  | .obj ((key, value) :: rest) =>
      0x7B :: (quote key ++ 0x3A :: (encode value ++ (encodeMembers rest ++ [0x7D])))

def encodeItems : List Value → Bytes
  | [] => []
  | item :: rest => 0x2C :: (encode item ++ encodeItems rest)

def encodeMembers : List (GoString × Value) → Bytes
  | [] => []
  | (key, value) :: rest => 0x2C :: (quote key ++ 0x3A :: (encode value ++ encodeMembers rest))
end

private theorem encodeMembers_intercalate (first : Bytes) (rest : List (GoString × Value)) :
    List.intercalate [0x2C]
        (first :: rest.map fun member => quote member.1 ++ 0x3A :: encode member.2) =
      first ++ encodeMembers rest := by
  induction rest generalizing first with
  | nil => simp [List.intercalate, encodeMembers]
  | cons member rest ih =>
    have tail := ih (quote member.1 ++ 0x3A :: encode member.2)
    simp only [List.intercalate, List.map_cons, List.intersperse_cons_cons, List.flatten_cons] at tail ⊢
    rw [tail, encodeMembers]
    simp

/-- An object is its members between braces, with commas between them. -/
theorem encode_obj (members : List (GoString × Value)) :
    encode (.obj members) = 0x7B :: (List.intercalate [0x2C]
      (members.map fun member => quote member.1 ++ 0x3A :: encode member.2) ++ [0x7D]) := by
  cases members with
  | nil => rfl
  | cons member rest =>
    rw [List.map_cons, encodeMembers_intercalate, encode]
    simp

mutual
/-- The value a reader of the encoded text sees. -/
def Value.sanitize : Value → Value
  | .null => .null
  | .bool value => .bool value
  | .num text => .num text
  | .str text => .str (toValid text)
  | .arr items => .arr (sanitizeItems items)
  | .obj members => .obj (sanitizeMembers members)

def sanitizeItems : List Value → List Value
  | [] => []
  | item :: rest => item.sanitize :: sanitizeItems rest

def sanitizeMembers : List (GoString × Value) → List (GoString × Value)
  | [] => []
  | (key, value) :: rest => (toValid key, value.sanitize) :: sanitizeMembers rest
end

mutual
/-- How many containers are open at once. -/
def Value.depth : Value → ℕ
  | .arr items => depthItems items + 1
  | .obj members => depthMembers members + 1
  | _ => 0

def depthItems : List Value → ℕ
  | [] => 0
  | item :: rest => max item.depth (depthItems rest)

def depthMembers : List (GoString × Value) → ℕ
  | [] => 0
  | (_, value) :: rest => max value.depth (depthMembers rest)
end

/-- The state after the first byte of a number. -/
def NumState.begin (byte : UInt8) : Option NumState :=
  if byte = 0x2D then some .neg else if byte = 0x30 then some .zero
  else if isDigit byte then some .int else none

/-- Whether a number in this state may go on with `text` and end there. -/
def NumState.accepts (state : NumState) (text : Bytes) : Bool :=
  match text.foldlM NumState.next state with
  | some last => last.complete
  | none => false

/-- The texts of the JSON number grammar. -/
def isNumber : Bytes → Bool
  | [] => false
  | byte :: rest =>
      match NumState.begin byte with
      | some state => state.accepts rest
      | none => false

private theorem foldlM_next_digits {digits : Bytes} (decimal : digits.all isDigit = true)
    (rest : Bytes) : (digits ++ rest).foldlM NumState.next .int = rest.foldlM NumState.next .int := by
  induction digits with
  | nil => rfl
  | cons byte digits ih =>
    simp only [List.all_cons, Bool.and_eq_true] at decimal
    rw [List.cons_append, List.foldlM_cons, NumState.next, if_pos decimal.1]
    exact ih decimal.2

private theorem begin_digit : ∀ digit < 10, 0 < digit →
    NumState.begin (digitByte digit) = some .int ∧
      NumState.neg.next (digitByte digit) = some .int := by decide

/-- A decimal natural number reads as a number does, up to whatever follows it. -/
private theorem natDigits_begin (value : ℕ) : ∃ byte tail state,
    natDigits value = byte :: tail ∧ NumState.begin byte = some state ∧
      NumState.neg.next byte = some state ∧ (state = .zero ∨ state = .int) ∧
      ∀ rest, (tail ++ rest).foldlM NumState.next state = rest.foldlM NumState.next state := by
  obtain rfl | positive := Nat.eq_zero_or_pos value
  · exact ⟨0x30, [], .zero, rfl, rfl, rfl, .inl rfl, fun _ => rfl⟩
  · obtain ⟨digit, tail, shape, lead, bound⟩ := natDigits_lead positive
    obtain ⟨begun, after⟩ := begin_digit digit bound lead
    have decimal := (natDigits_spec value).2.1
    rw [shape, List.all_cons, Bool.and_eq_true] at decimal
    exact ⟨_, tail, .int, shape, begun, after, .inr rfl, foldlM_next_digits decimal.2⟩

/-- A decimal integer is a number, also before a fraction or an exponent. -/
theorem isNumber_natDigits (value : ℕ) (rest : Bytes)
    (accepted : NumState.zero.accepts rest = true ∧ NumState.int.accepts rest = true) :
    isNumber (natDigits value ++ rest) = true ∧
      isNumber (0x2D :: (natDigits value ++ rest)) = true := by
  obtain ⟨byte, tail, state, shape, begun, after, either, reads⟩ := natDigits_begin value
  have goes : state.accepts (tail ++ rest) = true := by
    rw [NumState.accepts, reads]
    obtain rfl | rfl := either
    · exact accepted.1
    · exact accepted.2
  rw [shape, List.cons_append]
  constructor
  · rw [isNumber, begun]
    exact goes
  · change NumState.neg.accepts (byte :: (tail ++ rest)) = true
    rw [NumState.accepts, List.foldlM_cons, after]
    exact goes

/-- A whole number is written as a number of JSON. -/
theorem isNumber_itoa (value : ℤ) : isNumber (itoa value) = true := by
  have both := isNumber_natDigits value.natAbs [] ⟨rfl, rfl⟩
  rw [List.append_nil] at both
  unfold itoa
  split_ifs
  · exact both.2
  · exact both.1

mutual
/-- Every number in the value is one of the number grammar. -/
def Value.Numeric : Value → Prop
  | .num text => isNumber text = true
  | .arr items => NumericItems items
  | .obj members => NumericMembers members
  | _ => True

def NumericItems : List Value → Prop
  | [] => True
  | item :: rest => item.Numeric ∧ NumericItems rest

def NumericMembers : List (GoString × Value) → Prop
  | [] => True
  | (_, value) :: rest => value.Numeric ∧ NumericMembers rest
end

/-! ## Strings -/

theorem unit_escape (text : StrState) (unit : ℕ) : (text.unit unit).escape = .none := by
  unfold StrState.unit
  split <;> split_ifs <;> rfl

/-- Steps inside a string that do not reach its closing quote. -/
def StrState.run (text : StrState) : Bytes → Option StrState
  | [] => some text
  | byte :: rest =>
      if text.escape = .none ∧ byte = 0x22 then none
      else (text.step byte).bind fun next => next.run rest

private theorem step_inString (stack : List Frame) (isKey : Bool) (text : StrState) (byte : UInt8) :
    step ⟨stack, .inString isKey text⟩ byte =
      if text.escape = .none ∧ byte = 0x22 then endString stack isKey text.close
      else (text.step byte).map fun text => ⟨stack, .inString isKey text⟩ := rfl

/-- A string is scanned on its own. -/
theorem run_inString {text next : StrState} {body : Bytes} (ran : text.run body = some next)
    (stack : List Frame) (isKey : Bool) (rest : Bytes) :
    run ⟨stack, .inString isKey text⟩ (body ++ rest) = run ⟨stack, .inString isKey next⟩ rest := by
  induction body generalizing text with
  | nil => cases ran; rfl
  | cons byte body ih =>
    unfold StrState.run at ran
    split_ifs at ran with closing
    obtain ⟨middle, stepped, tail⟩ := Option.bind_eq_some_iff.mp ran
    rw [List.cons_append, run, step_inString, if_neg closing, stepped]
    exact ih tail

private def StrState.over (text : StrState) (out : Bytes) : StrState :=
  { text with out := text.out ++ out }

private theorem step_over (text : StrState) (out : Bytes) (byte : UInt8) :
    (text.over out).step byte = (text.step byte).map (·.over out) := by
  obtain ⟨own, high, escape⟩ := text
  cases escape with
  | none =>
    simp only [StrState.over, StrState.step]
    split_ifs
    · rfl
    · rfl
    · cases high <;> simp [StrState.emit, StrState.flush]
  | backslash =>
    simp only [StrState.over, StrState.step]
    split_ifs
    · rfl
    · cases simpleEscape byte <;> cases high <;> simp [StrState.emit, StrState.flush]
  | hex count value =>
    simp only [StrState.over, StrState.step, Option.map_map]
    congr 1
    funext digit
    simp only [Function.comp_apply]
    split_ifs
    · cases high with
      | none =>
        simp only [StrState.unit]
        split_ifs <;> simp [StrState.emit, StrState.flush]
      | some high =>
        simp only [StrState.unit]
        split_ifs <;> simp [StrState.emit, StrState.flush]
    · rfl

private theorem run_over {text next : StrState} {body : Bytes} (ran : text.run body = some next)
    (out : Bytes) : (text.over out).run body = some (next.over out) := by
  induction body generalizing text with
  | nil => cases ran; rfl
  | cons byte body ih =>
    unfold StrState.run at ran ⊢
    split_ifs at ran with closing
    obtain ⟨middle, stepped, tail⟩ := Option.bind_eq_some_iff.mp ran
    rw [if_neg (show ¬ ((text.over out).escape = .none ∧ byte = 0x22) from closing), step_over,
      stepped]
    exact ih tail

theorem StrState.run_append {text middle : StrState} {first : Bytes}
    (ran : text.run first = some middle) (second : Bytes) :
    text.run (first ++ second) = middle.run second := by
  induction first generalizing text with
  | nil => cases ran; rfl
  | cons byte first ih =>
    unfold StrState.run at ran
    split_ifs at ran with closing
    obtain ⟨next, stepped, tail⟩ := Option.bind_eq_some_iff.mp ran
    rw [List.cons_append, StrState.run, if_neg closing, stepped]
    exact ih tail

/-- Nothing pending: the state between two characters of a string. -/
def StrState.plain (out : Bytes) : StrState := ⟨out, none, .none⟩

/-- A byte that stands for itself inside a string. -/
def isPlain (byte : UInt8) : Bool := 0x20 ≤ byte.toNat && byte != 0x22 && byte != 0x5C

/-- Bytes that stand for themselves are collected as they are. -/
theorem run_plain {body : Bytes} (inert : ∀ byte ∈ body, isPlain byte = true) (out : Bytes) :
    (StrState.plain out).run body = some (StrState.plain (body.reverse ++ out)) := by
  induction body generalizing out with
  | nil => rfl
  | cons byte body ih =>
    have plain := inert byte (List.mem_cons_self ..)
    simp only [isPlain, Bool.and_eq_true, decide_eq_true_eq, bne_iff_ne, ne_eq] at plain
    have stepped : (StrState.plain out).step byte = some (StrState.plain (byte :: out)) := by
      simp only [StrState.plain, StrState.step]
      rw [if_neg plain.2, if_neg (by omega)]
      rfl
    rw [StrState.run, if_neg (fun closing => plain.1.2 closing.2), stepped, Option.bind_some,
      ih (fun other member => inert other (List.mem_cons_of_mem _ member))]
    simp

private theorem run_escapeAscii : ∀ value < 0x80,
    (StrState.plain []).run (escapeAscii (UInt8.ofNat value)) =
      some (StrState.plain [UInt8.ofNat value]) := by decide

private theorem run_fresh {body made : Bytes}
    (ran : (StrState.plain []).run body = some (StrState.plain made)) (out : Bytes) :
    (StrState.plain out).run body = some (StrState.plain (made ++ out)) := by
  have := run_over ran out
  simpa only [StrState.over, StrState.plain, List.nil_append] using this

private theorem run_escapeSym (sym : Sym) (out : Bytes) :
    (StrState.plain out).run (escapeSym sym) =
      some (StrState.plain ((encodeRune sym.seen).reverse ++ out)) := by
  refine run_fresh ?_ out
  cases sym with
  | bad byte =>
    change (StrState.plain []).run (lit "\\ufffd") =
      some (StrState.plain (encodeRune replacement).reverse)
    decide
  | rune c =>
    simp only [escapeSym, Sym.seen]
    split_ifs with ascii line paragraph
    · rw [encodeRune_ascii ascii, run_escapeAscii c.toNat ascii]
      rfl
    · have : c = Char.ofNat 0x2028 := by rw [← line, Char.ofNat_toNat]
      subst this
      decide
    · have : c = Char.ofNat 0x2029 := by rw [← paragraph, Char.ofNat_toNat]
      subst this
      decide
    · rw [run_plain, List.append_nil]
      · intro byte member
        have bound := encodeRune_wide ascii byte member
        simp only [isPlain, Bool.and_eq_true, decide_eq_true_eq, bne_iff_ne, ne_eq]
        refine ⟨⟨by omega, ?_⟩, ?_⟩ <;> rintro rfl <;> revert bound <;> decide

private theorem run_escape (syms : List Sym) (out : Bytes) :
    (StrState.plain out).run (syms.flatMap escapeSym) =
      some (StrState.plain ((utf8 (syms.map Sym.seen)).reverse ++ out)) := by
  induction syms generalizing out with
  | nil => rfl
  | cons sym syms ih =>
    rw [List.flatMap_cons, StrState.run_append (run_escapeSym sym out), ih]
    simp [utf8]

/-- A quoted string is read back as its valid form. -/
theorem run_quote (text : GoString) (stack : List Frame) (isKey : Bool) (rest : Bytes) :
    run ⟨stack, .inString isKey (StrState.plain [])⟩ (escape text ++ 0x22 :: rest) =
      (endString stack isKey (toValid text)).bind fun next => run next rest := by
  rw [escape, run_inString (run_escape (runes text) []), run, step_inString, if_pos ⟨rfl, rfl⟩]
  have closed : (StrState.plain ((utf8 ((runes text).map Sym.seen)).reverse ++ [])).close =
      toValid text := by
    simp only [StrState.close, StrState.flush, StrState.plain, List.append_nil, List.reverse_reverse]
    exact valid_toValid text
  rw [closed]

/-! ## Numbers and literals -/

/-- A byte that may follow a value in a text. -/
def isDelim (byte : UInt8) : Bool := isWhite byte || byte = 0x2C || byte = 0x5D || byte = 0x7D

/-- A text that goes on as it may after a value. -/
def Delimited (tail : Bytes) : Prop := ∃ byte rest, tail = byte :: rest ∧ isDelim byte = true

private theorem isDelim_iff {byte : UInt8} : isDelim byte = true ↔
    byte = 0x20 ∨ byte = 0x09 ∨ byte = 0x0D ∨ byte = 0x0A ∨ byte = 0x2C ∨ byte = 0x5D ∨
      byte = 0x7D := by
  simp [isDelim, isWhite, or_assoc]

private theorem next_delim (number : NumState) {byte : UInt8} (delim : isDelim byte = true) :
    number.next byte = none := by
  obtain rfl | rfl | rfl | rfl | rfl | rfl | rfl := isDelim_iff.mp delim <;>
    cases number <;> rfl

/-- What `deliver` leaves behind waits for the byte after the value. -/
private theorem run_deliver {value : Value} {stack : List Frame} {byte : UInt8} {rest : Bytes} :
    (deliver value stack).bind (fun next => run next (byte :: rest)) =
      ((deliver value stack).bind (afterValue · byte)).bind fun next => run next rest := by
  match stack with
  | [] => rfl
  | .arrayValue _ :: _ => rfl
  | .objectValue _ _ :: _ => rfl
  | .objectKey _ :: _ => rfl

private theorem run_digits {number last : NumState} {body : Bytes}
    (read : body.foldlM NumState.next number = some last) (complete : last.complete = true)
    (stack : List Frame) (text : Bytes) {tail : Bytes} (delimited : Delimited tail) :
    run ⟨stack, .inNumber number text⟩ (body ++ tail) =
      (deliver (.num (text.reverse ++ body)) stack).bind fun next => run next tail := by
  induction body generalizing number text with
  | nil =>
    obtain rfl : number = last := by simpa using read
    obtain ⟨byte, rest, rfl, delim⟩ := delimited
    rw [run_deliver, List.nil_append, run, step]
    simp only [next_delim number delim, complete, if_true, List.append_nil]
  | cons byte body ih =>
    rw [List.foldlM_cons] at read
    obtain ⟨next, stepped, rest⟩ := Option.bind_eq_some_iff.mp read
    rw [List.cons_append, run, step]
    simp only [stepped, Option.bind_some]
    rw [ih rest]
    simp

private theorem begin_bytes {byte : UInt8} {number : NumState}
    (begun : NumState.begin byte = some number) (stack : List Frame) :
    isWhite byte = false ∧ byte ≠ 0x5D ∧
      beginValue stack byte = some ⟨stack, .inNumber number [byte]⟩ := by
  unfold NumState.begin at begun
  split_ifs at begun with negative zero digit
  · subst negative
    cases begun
    exact ⟨rfl, by decide, rfl⟩
  · subst zero
    cases begun
    exact ⟨rfl, by decide, rfl⟩
  · cases begun
    have range : 48 ≤ byte.toNat ∧ byte.toNat ≤ 57 := by simpa [isDigit] using digit
    have other (value : UInt8) (outside : value.toNat < 48 ∨ 57 < value.toNat) : byte ≠ value := by
      rintro rfl
      omega
    refine ⟨?_, other _ (by decide), ?_⟩
    · simp [isWhite, other 0x20 (by decide), other 0x09 (by decide), other 0x0D (by decide),
        other 0x0A (by decide)]
    · simp only [beginValue, other 0x7B (by decide), other 0x5B (by decide), other 0x22 (by decide),
        negative, zero, digit, if_true, if_false]

private theorem run_literal (stack : List Frame) (value : Value) (first : UInt8) (rest : Bytes)
    (tail : Bytes) : run ⟨stack, .inLiteral (first :: rest) value⟩ (first :: rest ++ tail) =
      (deliver value stack).bind fun next => run next tail := by
  induction rest generalizing first with
  | nil => simp [run, step]
  | cons second rest ih =>
    rw [List.cons_append, run, step]
    simpa using ih second

/-! ## Values -/

private theorem encode_begins {value : Value} (numeric : value.Numeric) :
    ∃ byte rest, encode value = byte :: rest ∧ isWhite byte = false ∧ byte ≠ 0x5D := by
  match value with
  | .null => exact ⟨_, _, rfl, rfl, by decide⟩
  | .bool true => exact ⟨_, _, rfl, rfl, by decide⟩
  | .bool false => exact ⟨_, _, rfl, rfl, by decide⟩
  | .str _ => exact ⟨_, _, rfl, rfl, by decide⟩
  | .arr [] => exact ⟨_, _, rfl, rfl, by decide⟩
  | .arr (_ :: _) => exact ⟨_, _, rfl, rfl, by decide⟩
  | .obj [] => exact ⟨_, _, rfl, rfl, by decide⟩
  | .obj (_ :: _) => exact ⟨_, _, rfl, rfl, by decide⟩
  | .num [] => exact absurd numeric (by simp [Value.Numeric, isNumber])
  | .num (byte :: rest) =>
    simp only [Value.Numeric, isNumber] at numeric
    cases begun : NumState.begin byte with
    | none => simp [begun] at numeric
    | some number =>
      obtain ⟨white, bracket, -⟩ := begin_bytes begun []
      exact ⟨byte, rest, rfl, white, bracket⟩

/-- The first item of an array is scanned like any other value. -/
theorem run_first {value : Value} (numeric : value.Numeric) (stack : List Frame)
    (tail : Bytes) : run ⟨stack, .beginValueOrEmpty⟩ (encode value ++ tail) =
      run ⟨stack, .beginValue⟩ (encode value ++ tail) := by
  obtain ⟨byte, rest, same, white, bracket⟩ := encode_begins numeric
  rw [same, List.cons_append, run, run, step, step]
  simp only [white, bracket, if_false, Bool.false_eq_true]

/-- A key in quotes with a colon behind it. -/
theorem run_key {mode : Mode} (expected : mode = .beginString ∨ mode = .beginStringOrEmpty)
    (stack : List Frame) (done : List (GoString × Value)) (key : GoString) (rest : Bytes) :
    run ⟨.objectKey done :: stack, mode⟩ (quote key ++ 0x3A :: rest) =
      run ⟨.objectValue done (toValid key) :: stack, .beginValue⟩ rest := by
  have opened : run ⟨.objectKey done :: stack, mode⟩ (quote key ++ 0x3A :: rest) =
      run ⟨.objectKey done :: stack, .inString true (StrState.plain [])⟩
        (escape key ++ 0x22 :: 0x3A :: rest) := by
    rw [quote, List.cons_append, List.append_assoc]
    obtain rfl | rfl := expected <;> rfl
  rw [opened, run_quote]
  rfl

theorem Delimited.append_items {tail : Bytes} (delimited : Delimited tail) (items : List Value) :
    Delimited (encodeItems items ++ tail) := by
  cases items with
  | nil => exact delimited
  | cons item rest => exact ⟨0x2C, encode item ++ encodeItems rest ++ tail, rfl, rfl⟩

theorem Delimited.append_members {tail : Bytes} (delimited : Delimited tail)
    (members : List (GoString × Value)) : Delimited (encodeMembers members ++ tail) := by
  cases members with
  | nil => exact delimited
  | cons member rest =>
    exact ⟨0x2C, quote member.1 ++ 0x3A :: (encode member.2 ++ encodeMembers rest) ++ tail, rfl, rfl⟩

theorem run_open_array (stack : List Frame) (room : stack.length < maxNestingDepth)
    (rest : Bytes) : run ⟨stack, .beginValue⟩ (0x5B :: rest) =
      run ⟨.arrayValue [] :: stack, .beginValueOrEmpty⟩ rest := by
  have opened : step ⟨stack, .beginValue⟩ 0x5B = push (.arrayValue []) .beginValueOrEmpty stack := rfl
  rw [run, opened, push, if_pos room, Option.bind_some]

theorem run_open_object (stack : List Frame) (room : stack.length < maxNestingDepth)
    (rest : Bytes) : run ⟨stack, .beginValue⟩ (0x7B :: rest) =
      run ⟨.objectKey [] :: stack, .beginStringOrEmpty⟩ rest := by
  have opened : step ⟨stack, .beginValue⟩ 0x7B = push (.objectKey []) .beginStringOrEmpty stack := rfl
  rw [run, opened, push, if_pos room, Option.bind_some]

mutual
/-- An encoded value is read back as its sanitized form, inside any open containers. Only a number
needs what follows to end it. -/
theorem run_encode (value : Value) (numeric : value.Numeric) (stack : List Frame)
    (room : stack.length + value.depth ≤ maxNestingDepth) {tail : Bytes}
    (ends : ∀ text, value = .num text → Delimited tail) :
    run ⟨stack, .beginValue⟩ (encode value ++ tail) =
      (deliver value.sanitize stack).bind fun next => run next tail := by
  match value with
  | .null => exact run_literal stack .null 0x75 (lit "ll") tail
  | .bool true => exact run_literal stack (.bool true) 0x72 (lit "ue") tail
  | .bool false => exact run_literal stack (.bool false) 0x61 (lit "lse") tail
  | .num [] => exact absurd numeric (by simp [Value.Numeric, isNumber])
  | .num (byte :: body) =>
    simp only [Value.Numeric, isNumber] at numeric
    cases begun : NumState.begin byte with
    | none => simp [begun] at numeric
    | some number =>
      cases read : body.foldlM NumState.next number with
      | none => simp [begun, NumState.accepts, read] at numeric
      | some last =>
        simp only [begun, NumState.accepts, read] at numeric
        obtain ⟨white, -, begins⟩ := begin_bytes begun stack
        rw [encode, List.cons_append, run, step]
        simp only [white, begins, if_false, Bool.false_eq_true, Option.bind_some]
        rw [run_digits read numeric stack [byte] (ends _ rfl)]
        rfl
  | .str text =>
    rw [encode, quote, List.cons_append, List.append_assoc]
    exact run_quote text stack false tail
  | .arr [] =>
    exact run_open_array stack (by simp only [Value.depth] at room; omega) (0x5D :: tail)
  | .arr (item :: rest) =>
    obtain ⟨here, there⟩ := numeric
    simp only [Value.depth, depthItems] at room
    have closed : Delimited ([0x5D] ++ tail) := ⟨0x5D, tail, rfl, rfl⟩
    rw [encode, List.cons_append, run_open_array stack (by omega), List.append_assoc,
      run_first here, List.append_assoc,
      run_encode item here (.arrayValue [] :: stack) (by simp only [List.length_cons]; omega)
        fun _ _ => closed.append_items rest]
    change run ⟨.arrayValue [item.sanitize] :: stack, .endValue⟩ _ = _
    rw [run_encodeItems rest there [item.sanitize] stack (by omega) closed]
    change (deliver (.arr ((sanitizeItems rest).reverse ++ [item.sanitize]).reverse) stack).bind _ = _
    rw [List.reverse_append, List.reverse_reverse]
    rfl
  | .obj [] =>
    exact run_open_object stack (by simp only [Value.depth] at room; omega) (0x7D :: tail)
  | .obj ((key, value) :: rest) =>
    obtain ⟨here, there⟩ := numeric
    simp only [Value.depth, depthMembers] at room
    have closed : Delimited ([0x7D] ++ tail) := ⟨0x7D, tail, rfl, rfl⟩
    rw [encode, List.cons_append, run_open_object stack (by omega), List.append_assoc,
      List.cons_append, List.append_assoc, List.append_assoc, run_key (.inr rfl),
      run_encode value here (.objectValue [] (toValid key) :: stack)
      (by simp only [List.length_cons]; omega) fun _ _ => closed.append_members rest]
    change run ⟨.objectKey [(toValid key, value.sanitize)] :: stack, .endValue⟩ _ = _
    rw [run_encodeMembers rest there [(toValid key, value.sanitize)] stack (by omega) closed]
    change (deliver (.obj ((sanitizeMembers rest).reverse ++
      [(toValid key, value.sanitize)]).reverse) stack).bind _ = _
    rw [List.reverse_append, List.reverse_reverse]
    rfl

/-- The scanner reads the other items of an array and its bracket. -/
theorem run_encodeItems (items : List Value) (numeric : NumericItems items) (done : List Value)
    (stack : List Frame) (room : stack.length + 1 + depthItems items ≤ maxNestingDepth)
    {tail : Bytes} (delimited : Delimited tail) :
    run ⟨.arrayValue done :: stack, .endValue⟩ (encodeItems items ++ tail) =
      run ⟨.arrayValue ((sanitizeItems items).reverse ++ done) :: stack, .endValue⟩ tail := by
  match items with
  | [] => rfl
  | item :: rest =>
    obtain ⟨here, there⟩ := numeric
    simp only [depthItems] at room
    rw [encodeItems, List.cons_append, List.append_assoc]
    change run ⟨.arrayValue done :: stack, .beginValue⟩ _ = _
    rw [run_encode item here (.arrayValue done :: stack) (by simp only [List.length_cons]; omega)
      fun _ _ => delimited.append_items rest]
    change run ⟨.arrayValue (item.sanitize :: done) :: stack, .endValue⟩ _ = _
    rw [run_encodeItems rest there (item.sanitize :: done) stack (by omega) delimited]
    simp [sanitizeItems]

/-- It reads the other members of an object and its brace. -/
theorem run_encodeMembers (members : List (GoString × Value)) (numeric : NumericMembers members)
    (done : List (GoString × Value)) (stack : List Frame)
    (room : stack.length + 1 + depthMembers members ≤ maxNestingDepth)
    {tail : Bytes} (delimited : Delimited tail) :
    run ⟨.objectKey done :: stack, .endValue⟩ (encodeMembers members ++ tail) =
      run ⟨.objectKey ((sanitizeMembers members).reverse ++ done) :: stack, .endValue⟩ tail := by
  match members with
  | [] => rfl
  | (key, value) :: rest =>
    obtain ⟨here, there⟩ := numeric
    simp only [depthMembers] at room
    rw [encodeMembers, List.cons_append, List.append_assoc, List.cons_append, List.append_assoc]
    change run ⟨.objectKey done :: stack, .beginString⟩ _ = _
    rw [run_key (.inl rfl), run_encode value here (.objectValue done (toValid key) :: stack)
      (by simp only [List.length_cons]; omega) fun _ _ => delimited.append_members rest]
    change run ⟨.objectKey ((toValid key, value.sanitize) :: done) :: stack, .endValue⟩ _ = _
    rw [run_encodeMembers rest there ((toValid key, value.sanitize) :: done) stack (by omega)
      delimited]
    simp [sanitizeMembers]
end

/-- What `encode` writes parses, to the sanitized value. -/
theorem parse_encode {value : Value} (numeric : value.Numeric)
    (room : value.depth ≤ maxNestingDepth) : parse (encode value) = some value.sanitize := by
  rw [parse, start, run_encode value numeric [] (by simpa using room)
    fun _ _ => ⟨0x20, [], rfl, rfl⟩]
  rfl

/-- Nothing but blanks may follow a whole text. -/
theorem run_endTop {value : Value} {text : Bytes} {last : State}
    (ran : run ⟨[], .endTop value⟩ text = some last) : last = ⟨[], .endTop value⟩ := by
  induction text with
  | nil =>
    cases ran
    rfl
  | cons byte rest ih =>
    rw [run] at ran
    obtain ⟨next, stepped, later⟩ := Option.bind_eq_some_iff.mp ran
    have stays : step ⟨[], .endTop value⟩ byte = afterValue ⟨[], .endTop value⟩ byte := rfl
    rw [stays, afterValue] at stepped
    split_ifs at stepped
    cases stepped
    exact ih later

end ShadowNet.Go.Json
