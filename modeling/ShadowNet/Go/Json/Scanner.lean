import ShadowNet.Go.Utf8

/-! # Scanning JSON texts

The byte-at-a-time machine of `encoding/json`: a stack of open containers and a mode, one step per
byte, refusing at the first byte that no JSON text continues with. The machine here also builds the
value, so a scan of a whole text is a parse. Object members stay in the order of the text with
their duplicates; numbers keep their digits, for the decoder to read at the type it wants.
-/

namespace ShadowNet.Go.Json

inductive Value where
  | null
  | bool (value : Bool)
  | num (text : Bytes)
  | str (text : GoString)
  | arr (items : List Value)
  | obj (members : List (GoString × Value))
deriving Inhabited

/-- An open container; finished members are newest first. -/
inductive Frame where
  | arrayValue (done : List Value)
  | objectKey (done : List (GoString × Value))
  | objectValue (done : List (GoString × Value)) (key : GoString)

/-- Where the scanner is inside a number. -/
inductive NumState where
  | neg | zero | int | dot | frac | exp | expSign | expInt
deriving DecidableEq, Repr

inductive Escape where
  | none
  | backslash
  | hex (count value : ℕ)
deriving DecidableEq, Repr

/-- A string being read: decoded bytes, newest first, and a high surrogate that awaits its half. -/
structure StrState where
  out : Bytes
  high : Option ℕ
  escape : Escape
deriving DecidableEq, Repr

inductive Mode where
  | beginValue
  | beginValueOrEmpty
  | beginString
  | beginStringOrEmpty
  | endKey (key : GoString)
  | endValue
  | endTop (value : Value)
  | inString (isKey : Bool) (text : StrState)
  | inNumber (state : NumState) (text : Bytes)
  | inLiteral (rest : Bytes) (value : Value)

structure State where
  stack : List Frame
  mode : Mode

def isWhite (byte : UInt8) : Bool :=
  byte = 0x20 || byte = 0x09 || byte = 0x0D || byte = 0x0A

/-- The state after `byte` where it continues the number. -/
def NumState.next (state : NumState) (byte : UInt8) : Option NumState :=
  match state with
  | .neg => if byte = 0x30 then some .zero else if isDigit byte then some .int else none
  | .zero => if byte = 0x2E then some .dot else if byte = 0x65 || byte = 0x45 then some .exp else none
  | .int =>
      if isDigit byte then some .int else if byte = 0x2E then some .dot
      else if byte = 0x65 || byte = 0x45 then some .exp else none
  | .dot => if isDigit byte then some .frac else none
  | .frac =>
      if isDigit byte then some .frac else if byte = 0x65 || byte = 0x45 then some .exp else none
  | .exp =>
      if byte = 0x2B || byte = 0x2D then some .expSign
      else if isDigit byte then some .expInt else none
  | .expSign => if isDigit byte then some .expInt else none
  | .expInt => if isDigit byte then some .expInt else none

/-- Whether a number may end here. -/
def NumState.complete : NumState → Bool
  | .zero | .int | .frac | .expInt => true
  | .neg | .dot | .exp | .expSign => false

/-- A finished value goes to the innermost container, or is the text's value. -/
def deliver (value : Value) : List Frame → Option State
  | [] => some ⟨[], .endTop value⟩
  | .arrayValue done :: stack => some ⟨.arrayValue (value :: done) :: stack, .endValue⟩
  | .objectValue done key :: stack => some ⟨.objectKey ((key, value) :: done) :: stack, .endValue⟩
  | .objectKey _ :: _ => none

/-- `maxNestingDepth`. -/
def maxNestingDepth : ℕ := 10000

def push (frame : Frame) (mode : Mode) (stack : List Frame) : Option State :=
  if stack.length < maxNestingDepth then some ⟨frame :: stack, mode⟩ else none

/-- `stateBeginValue` past white space. -/
def beginValue (stack : List Frame) (byte : UInt8) : Option State :=
  if byte = 0x7B then push (.objectKey []) .beginStringOrEmpty stack
  else if byte = 0x5B then push (.arrayValue []) .beginValueOrEmpty stack
  else if byte = 0x22 then some ⟨stack, .inString false ⟨[], none, .none⟩⟩
  else if byte = 0x2D then some ⟨stack, .inNumber .neg [byte]⟩
  else if byte = 0x30 then some ⟨stack, .inNumber .zero [byte]⟩
  else if isDigit byte then some ⟨stack, .inNumber .int [byte]⟩
  else if byte = 0x74 then some ⟨stack, .inLiteral (lit "rue") (.bool true)⟩
  else if byte = 0x66 then some ⟨stack, .inLiteral (lit "alse") (.bool false)⟩
  else if byte = 0x6E then some ⟨stack, .inLiteral (lit "ull") .null⟩
  else none

/-- `stateEndValue` and `stateEndTop`: what may follow a finished value. -/
def afterValue (state : State) (byte : UInt8) : Option State :=
  if isWhite byte then some state
  else
    match state.stack, state.mode with
    | .arrayValue done :: stack, .endValue =>
        if byte = 0x2C then some ⟨state.stack, .beginValue⟩
        else if byte = 0x5D then deliver (.arr done.reverse) stack
        else none
    | .objectKey done :: stack, .endValue =>
        if byte = 0x2C then some ⟨state.stack, .beginString⟩
        else if byte = 0x7D then deliver (.obj done.reverse) stack
        else none
    | _, _ => none

def hexValue (byte : UInt8) : Option ℕ :=
  let value := byte.toNat
  if 48 ≤ value ∧ value ≤ 57 then some (value - 48)
  else if 97 ≤ value ∧ value ≤ 102 then some (value - 87)
  else if 65 ≤ value ∧ value ≤ 70 then some (value - 55)
  else none

/-- A surrogate that got no partner is read as U+FFFD. -/
def StrState.flush (text : StrState) : Bytes :=
  match text.high with
  | some _ => (encodeRune replacement).reverse ++ text.out
  | none => text.out

def StrState.emit (text : StrState) (bytes : Bytes) : StrState :=
  ⟨bytes.reverse ++ text.flush, none, .none⟩

def isHigh (unit : ℕ) : Bool := 0xD800 ≤ unit && unit < 0xDC00

def isLow (unit : ℕ) : Bool := 0xDC00 ≤ unit && unit < 0xE000

/-- A finished `\u` escape. -/
def StrState.unit (text : StrState) (unit : ℕ) : StrState :=
  match text.high with
  | some high =>
      if isLow unit then
        ⟨(encodeRune (Char.ofNat (0x10000 + (high - 0xD800) * 0x400 + (unit - 0xDC00)))).reverse ++
          text.out, none, .none⟩
      else if isHigh unit then ⟨text.flush, some unit, .none⟩
      else text.emit (encodeRune (Char.ofNat unit))
  | none =>
      if isHigh unit then ⟨text.out, some unit, .none⟩
      else if isLow unit then text.emit (encodeRune replacement)
      else text.emit (encodeRune (Char.ofNat unit))

/-- The byte a one-letter escape stands for. -/
def simpleEscape (byte : UInt8) : Option UInt8 :=
  if byte = 0x22 || byte = 0x5C || byte = 0x2F then some byte
  else if byte = 0x62 then some 0x08
  else if byte = 0x66 then some 0x0C
  else if byte = 0x6E then some 0x0A
  else if byte = 0x72 then some 0x0D
  else if byte = 0x74 then some 0x09
  else none

/-- One byte inside a string, other than the closing quote. -/
def StrState.step (text : StrState) (byte : UInt8) : Option StrState :=
  match text.escape with
  | .none =>
      if byte = 0x5C then some { text with escape := .backslash }
      else if byte.toNat < 0x20 then none
      else some (text.emit [byte])
  | .backslash =>
      if byte = 0x75 then some { text with escape := .hex 0 0 }
      else (simpleEscape byte).map fun plain => text.emit [plain]
  | .hex count value =>
      (hexValue byte).map fun digit =>
        if count = 3 then text.unit (value * 16 + digit)
        else { text with escape := .hex (count + 1) (value * 16 + digit) }

/-- The string a literal denotes: raw bytes outside UTF-8 are read as U+FFFD. -/
def StrState.close (text : StrState) : GoString := toValid text.flush.reverse

def endString (stack : List Frame) (isKey : Bool) (text : GoString) : Option State :=
  if isKey then some ⟨stack, .endKey text⟩ else deliver (.str text) stack

def step (state : State) (byte : UInt8) : Option State :=
  match state.mode with
  | .beginValue => if isWhite byte then some state else beginValue state.stack byte
  | .beginValueOrEmpty =>
      if isWhite byte then some state
      else if byte = 0x5D then
        match state.stack with
        | .arrayValue done :: stack => deliver (.arr done.reverse) stack
        | _ => none
      else beginValue state.stack byte
  | .beginString =>
      if isWhite byte then some state
      else if byte = 0x22 then some ⟨state.stack, .inString true ⟨[], none, .none⟩⟩
      else none
  | .beginStringOrEmpty =>
      if isWhite byte then some state
      else if byte = 0x22 then some ⟨state.stack, .inString true ⟨[], none, .none⟩⟩
      else if byte = 0x7D then
        match state.stack with
        | .objectKey done :: stack => deliver (.obj done.reverse) stack
        | _ => none
      else none
  | .endKey key =>
      if isWhite byte then some state
      else if byte = 0x3A then
        match state.stack with
        | .objectKey done :: stack => some ⟨.objectValue done key :: stack, .beginValue⟩
        | _ => none
      else none
  | .endValue | .endTop _ => afterValue state byte
  | .inString isKey text =>
      if text.escape = .none ∧ byte = 0x22 then endString state.stack isKey text.close
      else (text.step byte).map fun text => ⟨state.stack, .inString isKey text⟩
  | .inNumber number text =>
      match number.next byte with
      | some number => some ⟨state.stack, .inNumber number (byte :: text)⟩
      | none =>
          if number.complete then (deliver (.num text.reverse) state.stack).bind (afterValue · byte)
          else none
  | .inLiteral rest value =>
      match rest with
      | [last] => if byte = last then deliver value state.stack else none
      | next :: rest => if byte = next then some ⟨state.stack, .inLiteral rest value⟩ else none
      | [] => none

def run : State → Bytes → Option State
  | state, [] => some state
  | state, byte :: rest => (step state byte).bind fun next => run next rest

def start : State := ⟨[], .beginValue⟩

/-- The value of a state that has read a whole text. -/
def State.value? (state : State) : Option Value :=
  match state.mode with
  | .endTop value => some value
  | _ => none

/-- Parse a text that holds one value. As in the source scanner, the end of the input acts as a
blank, which ends a number at top level. -/
def parse (text : Bytes) : Option Value := (run start (text ++ [0x20])).bind State.value?

/-- `json.Valid`. -/
def valid (text : Bytes) : Bool := (parse text).isSome

/-- A scan of two texts is one after the other. -/
theorem run_append (state : State) (first second : Bytes) :
    run state (first ++ second) = (run state first).bind fun middle => run middle second := by
  induction first generalizing state with
  | nil => rfl
  | cons byte rest ih => simp only [List.cons_append, run, ih, Option.bind_assoc]

end ShadowNet.Go.Json
