import ShadowNet.Go.Bytes

/-! # Text templates

The part of `text/template` that splices fields into text: literal text and actions of the form
`{{.A.B}}`. What the package does with any other template is a parameter, since neither its
language nor its functions matter where only fields are spliced in.
-/

namespace ShadowNet.Go.TextTemplate

inductive Piece where
  | text (literal : Bytes)
  | field (path : List GoString)
deriving DecidableEq, Repr

/-- Whether a template failed to parse or to execute. -/
inductive Failure where
  | parse
  | execute
deriving DecidableEq, Repr

/-- The text before the first `{{`, and what follows that. -/
def splitText : Bytes → Bytes × Option Bytes
  | [] => ([], none)
  | 0x7B :: 0x7B :: rest => ([], some rest)
  | byte :: rest => (byte :: (splitText rest).1, (splitText rest).2)

def isLetter (byte : UInt8) : Bool :=
  isLowerLetter byte || (65 ≤ byte.toNat && byte.toNat ≤ 90) || byte = 0x5F

/-- The field path of an action, up to and past its `}}`. -/
def lexPath : ℕ → Bytes → Option (List GoString × Bytes)
  | fuel + 1, 0x2E :: rest =>
      let (name, rest) := rest.span fun byte => isLetter byte || isDigit byte
      if (name.head?.map isLetter).getD false then
        match rest with
        | 0x7D :: 0x7D :: rest => some ([name], rest)
        | rest => (lexPath fuel rest).map fun (path, rest) => (name :: path, rest)
      else none
  | _, _ => none

/-- The pieces of a template made of text and field actions only. -/
def lexPieces : ℕ → Bytes → Option (List Piece)
  | 0, _ => none
  | fuel + 1, text =>
      match splitText text with
      | (literal, none) => some [.text literal]
      | (literal, some rest) =>
          (lexPath rest.length rest).bind fun (path, rest) =>
            (lexPieces fuel rest).map fun pieces => .text literal :: .field path :: pieces

def pieces (text : Bytes) : Option (List Piece) := lexPieces (text.length + 1) text

/-- What a template prints for data of type `σ`: how the fields print that the spliced fragment may
name, and everything else the package can do. -/
structure Engine (σ : Type) where
  field : List GoString → σ → Option Bytes
  other : Bytes → σ → Except Failure Bytes

variable {σ : Type}

def Engine.piece (engine : Engine σ) (data : σ) : Piece → Option Bytes
  | .text literal => some literal
  | .field path => engine.field path data

/-- `template.New(name).Parse(text)` and `Execute` on `data`. -/
def Engine.render (engine : Engine σ) (text : Bytes) (data : σ) : Except Failure Bytes :=
  match (pieces text).bind fun pieces => pieces.mapM (engine.piece data) with
  | some parts => .ok parts.flatten
  | none => engine.other text data

theorem splitText_plain {text : Bytes} (plain : 0x7B ∉ text) : splitText text = (text, none) := by
  induction text with
  | nil => rfl
  | cons byte rest ih =>
    rw [List.mem_cons, not_or] at plain
    rw [splitText, ih plain.2]
    rintro rest rfl
    exact fun _ => plain.1 rfl

/-- A text without braces renders as itself. -/
theorem Engine.render_plain (engine : Engine σ) {text : Bytes} (plain : 0x7B ∉ text) (data : σ) :
    engine.render text data = .ok text := by
  have whole : pieces text = some [.text text] := by
    rw [pieces, lexPieces, splitText_plain plain]
  rw [render, whole]
  simp [piece]

end ShadowNet.Go.TextTemplate
