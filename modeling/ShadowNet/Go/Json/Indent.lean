import ShadowNet.Go.Json.Scanner

/-! # Laying JSON text out

`json.Indent` with an empty prefix. It checks the text and copies it byte by byte: space between
tokens goes, and each element and member starts a line of its own. Space after the whole value
stays.
-/

namespace ShadowNet.Go.Json

/-- Where the layout is: newest byte first in `out`; a bracket that has just been opened has not
put its line break yet. -/
structure Layout where
  out : Bytes := []
  depth : ℕ := 0
  opened : Bool := false
  inString : Bool := false
  escaped : Bool := false

def Layout.put (layout : Layout) (bytes : Bytes) : Layout :=
  { layout with out := bytes.reverse ++ layout.out }

def Layout.newline (layout : Layout) (indent : Bytes) : Layout :=
  layout.put (0x0A :: (List.replicate layout.depth indent).flatten)

/-- The line break of an opened bracket that turns out not to be empty. -/
def Layout.enter (layout : Layout) (indent : Bytes) : Layout :=
  if layout.opened then
    Layout.newline { layout with opened := false, depth := layout.depth + 1 } indent
  else layout

def Layout.close (layout : Layout) (indent : Bytes) : Layout :=
  if layout.opened then { layout with opened := false }
  else Layout.newline { layout with depth := layout.depth - 1 } indent

def Layout.step (indent : Bytes) (layout : Layout) (byte : UInt8) : Layout :=
  if layout.inString then
    Layout.put
      { layout with
        escaped := !layout.escaped && byte = 0x5C
        inString := layout.escaped || byte ≠ 0x22 } [byte]
  else if isWhite byte then
    -- Only space after the value stands outside all brackets with something before it.
    if layout.depth = 0 ∧ layout.opened = false ∧ layout.out ≠ [] then layout.put [byte] else layout
  else if byte = 0x7D ∨ byte = 0x5D then (layout.close indent).put [byte]
  else
    let layout := layout.enter indent
    if byte = 0x7B ∨ byte = 0x5B then Layout.put { layout with opened := true } [byte]
    else if byte = 0x2C then (layout.put [byte]).newline indent
    else if byte = 0x3A then layout.put [byte, 0x20]
    else Layout.put { layout with inString := byte = 0x22 } [byte]

/-- `json.Indent`, or nothing for a text that is not JSON. -/
def layOut (indent text : Bytes) : Option Bytes :=
  if valid text then some (text.foldl (Layout.step indent) {}).out.reverse else none

example : layOut (lit "  ") (lit "\x7b\"a\": [1 ,2],\"b\":\x7b\x7d\x7d ") =
    some (lit "\x7b\n  \"a\": [\n    1,\n    2\n  ],\n  \"b\": \x7b\x7d\n\x7d ") := by decide

end ShadowNet.Go.Json
