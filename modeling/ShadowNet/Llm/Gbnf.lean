import Mathlib

/-! # GBNF grammars

Grammars over characters in the notation of llama.cpp, as far as rules are sequences, alternatives
and repetitions of literals and character classes. A rule has one body.
-/

namespace ShadowNet

/-- The right side of a rule; `ι` are the names of rules. -/
inductive Gbnf (ι : Type) where
  | text (literal : List Char)
  | range (negated : Bool) (ranges : List (Char × Char))
  | rule (name : ι)
  | seq (first second : Gbnf ι)
  | alt (first second : Gbnf ι)
  | star (body : Gbnf ι)
  | plus (body : Gbnf ι)

namespace Gbnf

variable {ι : Type}

/-- Expressions one behind the other. -/
def seqs : List (Gbnf ι) → Gbnf ι
  | [] => .text []
  | [last] => last
  | first :: rest => .seq first (seqs rest)

def within (ranges : List (Char × Char)) (c : Char) : Bool :=
  ranges.any fun ends => ends.1 ≤ c && c ≤ ends.2

/-- A string that an expression derives under the rules. -/
inductive Derives (rules : ι → Gbnf ι) : Gbnf ι → List Char → Prop
  | text {literal : List Char} : Derives rules (.text literal) literal
  | range {negated : Bool} {ranges : List (Char × Char)} {c : Char}
      (own : within ranges c = !negated) : Derives rules (.range negated ranges) [c]
  | rule {name : ι} {s : List Char} (body : Derives rules (rules name) s) :
      Derives rules (.rule name) s
  | seq {first second : Gbnf ι} {left right : List Char} (front : Derives rules first left)
      (back : Derives rules second right) : Derives rules (.seq first second) (left ++ right)
  | altLeft {first second : Gbnf ι} {s : List Char} (left : Derives rules first s) :
      Derives rules (.alt first second) s
  | altRight {first second : Gbnf ι} {s : List Char} (right : Derives rules second s) :
      Derives rules (.alt first second) s
  | starNil {body : Gbnf ι} : Derives rules (.star body) []
  | starCons {body : Gbnf ι} {left right : List Char} (front : Derives rules body left)
      (back : Derives rules (.star body) right) : Derives rules (.star body) (left ++ right)
  | plus {body : Gbnf ι} {left right : List Char} (front : Derives rules body left)
      (back : Derives rules (.star body) right) : Derives rules (.plus body) (left ++ right)

/-! ## The notation -/

def escaped (c : Char) : List Char :=
  if c = '"' then ['\\', '"'] else if c = '\\' then ['\\', '\\'] else if c = '\t' then ['\\', 't']
  else if c = '\n' then ['\\', 'n'] else [c]

def printRange (ends : Char × Char) : List Char :=
  if ends.1 = ends.2 then (if ends.1 = '"' then ['"'] else escaped ends.1)
  else escaped ends.1 ++ '-' :: escaped ends.2

/-- An expression as it is written in a grammar without brackets. -/
def print (name : ι → List Char) : Gbnf ι → List Char
  | .text literal => '"' :: literal.flatMap escaped ++ ['"']
  | .range negated ranges =>
      '[' :: (if negated then ['^'] else []) ++ ranges.flatMap printRange ++ [']']
  | .rule i => name i
  | .seq first second => first.print name ++ ' ' :: second.print name
  | .alt first second => first.print name ++ [' ', '|', ' '] ++ second.print name
  | .star body => body.print name ++ ['*']
  | .plus body => body.print name ++ ['+']

/-! ## Derivations -/

section

variable {rules : ι → Gbnf ι}

theorem derives_text {literal s : List Char} : Derives rules (.text literal) s ↔ s = literal := by
  constructor
  · rintro ⟨⟩
    rfl
  · rintro rfl
    exact .text

theorem derives_rule {name : ι} {s : List Char} :
    Derives rules (.rule name) s ↔ Derives rules (rules name) s := by
  constructor
  · rintro (_ | _ | body)
    exact body
  · exact .rule

theorem derives_seq {first second : Gbnf ι} {s : List Char} : Derives rules (.seq first second) s ↔
    ∃ left right, s = left ++ right ∧ Derives rules first left ∧ Derives rules second right := by
  constructor
  · intro derived
    cases derived with
    | seq front back => exact ⟨_, _, rfl, front, back⟩
  · rintro ⟨left, right, rfl, front, back⟩
    exact .seq front back

theorem derives_seqs_cons {part : Gbnf ι} {rest : List (Gbnf ι)} {s : List Char} :
    Derives rules (seqs (part :: rest)) s ↔
      ∃ left right, s = left ++ right ∧ Derives rules part left ∧ Derives rules (seqs rest) right := by
  cases rest with
  | nil =>
    constructor
    · exact fun derived => ⟨s, [], (List.append_nil s).symm, derived, .text⟩
    · rintro ⟨left, right, rfl, front, back⟩
      rw [derives_text.mp back, List.append_nil]
      exact front
  | cons next rest => exact derives_seq

/-- A sequence derives what its parts derive, one behind the other. -/
theorem derives_seqs {parts : List (Gbnf ι)} {s : List Char} : Derives rules (seqs parts) s ↔
    ∃ pieces, List.Forall₂ (Derives rules) parts pieces ∧ s = pieces.flatten := by
  induction parts generalizing s with
  | nil =>
    rw [seqs, derives_text]
    constructor
    · rintro rfl
      exact ⟨[], .nil, rfl⟩
    · rintro ⟨pieces, each, rfl⟩
      cases each
      rfl
  | cons part rest ih =>
    rw [derives_seqs_cons]
    constructor
    · rintro ⟨left, right, rfl, front, back⟩
      obtain ⟨pieces, each, rfl⟩ := ih.mp back
      exact ⟨left :: pieces, .cons front each, rfl⟩
    · rintro ⟨pieces, each, rfl⟩
      cases each with
      | cons front each => exact ⟨_, _, rfl, front, ih.mpr ⟨_, each, rfl⟩⟩

theorem derives_seqs_append {before after : List (Gbnf ι)} {s : List Char} :
    Derives rules (seqs (before ++ after)) s ↔
      ∃ left right, s = left ++ right ∧ Derives rules (seqs before) left ∧
        Derives rules (seqs after) right := by
  induction before generalizing s with
  | nil =>
    constructor
    · exact fun derived => ⟨[], s, rfl, .text, derived⟩
    · rintro ⟨left, right, rfl, front, back⟩
      rw [derives_text.mp front]
      exact back
  | cons part rest ih =>
    rw [List.cons_append, derives_seqs_cons]
    constructor
    · rintro ⟨first, others, rfl, head, tail⟩
      obtain ⟨left, right, rfl, front, back⟩ := ih.mp tail
      exact ⟨first ++ left, right, (List.append_assoc ..).symm,
        derives_seqs_cons.mpr ⟨first, left, rfl, head, front⟩, back⟩
    · rintro ⟨left, right, rfl, front, back⟩
      obtain ⟨first, others, rfl, head, tail⟩ := derives_seqs_cons.mp front
      exact ⟨first, others ++ right, List.append_assoc .., head,
        ih.mpr ⟨others, right, rfl, tail, back⟩⟩

/-- Each part of a sequence derives a part of the string. -/
theorem derives_seqs_mem {parts : List (Gbnf ι)} {part : Gbnf ι} (member : part ∈ parts)
    {s : List Char} (derived : Derives rules (seqs parts) s) :
    ∃ left piece right, s = left ++ piece ++ right ∧ Derives rules part piece := by
  obtain ⟨before, after, rfl⟩ := List.append_of_mem member
  obtain ⟨left, rest, rfl, -, back⟩ := derives_seqs_append.mp derived
  obtain ⟨piece, right, rfl, own, -⟩ := derives_seqs_cons.mp back
  exact ⟨left, piece, right, (List.append_assoc ..).symm, own⟩

/-- Characters of a class, any number of times. -/
theorem derives_star_range {negated : Bool} {ranges : List (Char × Char)} {s : List Char}
    (own : ∀ c ∈ s, within ranges c = !negated) : Derives rules (.star (.range negated ranges)) s := by
  induction s with
  | nil => exact .starNil
  | cons c rest ih =>
    obtain ⟨head, tail⟩ := List.forall_mem_cons.mp own
    exact .starCons (.range head) (ih tail)

end

end Gbnf

end ShadowNet
