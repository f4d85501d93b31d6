import Mathlib
import ShadowNet.Go.Bytes

/-! # Regular expressions

The part of package regexp that replaces: the leftmost match counts, of its possible ends the first
that the expression prefers, and every byte outside a match is copied. An expression reads bytes. A
rune past ASCII is the sequence of its UTF-8 bytes, which stands in a text only where a decoder that
starts at its front reads the rune.
-/

namespace ShadowNet.Go

inductive Regexp where
  | empty
  | byte (p : UInt8 → Bool)
  | wordBoundary
  | seq (first second : Regexp)
  | alt (first second : Regexp)
  | star (body : Regexp)

def isWordByte (byte : UInt8) : Bool :=
  isDigit byte || isLowerLetter byte || (65 ≤ byte.toNat && byte.toNat ≤ 90) || byte == 95

/-- A text ends in a word byte. -/
def wordBefore (before : Bytes) : Bool := before.getLast?.any isWordByte

/-- A text starts with a word byte. -/
def wordAfter (after : Bytes) : Bool := after.head?.any isWordByte

namespace Regexp

def bytes : Bytes → Regexp
  | [] => .empty
  | head :: rest => .seq (.byte (· == head)) (bytes rest)

def plus (body : Regexp) : Regexp := .seq body (.star body)

def times : ℕ → Regexp → Regexp
  | 0, _ => .empty
  | count + 1, body => .seq body (times count body)

def upTo : ℕ → Regexp → Regexp
  | 0, _ => .empty
  | count + 1, body => .alt (.seq body (upTo count body)) .empty

/-- `body{least,most}`. -/
def range (least most : ℕ) (body : Regexp) : Regexp :=
  .seq (times least body) (upTo (most - least) body)

/-- `\b` on both sides of `body`. -/
def word (body : Regexp) : Regexp := .seq .wordBoundary (.seq body .wordBoundary)

def lowerByte (head : UInt8) : UInt8 :=
  if 65 ≤ head.toNat ∧ head.toNat ≤ 90 then head + 32 else head

/-- `(?i)` on a set of lower-case ASCII characters. Past ASCII, the Kelvin sign folds to k and the
long s to s. -/
def fold (p : UInt8 → Bool) : Regexp :=
  .alt (.byte fun head => p (lowerByte head))
    (.alt (.seq (.byte fun head => p 107 && head == 0xE2) (bytes [0x84, 0xAA]))
      (.seq (.byte fun head => p 115 && head == 0xC5) (bytes [0xBF])))

/-- `(?i)` on a lower-case ASCII literal. -/
def foldText : Bytes → Regexp
  | [] => .empty
  | head :: rest => .seq (fold (· == head)) (foldText rest)

/-! ## Matches -/

/-- The expression takes the second text, between the first and the third. -/
inductive Matches : Regexp → Bytes → Bytes → Bytes → Prop
  | empty {before after : Bytes} : Matches .empty before [] after
  | byte {p : UInt8 → Bool} {before after : Bytes} {head : UInt8} (takes : p head = true) :
      Matches (.byte p) before [head] after
  | wordBoundary {before after : Bytes} (differ : wordBefore before ≠ wordAfter after) :
      Matches .wordBoundary before [] after
  | seq {first second : Regexp} {before taken more after : Bytes}
      (left : Matches first before taken (more ++ after))
      (right : Matches second (before ++ taken) more after) :
      Matches (.seq first second) before (taken ++ more) after
  | altLeft {first second : Regexp} {before taken after : Bytes}
      (left : Matches first before taken after) : Matches (.alt first second) before taken after
  | altRight {first second : Regexp} {before taken after : Bytes}
      (right : Matches second before taken after) : Matches (.alt first second) before taken after
  | starNil {body : Regexp} {before after : Bytes} : Matches (.star body) before [] after
  | starCons {body : Regexp} {before taken more after : Bytes}
      (left : Matches body before taken (more ++ after))
      (right : Matches (.star body) (before ++ taken) more after) :
      Matches (.star body) before (taken ++ more) after

/-- Some part of the text is taken. -/
def Found (r : Regexp) (text : Bytes) : Prop :=
  ∃ before taken after, text = before ++ taken ++ after ∧ r.Matches before taken after

/-- The ends of rounds of a star, most rounds first; a round that takes nothing is the last. -/
def starEnds (body : Bytes → Bytes → List ℕ) : ℕ → Bytes → Bytes → List ℕ
  | 0, _, _ => [0]
  | fuel + 1, before, text =>
      (((body before text).filter (0 < ·)).flatMap fun count =>
        (starEnds body fuel (before ++ text.take count) (text.drop count)).map (count + ·)) ++ [0]

/-- How many bytes at the front of `text` the expression can take, in order of preference. -/
def ends : Regexp → Bytes → Bytes → List ℕ
  | .empty, _, _ => [0]
  | .byte p, _, text => if text.head?.any p then [1] else []
  | .wordBoundary, before, text => if wordBefore before ≠ wordAfter text then [0] else []
  | .seq first second, before, text => (first.ends before text).flatMap fun count =>
      (second.ends (before ++ text.take count) (text.drop count)).map (count + ·)
  | .alt first second, before, text => first.ends before text ++ second.ends before text
  | .star body, before, text => starEnds body.ends text.length before text

theorem matches_empty {before taken after : Bytes} :
    Matches .empty before taken after ↔ taken = [] :=
  ⟨fun matched => by cases matched; rfl, fun nothing => nothing ▸ .empty⟩

theorem matches_byte {p : UInt8 → Bool} {before taken after : Bytes} :
    Matches (.byte p) before taken after ↔ ∃ head, taken = [head] ∧ p head = true := by
  constructor
  · rintro (_ | takes)
    exact ⟨_, rfl, takes⟩
  · rintro ⟨head, rfl, takes⟩
    exact .byte takes

theorem matches_wordBoundary {before taken after : Bytes} :
    Matches .wordBoundary before taken after ↔
      taken = [] ∧ wordBefore before ≠ wordAfter after := by
  constructor
  · rintro (_ | _ | differ)
    exact ⟨rfl, differ⟩
  · rintro ⟨rfl, differ⟩
    exact .wordBoundary differ

/-- A sequence takes what its parts take. -/
theorem matches_seq {first second : Regexp} {before taken after : Bytes} :
    Matches (.seq first second) before taken after ↔ ∃ left right, taken = left ++ right ∧
      Matches first before left (right ++ after) ∧ Matches second (before ++ left) right after := by
  constructor
  · intro matched
    cases matched with
    | seq left right => exact ⟨_, _, rfl, left, right⟩
  · rintro ⟨left, right, rfl, matchedLeft, matchedRight⟩
    exact .seq matchedLeft matchedRight

theorem matches_alt {first second : Regexp} {before taken after : Bytes} :
    Matches (.alt first second) before taken after ↔
      Matches first before taken after ∨ Matches second before taken after := by
  constructor
  · intro matched
    cases matched with
    | altLeft left => exact .inl left
    | altRight right => exact .inr right
  · rintro (left | right)
    · exact .altLeft left
    · exact .altRight right

theorem mem_starEnds {body : Regexp} {step : Bytes → Bytes → List ℕ}
    (correct : ∀ before text count, count ∈ step before text ↔
      ∃ taken after, text = taken ++ after ∧ taken.length = count ∧ body.Matches before taken after)
    {fuel : ℕ} {before text : Bytes} (enough : text.length ≤ fuel) (count : ℕ) :
    count ∈ starEnds step fuel before text ↔ ∃ taken after, text = taken ++ after ∧
      taken.length = count ∧ (star body).Matches before taken after := by
  constructor
  · clear enough
    induction fuel generalizing before text count with
    | zero =>
      intro member
      obtain rfl := List.mem_singleton.mp member
      exact ⟨[], text, rfl, rfl, .starNil⟩
    | succ fuel ih =>
      intro member
      simp only [starEnds, List.mem_append, List.mem_flatMap, List.mem_filter, List.mem_map,
        List.mem_singleton] at member
      obtain ⟨first, ⟨round, -⟩, rest, later, rfl⟩ | rfl := member
      · obtain ⟨taken, after, rfl, rfl, left⟩ := (correct _ _ _).mp round
        rw [List.take_left, List.drop_left] at later
        obtain ⟨more, after, rfl, rfl, right⟩ := ih rest later
        exact ⟨taken ++ more, after, by rw [List.append_assoc], List.length_append,
          .starCons left right⟩
      · exact ⟨[], text, rfl, rfl, .starNil⟩
  · rintro ⟨taken, after, rfl, rfl, matched⟩
    generalize isStar : star body = whole at matched
    induction matched generalizing fuel with
    | starNil => cases fuel <;> simp [starEnds]
    | @starCons body' before taken more after left right _ ih =>
      cases isStar
      obtain rfl | some := eq_or_ne taken []
      · -- a round that takes nothing is not counted
        rw [List.append_nil] at ih
        exact ih enough rfl
      · have positive := List.length_pos_iff.mpr some
        obtain ⟨fuel, rfl⟩ : ∃ less, fuel = less + 1 :=
          Nat.exists_eq_succ_of_ne_zero (by simp only [List.length_append] at enough; omega)
        have later := @ih fuel (by simp only [List.length_append] at enough ⊢; omega) rfl
        simp only [starEnds, List.mem_append, List.mem_flatMap, List.mem_filter, List.mem_map]
        refine .inl ⟨taken.length, ⟨?_, by simpa using positive⟩, more.length, ?_, ?_⟩
        · rw [List.append_assoc]
          exact (correct _ _ _).mpr ⟨taken, more ++ after, rfl, rfl, left⟩
        · rwa [List.append_assoc, List.take_left, List.drop_left]
        · exact List.length_append.symm
    | _ => cases isStar

/-- The matcher finds all that the expression can take. -/
theorem mem_ends {r : Regexp} {before text : Bytes} {count : ℕ} : count ∈ r.ends before text ↔
    ∃ taken after, text = taken ++ after ∧ taken.length = count ∧ r.Matches before taken after := by
  induction r generalizing before text count with
  | empty =>
    simp only [ends, List.mem_singleton, matches_empty]
    constructor
    · rintro rfl
      exact ⟨[], text, rfl, rfl, rfl⟩
    · rintro ⟨-, after, -, rfl, rfl⟩
      rfl
  | byte p =>
    simp only [matches_byte]
    constructor
    · intro member
      cases text with
      | nil => simp [ends] at member
      | cons head rest =>
        by_cases takes : p head = true
        · obtain rfl : count = 1 := by simpa [ends, takes] using member
          exact ⟨[head], rest, rfl, rfl, head, rfl, takes⟩
        · simp [ends, takes] at member
    · rintro ⟨-, after, rfl, rfl, head, rfl, takes⟩
      simp [ends, takes]
  | wordBoundary =>
    simp only [ends, List.mem_ite_nil_right, List.mem_singleton, matches_wordBoundary]
    constructor
    · rintro ⟨differ, rfl⟩
      exact ⟨[], text, rfl, rfl, rfl, differ⟩
    · rintro ⟨-, after, rfl, rfl, rfl, differ⟩
      exact ⟨differ, rfl⟩
  | seq first second ihFirst ihSecond =>
    simp only [ends, List.mem_flatMap, List.mem_map, matches_seq]
    constructor
    · rintro ⟨front, member, rest, later, rfl⟩
      obtain ⟨left, middle, rfl, rfl, matchedLeft⟩ := ihFirst.mp member
      rw [List.take_left, List.drop_left] at later
      obtain ⟨right, after, rfl, rfl, matchedRight⟩ := ihSecond.mp later
      exact ⟨left ++ right, after, by rw [List.append_assoc], List.length_append, left, right, rfl,
        matchedLeft, matchedRight⟩
    · rintro ⟨-, after, rfl, rfl, left, right, rfl, matchedLeft, matchedRight⟩
      refine ⟨left.length, ihFirst.mpr ⟨left, right ++ after, by rw [List.append_assoc], rfl,
        matchedLeft⟩, right.length, ?_, List.length_append.symm⟩
      rw [List.append_assoc, List.take_left, List.drop_left]
      exact ihSecond.mpr ⟨right, after, rfl, rfl, matchedRight⟩
  | alt first second ihFirst ihSecond =>
    simp only [ends, List.mem_append, ihFirst, ihSecond, matches_alt]
    constructor
    · rintro (⟨taken, after, whole, long, left⟩ | ⟨taken, after, whole, long, right⟩)
      · exact ⟨taken, after, whole, long, .inl left⟩
      · exact ⟨taken, after, whole, long, .inr right⟩
    · rintro ⟨taken, after, whole, long, left | right⟩
      · exact .inl ⟨taken, after, whole, long, left⟩
      · exact .inr ⟨taken, after, whole, long, right⟩
  | star body ih => exact mem_starEnds (fun before text count => ih) (Nat.le_refl _) count

theorem Matches.ends_ne_nil {r : Regexp} {before taken after : Bytes}
    (matched : r.Matches before taken after) : r.ends before (taken ++ after) ≠ [] :=
  List.ne_nil_of_mem (mem_ends.mpr ⟨taken, after, rfl, rfl, matched⟩)

/-- A text has a match exactly where the expression has an end behind some front. -/
theorem found_iff {r : Regexp} {text : Bytes} :
    r.Found text ↔ ∃ before rest, text = before ++ rest ∧ r.ends before rest ≠ [] := by
  constructor
  · rintro ⟨before, taken, after, rfl, matched⟩
    exact ⟨before, taken ++ after, List.append_assoc .., matched.ends_ne_nil⟩
  · rintro ⟨before, rest, rfl, some⟩
    obtain ⟨count, member⟩ := List.exists_mem_of_ne_nil _ some
    obtain ⟨taken, after, rfl, -, matched⟩ := mem_ends.mp member
    exact ⟨before, taken, after, (List.append_assoc ..).symm, matched⟩

/-! ## What a match takes -/

/-- No match is shorter. -/
def minLength : Regexp → ℕ
  | .empty => 0
  | .byte _ => 1
  | .wordBoundary => 0
  | .seq first second => first.minLength + second.minLength
  | .alt first second => min first.minLength second.minLength
  | .star _ => 0

/-- The expression does not look at what stands beside a match. -/
def Free : Regexp → Prop
  | .empty => True
  | .byte _ => True
  | .wordBoundary => False
  | .seq first second => first.Free ∧ second.Free
  | .alt first second => first.Free ∧ second.Free
  | .star body => body.Free

/-- Every byte of a match is in `P`. -/
def Over (P : UInt8 → Prop) : Regexp → Prop
  | .empty => True
  | .byte p => ∀ head, p head = true → P head
  | .wordBoundary => True
  | .seq first second => first.Over P ∧ second.Over P
  | .alt first second => first.Over P ∧ second.Over P
  | .star body => body.Over P

/-- The first byte of a match is in `P`. -/
def StartsIn (P : UInt8 → Prop) : Regexp → Prop
  | .empty => True
  | .byte p => ∀ head, p head = true → P head
  | .wordBoundary => True
  | .seq first second => first.StartsIn P ∧ (0 < first.minLength ∨ second.StartsIn P)
  | .alt first second => first.StartsIn P ∧ second.StartsIn P
  | .star body => body.StartsIn P

/-- The last byte of a match is in `P`. -/
def EndsIn (P : UInt8 → Prop) : Regexp → Prop
  | .empty => True
  | .byte p => ∀ head, p head = true → P head
  | .wordBoundary => True
  | .seq first second => second.EndsIn P ∧ (0 < second.minLength ∨ first.EndsIn P)
  | .alt first second => first.EndsIn P ∧ second.EndsIn P
  | .star body => body.EndsIn P

section Derived

variable {P : UInt8 → Prop} {body : Regexp}

theorem free_times (count : ℕ) (free : body.Free) : (times count body).Free := by
  induction count with
  | zero => trivial
  | succ count ih => exact ⟨free, ih⟩

theorem over_times (count : ℕ) (within : body.Over P) : (times count body).Over P := by
  induction count with
  | zero => trivial
  | succ count ih => exact ⟨within, ih⟩

theorem endsIn_times (count : ℕ) (finish : body.EndsIn P) : (times count body).EndsIn P := by
  induction count with
  | zero => trivial
  | succ count ih => exact ⟨ih, .inr finish⟩

theorem free_fold (p : UInt8 → Bool) : (fold p).Free := by simp [fold, bytes, Free]

private theorem not_mem_of_lowered {p : UInt8 → Bool} {others : Bytes}
    (ascii : ∀ byte ∈ others, p (lowerByte byte) = false) (head : UInt8)
    (takes : p (lowerByte head) = true) : head ∉ others := by
  intro member
  rw [ascii head member] at takes
  cases takes

theorem over_fold {p : UInt8 → Bool} {others : Bytes}
    (ascii : ∀ byte ∈ others, p (lowerByte byte) = false)
    (wide : ∀ byte ∈ [0xE2, 0x84, 0xAA, 0xC5, 0xBF], byte ∉ others) :
    (fold p).Over (· ∉ others) := by
  simp only [List.forall_mem_cons] at wide
  simpa [fold, bytes, Over, wide] using not_mem_of_lowered ascii

theorem endsIn_fold {p : UInt8 → Bool} {others : Bytes}
    (ascii : ∀ byte ∈ others, p (lowerByte byte) = false)
    (wide : ∀ byte ∈ [0xAA, 0xBF], byte ∉ others) : (fold p).EndsIn (· ∉ others) := by
  simp only [List.forall_mem_cons] at wide
  simpa [fold, bytes, EndsIn, minLength, wide] using not_mem_of_lowered ascii

theorem free_foldText (text : Bytes) : (foldText text).Free := by
  induction text with
  | nil => trivial
  | cons head rest ih => exact ⟨free_fold _, ih⟩

theorem over_foldText {text others : Bytes} (ascii : ∀ byte ∈ others, lowerByte byte ∉ text)
    (wide : ∀ byte ∈ [0xE2, 0x84, 0xAA, 0xC5, 0xBF], byte ∉ others) :
    (foldText text).Over (· ∉ others) := by
  induction text with
  | nil => trivial
  | cons head rest ih =>
    refine ⟨over_fold (fun byte member => ?_) wide,
      ih fun byte member => List.not_mem_of_not_mem_cons (ascii byte member)⟩
    exact beq_eq_false_iff_ne.mpr (List.ne_of_not_mem_cons (ascii byte member))

end Derived

namespace Matches

variable {r : Regexp} {before taken after : Bytes} {P : UInt8 → Prop}

theorem minLength_le (matched : r.Matches before taken after) : r.minLength ≤ taken.length := by
  induction matched with
  | empty | byte | wordBoundary | starNil => simp [minLength]
  | seq _ _ ihLeft ihRight =>
    rw [minLength, List.length_append]
    omega
  | altLeft _ ih | altRight _ ih =>
    rw [minLength]
    omega
  | starCons => simp [minLength]

theorem ne_nil (matched : r.Matches before taken after) (positive : 0 < r.minLength) :
    taken ≠ [] :=
  List.length_pos_iff.mp (Nat.lt_of_lt_of_le positive matched.minLength_le)

theorem move (matched : r.Matches before taken after) (free : r.Free) (before' after' : Bytes) :
    r.Matches before' taken after' := by
  induction matched generalizing before' after' with
  | empty => exact .empty
  | byte takes => exact .byte takes
  | wordBoundary => exact free.elim
  | seq _ _ ihLeft ihRight => exact .seq (ihLeft free.1 _ _) (ihRight free.2 _ _)
  | altLeft _ ih => exact .altLeft (ih free.1 _ _)
  | altRight _ ih => exact .altRight (ih free.2 _ _)
  | starNil => exact .starNil
  | starCons _ _ ihLeft ihRight => exact .starCons (ihLeft free _ _) (ihRight free _ _)

theorem bytes_over (matched : r.Matches before taken after) (within : r.Over P) :
    ∀ byte ∈ taken, P byte := by
  induction matched with
  | empty | wordBoundary | starNil => simp
  | byte takes => simpa using within _ takes
  | seq _ _ ihLeft ihRight =>
    exact List.forall_mem_append.mpr ⟨ihLeft within.1, ihRight within.2⟩
  | altLeft _ ih => exact ih within.1
  | altRight _ ih => exact ih within.2
  | starCons _ _ ihLeft ihRight =>
    exact List.forall_mem_append.mpr ⟨ihLeft within, ihRight within⟩

theorem head (matched : r.Matches before taken after) (starts : r.StartsIn P) :
    ∀ byte ∈ taken.head?, P byte := by
  induction matched with
  | empty | wordBoundary | starNil => simp
  | byte takes => simpa using starts _ takes
  | @seq _ _ _ taken more _ left _ ihLeft ihRight =>
    rw [List.head?_append]
    obtain positive | starts' := starts.2
    · obtain ⟨byte, rest, rfl⟩ := List.exists_cons_of_ne_nil (left.ne_nil positive)
      exact ihLeft starts.1
    · cases taken with
      | nil => exact ihRight starts'
      | cons => exact ihLeft starts.1
  | altLeft _ ih => exact ih starts.1
  | altRight _ ih => exact ih starts.2
  | @starCons _ _ taken _ _ _ _ ihLeft ihRight =>
    rw [List.head?_append]
    cases taken with
    | nil => exact ihRight starts
    | cons => exact ihLeft starts

theorem getLast (matched : r.Matches before taken after) (finish : r.EndsIn P) :
    ∀ byte ∈ taken.getLast?, P byte := by
  induction matched with
  | empty | wordBoundary | starNil => simp
  | byte takes => simpa using finish _ takes
  | @seq _ _ _ _ more _ _ right ihLeft ihRight =>
    rw [List.getLast?_append]
    obtain rfl | ⟨front, byte, rfl⟩ := List.eq_nil_or_concat more
    · obtain positive | finish' := finish.2
      · exact absurd rfl (right.ne_nil positive)
      · exact ihLeft finish'
    · simpa using ihRight finish.1
  | altLeft _ ih => exact ih finish.1
  | altRight _ ih => exact ih finish.2
  | @starCons _ _ _ more _ _ _ ihLeft ihRight =>
    rw [List.getLast?_append]
    obtain rfl | ⟨front, byte, rfl⟩ := List.eq_nil_or_concat more
    · exact ihLeft finish
    · simpa using ihRight finish

end Matches

end Regexp

/-! ## Replacement -/

/-- An expression that takes at least one byte. -/
structure Pattern where
  regexp : Regexp
  consumes : 0 < regexp.minLength

/-- A piece of a text: a byte outside every match, or a match. -/
inductive Token where
  | plain (byte : UInt8)
  | hit (taken : Bytes)
deriving DecidableEq

namespace Token

def bytes : Token → Bytes
  | .plain byte => [byte]
  | .hit taken => taken

def render (repl : Bytes) : Token → Bytes
  | .plain byte => [byte]
  | .hit _ => repl

def isHit : Token → Bool
  | .plain _ => false
  | .hit _ => true

end Token

/-- The pieces of `text` after its first `skip` bytes, which a match has taken. -/
def scan (r : Regexp) : Bytes → ℕ → Bytes → List Token
  | _, _, [] => []
  | before, skip + 1, byte :: text => scan r (before ++ [byte]) skip text
  | before, 0, byte :: text =>
      match (r.ends before (byte :: text)).head? with
      | some count =>
          .hit ((byte :: text).take count) :: scan r (before ++ [byte]) (count - 1) text
      | none => .plain byte :: scan r (before ++ [byte]) 0 text

namespace Pattern

variable (p : Pattern)

def Found (text : Bytes) : Prop := p.regexp.Found text

def tokens (text : Bytes) : List Token := scan p.regexp [] 0 text

/-- `ReplaceAllString` with a replacement that has no `$`. -/
def replaceAll (text repl : Bytes) : Bytes := (p.tokens text).flatMap (Token.render repl)

variable {p}

theorem scan_bytes (before : Bytes) (skip : ℕ) (text : Bytes) :
    (scan p.regexp before skip text).flatMap Token.bytes = text.drop skip := by
  fun_induction scan p.regexp before skip text with
  | case1 => simp
  | case2 before skip byte text ih => simpa using ih
  | case3 before byte text count first ih =>
    obtain ⟨taken, after, whole, rfl, matched⟩ :=
      Regexp.mem_ends.mp (List.mem_of_head? first)
    have positive := Nat.lt_of_lt_of_le p.consumes matched.minLength_le
    obtain ⟨less, long⟩ := Nat.exists_eq_succ_of_ne_zero positive.ne'
    rw [List.flatMap_cons, ih, Token.bytes, long, Nat.succ_sub_one, Nat.succ_eq_add_one,
      List.take_succ_cons, List.cons_append, List.take_append_drop, List.drop_zero]
  | case4 before byte text none ih =>
    rw [List.flatMap_cons, ih, Token.bytes, List.drop_zero, List.drop_zero, List.singleton_append]

/-- The pieces make up the text. -/
theorem tokens_bytes (text : Bytes) : (p.tokens text).flatMap Token.bytes = text :=
  scan_bytes [] 0 text

/-- No match starts at a byte outside every match. -/
theorem scan_plain {before : Bytes} {skip : ℕ} {text : Bytes} {pre post : List Token} {byte : UInt8}
    (pieces : scan p.regexp before skip text = pre ++ .plain byte :: post) :
    p.regexp.ends (before ++ text.take skip ++ pre.flatMap Token.bytes)
      (byte :: post.flatMap Token.bytes) = [] := by
  fun_induction scan p.regexp before skip text generalizing pre with
  | case1 => simp at pieces
  | case2 before skip other text ih => simpa using ih pieces
  | case3 before other text count first ih =>
    obtain ⟨taken, after, whole, rfl, matched⟩ :=
      Regexp.mem_ends.mp (List.mem_of_head? first)
    have positive := Nat.lt_of_lt_of_le p.consumes matched.minLength_le
    obtain ⟨less, long⟩ := Nat.exists_eq_succ_of_ne_zero positive.ne'
    cases pre with
    | nil => simp at pieces
    | cons token pre =>
      obtain ⟨rfl, rest⟩ := List.cons_eq_cons.mp pieces
      have later := ih rest
      rw [long] at later ⊢
      simpa [Token.bytes, List.append_assoc] using later
  | case4 before other text none ih =>
    cases pre with
    | nil =>
      obtain ⟨same, rest⟩ := List.cons_eq_cons.mp pieces
      cases same
      rw [← rest, scan_bytes]
      simpa using none
    | cons token pre =>
      obtain ⟨rfl, rest⟩ := List.cons_eq_cons.mp pieces
      simpa [Token.bytes, List.append_assoc] using ih rest

theorem not_matches_plain {text : Bytes} {pre post : List Token} {byte : UInt8} {taken after : Bytes}
    (pieces : p.tokens text = pre ++ .plain byte :: post)
    (split : byte :: post.flatMap Token.bytes = taken ++ after) :
    ¬ p.regexp.Matches (pre.flatMap Token.bytes) taken after := by
  intro matched
  apply matched.ends_ne_nil
  have none := scan_plain pieces
  rwa [split] at none

/-- A run of bytes outside every match is not one. -/
theorem not_matches_run {text taken : Bytes} {pre post : List Token}
    (pieces : p.tokens text = pre ++ taken.map .plain ++ post) :
    ¬ p.regexp.Matches (pre.flatMap Token.bytes) taken (post.flatMap Token.bytes) := by
  intro matched
  obtain ⟨byte, rest, rfl⟩ := List.exists_cons_of_ne_nil (matched.ne_nil p.consumes)
  refine not_matches_plain (pieces.trans (List.append_assoc ..)) ?_ matched
  simp [List.flatMap_map, Token.bytes]

end Pattern

/-! ## What stands in a text after a replacement -/

/-- No occurrence of `taken` can share a byte with an inserted `repl`. -/
structure Apart (repl taken : Bytes) : Prop where
  some : repl ≠ []
  first : ∀ byte ∈ repl.head?, byte ∉ taken
  last : ∀ byte ∈ repl.getLast?, byte ∉ taken
  inner : ¬ taken <:+: repl

theorem render_front {repl taken after : Bytes} {tokens : List Token} (apart : repl ≠ [])
    (first : ∀ byte ∈ repl.head?, byte ∉ taken)
    (whole : tokens.flatMap (Token.render repl) = taken ++ after) :
    ∃ post, tokens = taken.map .plain ++ post ∧ post.flatMap (Token.render repl) = after := by
  induction taken generalizing tokens with
  | nil => exact ⟨tokens, rfl, whole⟩
  | cons byte taken ih =>
    have later := fun other member => List.not_mem_of_not_mem_cons (first other member)
    cases tokens with
    | nil => cases whole
    | cons token tokens =>
      cases token with
      | plain other =>
        obtain ⟨rfl, rest⟩ := List.cons_eq_cons.mp whole
        obtain ⟨post, rfl, rendered⟩ := ih later rest
        exact ⟨post, rfl, rendered⟩
      | hit gone =>
        obtain ⟨other, more, rfl⟩ := List.exists_cons_of_ne_nil apart
        obtain ⟨rfl, -⟩ := List.cons_eq_cons.mp whole
        exact absurd (List.mem_cons_self ..) (first _ rfl)

/-- Text that stands apart from the replacement was there before it. -/
theorem render_split {repl before taken after : Bytes} {tokens : List Token}
    (apart : Apart repl taken)
    (whole : tokens.flatMap (Token.render repl) = before ++ taken ++ after) :
    ∃ pre post, tokens = pre ++ taken.map .plain ++ post ∧
      pre.flatMap (Token.render repl) = before ∧ post.flatMap (Token.render repl) = after := by
  induction tokens generalizing before with
  | nil =>
    have empty := (List.append_eq_nil_iff.mp (List.append_eq_nil_iff.mp whole.symm).1).2
    exact absurd (empty ▸ List.nil_infix) apart.inner
  | cons token tokens ih =>
    cases before with
    | nil =>
      obtain ⟨post, pieces, rendered⟩ := render_front apart.some apart.first whole
      exact ⟨[], post, pieces, rfl, rendered⟩
    | cons byte before =>
      cases token with
      | plain other =>
        obtain ⟨rfl, rest⟩ := List.cons_eq_cons.mp whole
        obtain ⟨pre, post, rfl, rfl, rendered⟩ := ih rest
        exact ⟨.plain other :: pre, post, rfl, rfl, rendered⟩
      | hit gone =>
        rw [List.flatMap_cons, Token.render, List.append_assoc] at whole
        obtain ⟨more, front, rest⟩ | ⟨more, front, rest⟩ := List.append_eq_append_iff.mp whole
        · obtain ⟨pre, post, rfl, rfl, rendered⟩ := ih (rest.trans (List.append_assoc ..).symm)
          exact ⟨.hit gone :: pre, post, rfl, front.symm, rendered⟩
        · -- `more` is what the replacement and `taken ++ after` share
          obtain ⟨more', long, -⟩ | ⟨more', long, -⟩ := List.append_eq_append_iff.mp rest
          · refine absurd ?_ apart.inner
            rw [front, long]
            exact ⟨byte :: before, more', List.append_assoc ..⟩
          · obtain rfl | ⟨init, last, rfl⟩ := List.eq_nil_or_concat more
            · obtain ⟨pre, post, rfl, nothing, rendered⟩ :=
                @ih [] (rest.symm.trans rfl)
              refine ⟨.hit gone :: pre, post, rfl, ?_, rendered⟩
              rw [List.flatMap_cons, nothing, Token.render, front, List.append_nil,
                List.append_nil]
            · refine absurd ?_ (apart.last last ?_)
              · simp [long]
              · rw [front, List.concat_eq_append, ← List.append_assoc]
                exact List.getLast?_concat

theorem wordBefore_render {repl : Bytes} {pre : List Token}
    (last : pre.getLast?.any Token.isHit = false) :
    wordBefore (pre.flatMap (Token.render repl)) = wordBefore (pre.flatMap Token.bytes) := by
  obtain rfl | ⟨init, token, rfl⟩ := List.eq_nil_or_concat pre
  · rfl
  · cases token with
    | plain byte => simp [wordBefore, Token.render, Token.bytes]
    | hit gone => simp [Token.isHit] at last

theorem wordAfter_render {repl : Bytes} {post : List Token}
    (first : post.head?.any Token.isHit = false) :
    wordAfter (post.flatMap (Token.render repl)) = wordAfter (post.flatMap Token.bytes) := by
  cases post with
  | nil => rfl
  | cons token post =>
    cases token with
    | plain byte => rfl
    | hit gone => cases first

namespace Pattern

/-- An expression that does not look beside its matches is not found in what it leaves. -/
theorem not_found_replaceAll {p : Pattern} {repl : Bytes} (free : p.regexp.Free)
    (apart : ∀ taken, p.regexp.Matches [] taken [] → Apart repl taken) (text : Bytes) :
    ¬ p.Found (p.replaceAll text repl) := by
  rintro ⟨before, taken, after, whole, matched⟩
  obtain ⟨pre, post, pieces, -, -⟩ := render_split (apart taken (matched.move free [] [])) whole
  exact not_matches_run pieces (matched.move free _ _)

end Pattern

/-! ## Words -/

namespace Regexp

/-- An expression whose matches lie between two word bytes. -/
structure Wordy (body : Regexp) : Prop where
  consumes : 0 < body.minLength
  free : body.Free
  starts : body.StartsIn (isWordByte · = true)
  finish : body.EndsIn (isWordByte · = true)

theorem matches_word {body : Regexp} (wordy : body.Wordy) {before taken after : Bytes} :
    (word body).Matches before taken after ↔ wordBefore before = false ∧
      body.Matches [] taken [] ∧ wordAfter after = false := by
  have inside {before taken after} (matched : body.Matches before taken after) :
      (∀ more, wordAfter (taken ++ more) = true) ∧ ∀ front, wordBefore (front ++ taken) = true := by
    have some := matched.ne_nil wordy.consumes
    refine ⟨fun more => ?_, fun front => ?_⟩
    · obtain ⟨byte, rest, rfl⟩ := List.exists_cons_of_ne_nil some
      exact matched.head wordy.starts byte rfl
    · obtain ⟨init, byte, rfl⟩ := (List.eq_nil_or_concat taken).resolve_left some
      simpa [wordBefore] using matched.getLast wordy.finish byte (by simp)
  simp only [word, matches_seq, matches_wordBoundary]
  constructor
  · rintro ⟨-, -, rfl, ⟨rfl, starts⟩, middle, -, rfl, matched, rfl, ends⟩
    rw [List.append_nil, (inside matched).1] at starts
    rw [List.append_nil, (inside matched).2] at ends
    rw [List.nil_append, List.append_nil]
    exact ⟨by simpa using starts, matched.move wordy.free [] [], by simpa using ends⟩
  · rintro ⟨starts, matched, ends⟩
    refine ⟨[], taken, rfl, ⟨rfl, ?_⟩, taken, [], (List.append_nil _).symm,
      matched.move wordy.free _ _, rfl, ?_⟩
    · rw [(inside matched).1, starts]
      decide
    · rw [(inside matched).2, ends]
      decide

/-- A word is found where the expression takes text that no word byte stands beside. -/
theorem found_word {body : Regexp} (wordy : body.Wordy) {text : Bytes} : (word body).Found text ↔
    ∃ before taken after, text = before ++ taken ++ after ∧ wordBefore before = false ∧
      body.Matches [] taken [] ∧ wordAfter after = false := by
  simp only [Found, matches_word wordy]

end Regexp

/-- A replacement that is a word itself leaves no word of the expression. -/
theorem Pattern.not_found_replaceAll_word {p : Pattern} {body : Regexp} {repl : Bytes}
    (isWord : p.regexp = body.word) (wordy : body.Wordy)
    (apart : ∀ taken, body.Matches [] taken [] → Apart repl taken)
    (first : wordAfter repl = true) (last : wordBefore repl = true) (text : Bytes) :
    ¬ p.Found (p.replaceAll text repl) := by
  rw [Found, isWord, Regexp.found_word wordy]
  rintro ⟨before, taken, after, whole, starts, matched, ends⟩
  obtain ⟨pre, post, pieces, rfl, rfl⟩ := render_split (apart taken matched) whole
  apply not_matches_run pieces
  rw [isWord, Regexp.matches_word wordy]
  refine ⟨?_, matched, ?_⟩
  · rw [← starts, wordBefore_render]
    obtain rfl | ⟨init, byte | gone, rfl⟩ := List.eq_nil_or_concat pre
    · rfl
    · simp [Token.isHit]
    · obtain ⟨front, byte, rfl⟩ := (List.eq_nil_or_concat repl).resolve_left (apart taken matched).some
      simp_all [wordBefore, Token.render]
  · rw [← ends, wordAfter_render]
    obtain _ | ⟨byte | gone, post⟩ := post
    · rfl
    · rfl
    · obtain ⟨byte, rest, rfl⟩ := List.exists_cons_of_ne_nil (apart taken matched).some
      simp_all [wordAfter, Token.render]

end ShadowNet.Go
