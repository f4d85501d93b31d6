import Mathlib
import ShadowNet.Js.Regexp

/-! # Rendering Markdown

`renderMarkdown` of `lib/docs/markdown.tsx`. Its loop takes a block off the lines that are left: the
kinds are tried one after the other, and what is none of the others is a paragraph. A paragraph
stops at a line that looks like the start of another block. The node of a link has its target as it
is written; the keys of the nodes are left out.
-/

namespace ShadowNet.Website

open Js Js.Regexp

/-! ## Expressions -/

/-- `/^```/`. -/
def fence : Regexp := .text [0x60, 0x60, 0x60]

/-- `\s+`. -/
def spaces : Regexp := .plus .space

/-- `#{1,4}`. -/
def marks : Regexp := .seq (.one 0x23) (.upTo 3 (.one 0x23))

/-- `/^(#{1,4})\s+/`. -/
def headingStart : Regexp := .seq marks spaces

/-- `/^\s*$/`. -/
def blank : Regexp := .star .space

/-- `/^>\s?/`. -/
def quote : Regexp := .seq (.one 0x3E) (.opt .space)

/-- `/^(\*|-)\s+/`. -/
def bullet : Regexp := .seq (.alt (.one 0x2A) (.one 0x2D)) spaces

/-- `/^\d+\.\s+/`. -/
def numbered : Regexp := .seq (.plus .digit) (.seq (.one 0x2E) spaces)

/-- A unit three times or more. -/
def threeOf (head : UInt16) : Regexp := .all [.one head, .one head, .plus (.one head)]

/-- `/^(-{3,}|\*{3,}|_{3,})$/`. -/
def rule : Regexp := .alt (threeOf 0x2D) (.alt (threeOf 0x2A) (threeOf 0x5F))

/-- `\s*:?-{3,}:?\s*`. -/
def sepCell : Regexp :=
  .all [.star .space, .opt (.one 0x3A), threeOf 0x2D, .opt (.one 0x3A), .star .space]

/-- `/^\s*\|?\s*:?-{3,}:?\s*(\|\s*:?-{3,}:?\s*)+\|?\s*$/`. -/
def tableSep : Regexp :=
  .all [.star .space, .opt (.one 0x7C), sepCell, .plus (.seq (.one 0x7C) sepCell), .opt (.one 0x7C),
    .star .space]

/-- `` /(`[^`]+`)|(\*\*[^*]+\*\*)|(\[[^\]]+\]\([^)]+\))/ ``. -/
def inlineToken : Regexp :=
  .alt (.all [.one 0x60, .plus (.unit (· != 0x60)), .one 0x60])
    (.alt (.all [.text [0x2A, 0x2A], .plus (.unit (· != 0x2A)), .text [0x2A, 0x2A]])
      (.all [.one 0x5B, .plus (.unit (· != 0x5D)), .text [0x5D, 0x28], .plus (.unit (· != 0x29)),
        .one 0x29]))

/-- `/^(#{1,4})\s+(.+)$/.exec`, with what the two groups take. -/
def execHeading (line : JsString) : Option (JsString × JsString) :=
  (marks.ends line).findSome? fun first =>
    (spaces.ends (line.drop first)).findSome? fun second =>
      if (plus dot).testWhole (line.drop (first + second)) then
        some (line.take first, line.drop (first + second))
      else none

/-- `line.replace(/^body/, "")`. -/
def stripStart (body : Regexp) (line : JsString) : JsString :=
  line.drop ((body.ends line).headD 0)

def isTableRow (l : JsString) : Bool := 0x7C ∈ l && !(Regexp.seq (.star .space) fence).test l

def isTableSep (l : JsString) : Bool := tableSep.testWhole l

/-! ## Inline parts -/

inductive Inline where
  | text (text : JsString)
  | code (text : JsString)
  | strong (text : JsString)
  | link (label target : JsString)
deriving DecidableEq

/-- The part that a token stands for. -/
def inlineOf (token : JsString) : Inline :=
  if token.head? = some 0x60 then .code (token.drop 1).dropLast
  else if [0x2A, 0x2A] <+: token then .strong (token.drop 2).dropLast.dropLast
  else
    let label := (token.drop 1).takeWhile (· ≠ 0x5D)
    .link label (token.drop (label.length + 3)).dropLast

def textPart (pending : JsString) : List Inline := if pending = [] then [] else [.text pending.reverse]

/-- The loop of `splitInline`: `pending` has what is read since the last token, backwards, and `skip`
counts what is left of the token itself. -/
def splitFrom : JsString → ℕ → JsString → List Inline
  | pending, _, [] => textPart pending
  | pending, skip + 1, _ :: rest => splitFrom pending skip rest
  | pending, 0, head :: rest =>
      match (inlineToken.ends (head :: rest)).head? with
      | none => splitFrom (head :: pending) 0 rest
      | some count =>
          textPart pending ++ inlineOf ((head :: rest).take count) :: splitFrom [] (count - 1) rest

def splitInline (text : JsString) : List Inline := splitFrom [] 0 text

/-! ## Blocks -/

inductive TextAlign where
  | left | center | right
deriving DecidableEq

inductive Block where
  | code (language : Option JsString) (code : JsString)
  | heading (level : ℕ) (id : JsString) (text : List Inline)
  | quote (lines : List (List Inline))
  | bullets (items : List (List Inline))
  | numbers (items : List (List Inline))
  | rule
  | table (headers : List (List Inline)) (aligns : List TextAlign)
      (rows : List (List (List Inline)))
  | para (text : List Inline)
deriving DecidableEq

structure TocItem where
  id : JsString
  text : JsString
  level : ℕ
deriving DecidableEq

def splitCells (l : JsString) : List JsString :=
  let l := stripStart (.one 0x7C) (trim l)
  let l := if l.getLast? = some 0x7C then l.dropLast else l
  (l.splitOn 0x7C).map trim

def alignOf (cell : JsString) : TextAlign :=
  let left := cell.head? = some 0x3A
  let right := cell.getLast? = some 0x3A
  if left ∧ right then .center else if right then .right else .left

/-! ## Ids -/

/-- `.replace(/[^\p{L}\p{N}]+/gu, "-")`; `run` tells whether a run is being replaced. -/
def dashRuns (unicode : Unicode) : Bool → List ℕ → JsString
  | _, [] => []
  | run, point :: rest =>
      if unicode.letterOrNumber point then encodePoint point ++ dashRuns unicode false rest
      else if run then dashRuns unicode true rest
      else 0x2D :: dashRuns unicode true rest

/-- The quotes and brackets that `slugify` leaves out. -/
def isQuote (unit : UInt16) : Bool :=
  unit ∈ ([0x60, 0x22, 0x27, 0x28, 0x29, 0x5B, 0x5D, 0x7B, 0x7D] : JsString)

def slugify (unicode : Unicode) (text : JsString) : JsString :=
  let text := trim (unicode.toLowerCase (unicode.normalizeNFKD text))
  let text := text.filter (!isQuote ·)
  let text := dashRuns unicode false (codePoints text)
  (text.dropWhile (· = 0x2D)).rdropWhile (· = 0x2D)

/-- `slugify(text) || "section"`. -/
def baseId (unicode : Unicode) (text : JsString) : JsString :=
  let base := slugify unicode text
  if base = [] then js "section" else base

/-- The id of a heading whose base `n` headings before it have. -/
def numberedId (base : JsString) (n : ℕ) : JsString :=
  if n = 0 then base else base ++ 0x2D :: decimal (n + 1)

/-! ## The loop -/

/-- The variables of `renderMarkdown`: the lines from index `i` on, what has been rendered, and how
often each base has been seen. -/
structure Render where
  rest : List JsString
  nodes : List Block := []
  toc : List TocItem := []
  seenIds : JsString → ℕ := fun _ => 0

/-- A node, and the lines behind those that it is made of. -/
def Render.push (r : Render) (node : Block) (rest : List JsString) : Render :=
  { r with rest, nodes := r.nodes ++ [node] }

/-- The branch of a heading. -/
def Render.heading (unicode : Unicode) (r : Render) (level : ℕ) (text : JsString)
    (rest : List JsString) : Render :=
  let base := baseId unicode text
  let n := r.seenIds base
  let id := numberedId base n
  { rest
    nodes := r.nodes ++ [.heading level id (splitInline text)]
    toc := if 2 ≤ level then r.toc ++ [⟨id, text, level⟩] else r.toc
    seenIds := Function.update r.seenIds base (n + 1) }

/-- The loop of a paragraph stops at such a line. -/
def endsParagraph (l : JsString) : Bool :=
  l = [] || blank.testWhole l || fence.test l || headingStart.test l || quote.test l ||
    bullet.test l || numbered.test l

def isBodyRow (l : JsString) : Bool := l ≠ [] && isTableRow l

/-- The items of a quote or a list, without what marks them. -/
def itemsOf (mark : Regexp) (lines : List JsString) : List (List Inline) :=
  (lines.takeWhile mark.test).map fun l => splitInline (stripStart mark l)

/-- One iteration of the loop. -/
def Render.step (unicode : Unicode) (r : Render) : Render :=
  match r.rest with
  | [] => r
  | line :: below =>
      if fence.test line then
        let lang := trim (line.drop 3)
        r.push (.code (if lang = [] then none else some lang)
            (trimEnd (join [0xA] (below.takeWhile (!fence.test ·)))))
          ((below.dropWhile (!fence.test ·)).drop 1)
      else
        match execHeading line with
        | some (hashes, found) => r.heading unicode hashes.length (trim found) below
        | none =>
            if blank.testWhole line then { r with rest := below }
            else if quote.test line then
              r.push (.quote (itemsOf quote r.rest)) (r.rest.dropWhile quote.test)
            else if bullet.test line then
              r.push (.bullets (itemsOf bullet r.rest)) (r.rest.dropWhile bullet.test)
            else if numbered.test line then
              r.push (.numbers (itemsOf numbered r.rest)) (r.rest.dropWhile numbered.test)
            else if rule.testWhole (trim line) then r.push .rule below
            else if isTableRow line && isTableSep (below.headD []) then
              r.push (.table ((splitCells line).map splitInline)
                  ((splitCells (below.headD [])).map alignOf)
                  (((below.drop 1).takeWhile isBodyRow).map fun l => (splitCells l).map splitInline))
                ((below.drop 1).dropWhile isBodyRow)
            else
              r.push (.para (splitInline (trim (join [0x20] (r.rest.takeWhile (!endsParagraph ·))))))
                (r.rest.dropWhile (!endsParagraph ·))

/-- `md.replace(/\r\n/g, "\n")`. -/
def unixLines : JsString → JsString
  | 0xD :: 0xA :: rest => 0xA :: unixLines rest
  | head :: rest => head :: unixLines rest
  | [] => []

def linesOf (md : JsString) : List JsString := (unixLines md).splitOn 0xA

/-- The variables before the loop. -/
def Render.start (md : JsString) : Render := { rest := linesOf md }

/-! ## What the loop meets -/

/-- How a line is read, by what the lines before it have begun. -/
inductive Mode where
  | block | paragraph | fenced | separator | rows
deriving DecidableEq

/-- What a line is read as: how the next one is read, and the text of the heading that it is. -/
structure Reading where
  next : Mode
  heading : Option JsString := none
deriving DecidableEq

/-- A line that begins a block. A heading marker that no text follows begins none: the branch of
headings wants text, and a paragraph stops before the marker. -/
def begins (line following : JsString) : Option Reading :=
  if fence.test line then some { next := .fenced }
  else
    match execHeading line with
    | some groups => some { next := .block, heading := some (trim groups.2) }
    | none =>
        if blank.testWhole line then some { next := .block }
        else if quote.test line || bullet.test line || numbered.test line then some { next := .block }
        else if rule.testWhole (trim line) then some { next := .block }
        else if isTableRow line && isTableSep following then some { next := .separator }
        else if headingStart.test line then none
        else some { next := .paragraph }

/-- One line, with the line that follows it. -/
def Mode.read (mode : Mode) (line following : JsString) : Option Reading :=
  match mode with
  | .block => begins line following
  | .paragraph => if endsParagraph line then begins line following else some { next := .paragraph }
  | .fenced => some { next := if fence.test line then .block else .fenced }
  | .separator => some { next := .rows }
  | .rows => if isBodyRow line then some { next := .rows } else begins line following

/-- The headings in front of the first line that begins no block, and whether there is no such. -/
structure Met where
  headings : List JsString
  whole : Bool

def Mode.meets : Mode → List JsString → Met
  | _, [] => ⟨[], true⟩
  | mode, line :: below =>
      match mode.read line (below.headD []) with
      | none => ⟨[], false⟩
      | some reading =>
          ⟨reading.heading.toList ++ (reading.next.meets below).headings,
            (reading.next.meets below).whole⟩

/-! ## Lines that no loop takes for another kind -/

theorem fence_starts : fence.StartsIn (· == 0x60) := fun _ own => own

theorem quote_starts : quote.StartsIn (· == 0x3E) := fun _ own => own

theorem bullet_starts : bullet.StartsIn fun head => head == 0x2A || head == 0x2D :=
  ⟨fun head own => by simp [show (head == 0x2A) = true from own],
    fun head own => by simp [show (head == 0x2D) = true from own]⟩

theorem numbered_starts : numbered.StartsIn fun head => 0x30 ≤ head && head ≤ 0x39 :=
  fun _ own => own

theorem headingStart_starts : headingStart.StartsIn (· == 0x23) := fun _ own => own

theorem rule_starts : rule.StartsIn fun head => head == 0x2D || head == 0x2A || head == 0x5F :=
  ⟨fun head own => by simp [show (head == 0x2D) = true from own],
    fun head own => by simp [show (head == 0x2A) = true from own],
    fun head own => by simp [show (head == 0x5F) = true from own]⟩

/-- Expressions whose matches begin apart have no string in common. -/
theorem test_apart {first second : Regexp} {p q : UInt16 → Bool} (one : first.StartsIn p)
    (other : second.StartsIn q) (apart : ∀ head, p head = true → q head = false) {line : JsString}
    (passes : first.test line = true) : second.test line = false := by
  apply Bool.eq_false_iff.mpr
  intro both
  obtain ⟨head, rest, rfl, own⟩ := one.test passes
  obtain ⟨head', rest', same, own'⟩ := other.test both
  obtain ⟨rfl, -⟩ := List.cons.inj same
  rw [apart head own] at own'
  cases own'

/-- A line of a quote or a list is no fence. -/
theorem not_fence {line : JsString}
    (listed : (quote.test line || bullet.test line || numbered.test line) = true) :
    fence.test line = false := by
  simp only [Bool.or_eq_true, or_assoc] at listed
  rcases listed with quoted | dotted | counted
  · refine test_apart quote_starts fence_starts (fun head own => ?_) quoted
    rw [beq_iff_eq.mp own]
    rfl
  · refine test_apart bullet_starts fence_starts (fun head own => ?_) dotted
    rcases (Bool.or_eq_true _ _).mp own with star | dash
    · rw [beq_iff_eq.mp star]
      rfl
    · rw [beq_iff_eq.mp dash]
      rfl
  · refine test_apart numbered_starts fence_starts (fun head own => ?_) counted
    apply Bool.eq_false_iff.mpr
    intro same
    rw [beq_iff_eq.mp same] at own
    revert own
    decide

/-- The groups of a heading: some marks, white space, and text up to the end of the line. -/
theorem execHeading_isSome {line : JsString} : (execHeading line).isSome = true ↔
    ∃ hashes between found, line = hashes ++ between ++ found ∧ marks.Takes hashes ∧
      spaces.Takes between ∧ (plus dot).Takes found := by
  simp only [execHeading, List.findSome?_isSome_iff, marks.mem_ends line]
  constructor
  · rintro ⟨first, ⟨hashes, after, rfl, rfl, marked⟩, second, member, found⟩
    rw [List.drop_left] at member
    obtain ⟨between, text, rfl, rfl, spaced⟩ := (spaces.mem_ends _ _).mp member
    rw [← List.append_assoc, ← List.length_append, List.drop_left] at found
    split_ifs at found with whole
    · exact ⟨hashes, between, text, by rw [List.append_assoc], marked, spaced,
        testWhole_iff.mp whole⟩
    · cases found
  · rintro ⟨hashes, between, found, rfl, marked, spaced, named⟩
    refine ⟨hashes.length, ⟨hashes, between ++ found, List.append_assoc .., rfl, marked⟩,
      between.length, ?_, ?_⟩
    · rw [List.append_assoc, List.drop_left]
      exact (spaces.mem_ends _ _).mpr ⟨between, found, rfl, rfl, spaced⟩
    · rw [← List.length_append, List.drop_left, if_pos (testWhole_iff.mpr named)]
      rfl

/-- The lines that begin no block: a heading marker without text that is no table header either. -/
theorem begins_eq_none_iff {line following : JsString} : begins line following = none ↔
    headingStart.test line = true ∧ execHeading line = none ∧
      (isTableRow line && isTableSep following) = false := by
  constructor
  · intro stuck
    unfold begins at stuck
    by_cases fenced : fence.test line = true
    · rw [if_pos fenced] at stuck
      cases stuck
    rw [if_neg fenced] at stuck
    cases found : execHeading line with
    | some groups =>
      rw [found] at stuck
      cases stuck
    | none =>
      rw [found] at stuck
      dsimp only at stuck
      split_ifs at stuck with empty listed ruled tabled marked
      exact ⟨marked, rfl, Bool.eq_false_iff.mpr tabled⟩
  · rintro ⟨marked, unnamed, single⟩
    obtain ⟨head, rest, rfl, own⟩ := headingStart_starts.test marked
    obtain rfl := beq_iff_eq.mp own
    have apart {other : Regexp} {q : UInt16 → Bool} (starts : other.StartsIn q)
        (differ : q 0x23 = false) : other.test (0x23 :: rest) = false :=
      test_apart headingStart_starts starts (fun head own => beq_iff_eq.mp own ▸ differ) marked
    have filled : blank.testWhole (0x23 :: rest) = false := by
      apply Bool.eq_false_iff.mpr
      intro empty
      have white := forall_of_takes_star (testWhole_iff.mp empty) 0x23 (List.mem_cons_self ..)
      revert white
      decide
    have unruled : rule.testWhole (trim (0x23 :: rest)) = false := by
      obtain ⟨kept, shape⟩ := trim_cons (by decide : isSpace 0x23 = false) rest
      apply Bool.eq_false_iff.mpr
      intro ruled
      obtain ⟨head, others, same, own⟩ := rule_starts.takes (testWhole_iff.mp ruled)
      rw [shape] at same
      obtain ⟨rfl, -⟩ := List.cons.inj same
      revert own
      decide
    rw [begins, apart fence_starts rfl, unnamed, filled, apart quote_starts rfl,
      apart bullet_starts rfl, apart numbered_starts rfl, unruled, single, marked]
    rfl

theorem execHeading_marked {line : JsString} (named : (execHeading line).isSome = true) :
    headingStart.test line = true := by
  obtain ⟨hashes, between, found, rfl, marked, spaced, -⟩ := execHeading_isSome.mp named
  exact test_iff.mpr ⟨hashes ++ between, found, rfl, .seq marked spaced⟩

theorem begins_listed {line : JsString} (following : JsString)
    (listed : (quote.test line || bullet.test line || numbered.test line) = true) :
    begins line following = some { next := .block } := by
  have unnamed : execHeading line = none := by
    apply Option.not_isSome_iff_eq_none.mp
    intro named
    have marked := execHeading_marked named
    have apart {other : Regexp} {q : UInt16 → Bool} (starts : other.StartsIn q)
        (differ : q 0x23 = false) : other.test line = false :=
      test_apart headingStart_starts starts (fun head own => beq_iff_eq.mp own ▸ differ) marked
    rw [apart quote_starts rfl, apart bullet_starts rfl, apart numbered_starts rfl] at listed
    cases listed
  rw [begins, not_fence listed, unnamed, listed]
  simp only [Bool.false_eq_true, if_false, if_true, ite_self]

theorem meets_cons (mode : Mode) {line : JsString} {below : List JsString} {next : Mode}
    (plain : mode.read line (below.headD []) = some { next }) :
    mode.meets (line :: below) = next.meets below := by
  rw [Mode.meets, plain]
  rfl

/-- An inner loop takes lines that keep the mode, and leaves at one that begins a block. -/
theorem meets_dropWhile {mode : Mode} {takes : JsString → Bool}
    (stays : ∀ line following, takes line = true → mode.read line following = some { next := mode })
    (leaves : ∀ line following, takes line = false →
      mode.read line following = begins line following) (lines : List JsString) :
    mode.meets lines = Mode.block.meets (lines.dropWhile takes) := by
  induction lines with
  | nil => rfl
  | cons line below ih =>
    cases inside : takes line with
    | true => rw [meets_cons mode (stays _ _ inside), ih, List.dropWhile_cons_of_pos inside]
    | false =>
      rw [Mode.meets, leaves _ _ inside, List.dropWhile_cons_of_neg (by simp [inside]), Mode.meets]
      rfl

theorem meets_listed {mark : Regexp} (listed : ∀ line, mark.test line = true →
    (quote.test line || bullet.test line || numbered.test line) = true) (lines : List JsString) :
    Mode.block.meets lines = Mode.block.meets (lines.dropWhile mark.test) :=
  @meets_dropWhile .block _ (fun line following inside => begins_listed following (listed line inside))
    (fun _ _ _ => rfl) lines

theorem meets_fenced (lines : List JsString) : Mode.fenced.meets lines =
    Mode.block.meets ((lines.dropWhile (!fence.test ·)).drop 1) := by
  induction lines with
  | nil => rfl
  | cons line below ih =>
    cases closes : fence.test line with
    | true =>
      have last : Mode.fenced.read line (below.headD []) = some { next := .block } := by
        rw [Mode.read, closes]
        rfl
      rw [meets_cons _ last, List.dropWhile_cons_of_neg (by simp [closes])]
      rfl
    | false =>
      have inner : Mode.fenced.read line (below.headD []) = some { next := .fenced } := by
        rw [Mode.read, closes]
        rfl
      rw [meets_cons _ inner, ih, List.dropWhile_cons_of_pos (by simp [closes])]

theorem meets_paragraph (lines : List JsString) : Mode.paragraph.meets lines =
    Mode.block.meets (lines.dropWhile (!endsParagraph ·)) := by
  refine meets_dropWhile (fun line following inside => ?_) (fun line following stops => ?_) lines
  · rw [Mode.read, if_neg (by simpa using inside)]
  · rw [Mode.read, if_pos (by simpa using stops)]

theorem meets_rows (lines : List JsString) :
    Mode.rows.meets lines = Mode.block.meets (lines.dropWhile isBodyRow) := by
  refine meets_dropWhile (fun line following inside => ?_) (fun line following stops => ?_) lines
  · rw [Mode.read, if_pos inside]
  · rw [Mode.read, if_neg (by simp [stops])]

/-! ## One iteration -/

section

variable (unicode : Unicode) {r : Render} {line : JsString} {below : List JsString}

/-- Behind a line that begins no block the loop stays where it is. -/
theorem step_stuck (lines : r.rest = line :: below) (stuck : begins line (below.headD []) = none) :
    (r.step unicode).rest = r.rest := by
  unfold begins at stuck
  rw [Render.step, lines]
  dsimp only
  by_cases fenced : fence.test line = true
  · rw [if_pos fenced] at stuck
    cases stuck
  rw [if_neg fenced] at stuck ⊢
  cases found : execHeading line with
  | some groups =>
    rw [found] at stuck
    cases stuck
  | none =>
    rw [found] at stuck
    dsimp only at stuck ⊢
    split_ifs at stuck with empty listed ruled tabled marked
    simp only [Bool.or_eq_true, not_or] at listed
    have stays : (!endsParagraph line) = false := by simp [endsParagraph, marked]
    rw [if_neg empty, if_neg listed.1.1, if_neg listed.1.2, if_neg listed.2, if_neg ruled,
      if_neg tabled]
    change (line :: below).dropWhile (!endsParagraph ·) = line :: below
    rw [List.dropWhile_cons_of_neg (by simp [stays])]

/-- Any other line is taken, with all that belongs to its block. -/
theorem step_begins (lines : r.rest = line :: below) {reading : Reading}
    (begun : begins line (below.headD []) = some reading) :
    (r.step unicode).rest.length ≤ below.length ∧
      reading.next.meets below = Mode.block.meets (r.step unicode).rest := by
  have shorter {takes : JsString → Bool} (some : takes line = true) :
      ((line :: below).dropWhile takes).length ≤ below.length := by
    rw [List.dropWhile_cons_of_pos some]
    exact (List.dropWhile_suffix _).length_le
  have listed {mark : Regexp} (some : mark.test line = true) (kind : ∀ line, mark.test line = true →
      (quote.test line || bullet.test line || numbered.test line) = true) :
      Mode.block.meets below = Mode.block.meets ((line :: below).dropWhile mark.test) := by
    rw [List.dropWhile_cons_of_pos some]
    exact meets_listed kind below
  unfold begins at begun
  rw [Render.step, lines]
  dsimp only
  by_cases fenced : fence.test line = true
  · rw [if_pos fenced] at begun ⊢
    cases begun
    refine ⟨?_, meets_fenced below⟩
    exact (List.drop_sublist 1 _).length_le.trans (List.dropWhile_suffix _).length_le
  rw [if_neg fenced] at begun ⊢
  cases found : execHeading line with
  | some groups =>
    rw [found] at begun
    cases begun
    exact ⟨le_rfl, rfl⟩
  | none =>
    rw [found] at begun
    dsimp only at begun ⊢
    by_cases empty : blank.testWhole line = true
    · rw [if_pos empty] at begun ⊢
      cases begun
      exact ⟨le_rfl, rfl⟩
    rw [if_neg empty] at begun ⊢
    by_cases quoted : quote.test line = true
    · rw [quoted] at begun
      cases begun
      rw [if_pos quoted]
      exact ⟨shorter quoted, listed quoted fun line own => by rw [own]; rfl⟩
    rw [if_neg quoted]
    by_cases dotted : bullet.test line = true
    · rw [dotted, Bool.or_true] at begun
      cases begun
      rw [if_pos dotted]
      exact ⟨shorter dotted, listed dotted fun line own => by rw [own, Bool.or_true]; rfl⟩
    rw [if_neg dotted]
    by_cases counted : numbered.test line = true
    · rw [counted, Bool.or_true] at begun
      cases begun
      rw [if_pos counted]
      exact ⟨shorter counted, listed counted fun line own => by rw [own, Bool.or_true]⟩
    rw [if_neg counted]
    rw [if_neg (by simp [quoted, dotted, counted])] at begun
    by_cases ruled : rule.testWhole (trim line) = true
    · rw [if_pos ruled] at begun ⊢
      cases begun
      exact ⟨le_rfl, rfl⟩
    rw [if_neg ruled] at begun ⊢
    by_cases tabled : (isTableRow line && isTableSep (below.headD [])) = true
    · rw [if_pos tabled] at begun ⊢
      cases begun
      refine ⟨(List.dropWhile_suffix _).length_le.trans (List.drop_sublist 1 _).length_le, ?_⟩
      cases below with
      | nil => rfl
      | cons separator rows => exact (meets_cons .separator rfl).trans (meets_rows rows)
    rw [if_neg tabled] at begun ⊢
    split_ifs at begun with marked
    cases begun
    have filled : line ≠ [] := by
      rintro rfl
      exact empty (by decide)
    have inside : (!endsParagraph line) = true := by
      simp [endsParagraph, filled, empty, fenced, marked, quoted, dotted, counted]
    change ((line :: below).dropWhile (!endsParagraph ·)).length ≤ below.length ∧
      Mode.paragraph.meets below = Mode.block.meets ((line :: below).dropWhile (!endsParagraph ·))
    have taken : (line :: below).dropWhile (!endsParagraph ·) =
        below.dropWhile (!endsParagraph ·) := List.dropWhile_cons_of_pos inside
    rw [taken]
    exact ⟨(List.dropWhile_suffix _).length_le, meets_paragraph below⟩

end

/-! ## The whole run -/

section

variable (unicode : Unicode)

theorem step_ended {r : Render} (ended : r.rest = []) : r.step unicode = r := by
  rw [Render.step, ended]

/-- The loop is left. -/
def Render.Terminates (r : Render) : Prop := ∃ n, ((Render.step unicode)^[n] r).rest = []

/-- Each iteration takes a line at least. -/
def Render.Advances (r : Render) : Prop :=
  ∀ n, ((Render.step unicode)^[n] r).rest ≠ [] →
    ((Render.step unicode)^[n + 1] r).rest.length < ((Render.step unicode)^[n] r).rest.length

/-- If every line that is met begins a block, the loop advances until no line is left. -/
theorem Render.terminates_of_whole {r : Render} (whole : (Mode.block.meets r.rest).whole = true) :
    r.Terminates unicode ∧ r.Advances unicode := by
  generalize bound : r.rest.length = size
  induction size using Nat.strong_induction_on generalizing r with
  | h size ih =>
    cases lines : r.rest with
    | nil =>
      refine ⟨⟨0, lines⟩, fun n more => absurd ?_ more⟩
      rw [Function.iterate_fixed (step_ended unicode lines) n]
      exact lines
    | cons line below =>
      rw [lines, Mode.meets, Mode.read] at whole
      cases begun : begins line (below.headD []) with
      | none =>
        rw [begun] at whole
        cases whole
      | some reading =>
        obtain ⟨shorter, same⟩ := step_begins unicode lines begun
        rw [begun] at whole
        dsimp only at whole
        rw [same] at whole
        have less : (r.step unicode).rest.length < size := by
          rw [← bound, lines, List.length_cons]
          omega
        obtain ⟨⟨n, ends⟩, advances⟩ := ih _ less whole rfl
        refine ⟨⟨n + 1, ends⟩, fun m more => ?_⟩
        cases m with
        | zero =>
          change (r.step unicode).rest.length < r.rest.length
          omega
        | succ m => exact advances m more

/-- If some line that is met begins none, the loop comes to it. -/
theorem Render.reaches_stuck {r : Render} (broken : (Mode.block.meets r.rest).whole = false) :
    ∃ n line below, ((Render.step unicode)^[n] r).rest = line :: below ∧
      begins line (below.headD []) = none := by
  generalize bound : r.rest.length = size
  induction size using Nat.strong_induction_on generalizing r with
  | h size ih =>
    cases lines : r.rest with
    | nil =>
      rw [lines] at broken
      cases broken
    | cons line below =>
      cases begun : begins line (below.headD []) with
      | none => exact ⟨0, line, below, lines, begun⟩
      | some reading =>
        obtain ⟨shorter, same⟩ := step_begins unicode lines begun
        rw [lines, Mode.meets, Mode.read, begun] at broken
        dsimp only at broken
        rw [same] at broken
        have less : (r.step unicode).rest.length < size := by
          rw [← bound, lines, List.length_cons]
          omega
        obtain ⟨n, stuck⟩ := ih _ less broken rfl
        exact ⟨n + 1, stuck⟩

/-- And there it stays. -/
theorem Render.not_terminates {r : Render} (broken : (Mode.block.meets r.rest).whole = false) :
    ¬ r.Terminates unicode := by
  rintro ⟨n, ends⟩
  obtain ⟨m, line, below, lines, stuck⟩ := r.reaches_stuck unicode broken
  have stays (k : ℕ) : ((Render.step unicode)^[k + m] r).rest = line :: below := by
    induction k with
    | zero => rw [Nat.zero_add, lines]
    | succ k again =>
      rw [Nat.succ_add, Function.iterate_succ_apply', step_stuck unicode again stuck, again]
  have stopped : ((Render.step unicode)^[n + m] r).rest = [] := by
    rw [Nat.add_comm, Function.iterate_add_apply, Function.iterate_fixed (step_ended unicode ends),
      ends]
  exact List.cons_ne_nil _ _ ((stays n).symm.trans stopped)

/-- Rendering terminates, with progress in every iteration, exactly for the documents in which no
block begins with a heading marker that no text follows. -/
theorem renderMarkdown_terminates_iff (md : JsString) :
    ((Render.start md).Terminates unicode ∧ (Render.start md).Advances unicode) ↔
      (Mode.block.meets (linesOf md)).whole = true := by
  refine ⟨fun ⟨terminates, _⟩ => ?_, fun whole => (Render.start md).terminates_of_whole unicode whole⟩
  by_contra broken
  exact (Render.start md).not_terminates unicode (Bool.eq_false_iff.mpr broken) terminates

end

/-- A hash and a space. -/
theorem renderMarkdown_bareMarker : ¬ ∀ md : JsString,
    (Render.start md).Terminates .ascii ∧ (Render.start md).Advances .ascii := by
  intro every
  have broken : (Mode.block.meets (linesOf (js "# "))).whole = false := by decide
  exact (Render.start (js "# ")).not_terminates .ascii broken (every (js "# ")).1

end ShadowNet.Website
