import ShadowNet.Go.Regexp
import ShadowNet.Policy.Adaptive
import ShadowNet.Profile.Normalize

/-! # Redaction of runtime events

The message of an event and the strings in its metadata are rid of IPv4 addresses, then of keys, and
are cut to 240 bytes at last. A list or a map in the metadata is passed on as it is.
-/

namespace ShadowNet.Inside

open Go

/-! ## The events -/

/-- What callers put into the metadata. -/
inductive MetaValue where
  | string (text : GoString)
  | list (items : List MetaValue)
  | map (entries : List (GoString × MetaValue))
  | int (value : Int64)
  | float (value : Float)
  | bool (value : Bool)

structure RuntimeEvent where
  timestamp : Int64
  type : GoString
  message : GoString
  metadata : Map GoString MetaValue

/-- `(?:\d{1,3}\.){3}\d{1,3}`. -/
def dottedQuad : Regexp :=
  .seq (.times 3 (.seq (.range 1 3 (.byte isDigit)) (.byte (· == 46)))) (.range 1 3 (.byte isDigit))

/-- `\b(?:\d{1,3}\.){3}\d{1,3}\b`. -/
def ipv4Pattern : Pattern := ⟨dottedQuad.word, by decide⟩

/-- `(?i)(age-secret-key-[a-z0-9]+|[a-f0-9]{64})`. -/
def keyPattern : Pattern where
  regexp := .alt
    (.seq (.foldText (lit "age-secret-key-"))
      (.plus (.fold fun byte => isLowerLetter byte || isDigit byte)))
    (.times 64 (.fold fun byte => isDigit byte || (97 ≤ byte.toNat && byte.toNat ≤ 102)))
  consumes := by decide

def sanitizeRuntimeText (text : GoString) : GoString :=
  let s := trimSpace text
  if s = [] then s
  else
    let s := ipv4Pattern.replaceAll s (lit "x.x.x.x")
    let s := keyPattern.replaceAll s (lit "[redacted]")
    if s.length > 240 then s.take 240 ++ lit "…" else s

/-- The keys whose values are never shown. -/
def hiddenKeys : List GoString :=
  [lit "config", lit "config_path", lit "endpoint", lit "bundle", lit "bundle_path", lit "ip",
    lit "url"]

def isHidden (key : GoString) : Bool := toLower (trimSpace key) ∈ hiddenKeys

/-- What `sanitizeRuntimeMeta` makes of an entry's value. -/
def sanitizeRuntimeValue (key : GoString) (value : MetaValue) : MetaValue :=
  if isHidden key = true then .string (lit "[redacted]")
  else
    match value with
    | .string text => .string (sanitizeRuntimeText text)
    | value => value

def sanitizeRuntimeMeta (metadata : Map GoString MetaValue) : Map GoString MetaValue :=
  if metadata.entries.isEmpty then ∅
  else (∅ : Map GoString MetaValue).insertAll
    (metadata.entries.map fun entry => (entry.1, sanitizeRuntimeValue entry.1 entry.2))

/-- The event that `addEvent` publishes. -/
def addEvent (now : Int64) (typ msg : GoString) (metadata : Map GoString MetaValue) :
    RuntimeEvent where
  timestamp := now
  type := trimSpace typ
  message := sanitizeRuntimeText msg
  metadata := sanitizeRuntimeMeta metadata

/-- The metadata of the agent's POLICY_DECISION event. -/
def policyDecisionMeta (ranked : List Ranked) (selected : GoString) (policyConfidence : Float)
    (policyReason : GoString) (maxBurstFailures profileCount : Int64) (scores : List ScoredProfile)
    (adaptiveMode : Bool) : Map GoString MetaValue :=
  (∅ : Map GoString MetaValue).insertAll
    [(lit "candidates", .list ((ranked.take 5).map fun candidate => .string candidate.profile.id)),
      (lit "selected", .string selected),
      (lit "confidence", .float policyConfidence),
      (lit "reason", .string policyReason),
      (lit "fallbacks",
        .list (((ranked.drop 1).take 3).map fun candidate => .string candidate.profile.id)),
      (lit "max_burst", .int maxBurstFailures),
      (lit "profile_cnt", .int profileCount),
      (lit "scores", .list (scores.map fun scored => .map
        [(lit "profile", .string scored.profileID), (lit "score", .float scored.score)])),
      (lit "adaptive", .bool adaptiveMode)]

/-! ## What must not be published -/

mutual
/-- The strings inside a value, at any depth. -/
def MetaValue.texts : MetaValue → List GoString
  | .string text => [text]
  | .list items => textsOfItems items
  | .map entries => textsOfEntries entries
  | .int _ => []
  | .float _ => []
  | .bool _ => []

def textsOfItems : List MetaValue → List GoString
  | [] => []
  | item :: rest => item.texts ++ textsOfItems rest

def textsOfEntries : List (GoString × MetaValue) → List GoString
  | [] => []
  | (key, value) :: rest => key :: value.texts ++ textsOfEntries rest
end

/-- A part of the text matches one of the patterns. -/
def Exposes (text : GoString) : Prop := ipv4Pattern.Found text ∨ keyPattern.Found text

structure RuntimeEvent.Redacted (event : RuntimeEvent) : Prop where
  message : ¬ Exposes event.message
  metadata : ∀ key value, (key, value) ∈ event.metadata.entries → ∀ text ∈ value.texts,
    ¬ Exposes text

/-! ## The patterns and their replacements -/

theorem dottedQuad_over : dottedQuad.Over fun byte => isDigit byte = true ∨ byte = 46 := by
  simp +contextual [dottedQuad, Regexp.times, Regexp.range, Regexp.upTo, Regexp.Over]

theorem dottedQuad_starts : dottedQuad.StartsIn (isDigit · = true) := by
  simp [dottedQuad, Regexp.times, Regexp.range, Regexp.upTo, Regexp.StartsIn, Regexp.minLength]

theorem dottedQuad_finish : dottedQuad.EndsIn (isDigit · = true) := by
  simp [dottedQuad, Regexp.times, Regexp.range, Regexp.upTo, Regexp.EndsIn, Regexp.minLength]

theorem dottedQuad_wordy : dottedQuad.Wordy where
  consumes := by decide
  free := by simp [dottedQuad, Regexp.times, Regexp.range, Regexp.upTo, Regexp.Free]
  starts := by
    simp +contextual [dottedQuad, Regexp.times, Regexp.range, Regexp.upTo, Regexp.StartsIn,
      Regexp.minLength, isWordByte]
  finish := by
    simp +contextual [dottedQuad, Regexp.times, Regexp.range, Regexp.upTo, Regexp.EndsIn,
      Regexp.minLength, isWordByte]

/-- A dotted quad stands apart from a replacement without digits. -/
theorem dottedQuad_apart {repl : Bytes} (some : repl ≠ [])
    (letters : ∀ byte ∈ repl, isDigit byte = false)
    (first : 46 ∉ repl.head?) (last : 46 ∉ repl.getLast?) {taken : Bytes}
    (matched : dottedQuad.Matches [] taken []) : Apart repl taken where
  some := some
  first byte isFirst member := by
    obtain digit | rfl := matched.bytes_over dottedQuad_over byte member
    · rw [letters byte (List.mem_of_head? isFirst)] at digit
      cases digit
    · exact first isFirst
  last byte isLast member := by
    obtain digit | rfl := matched.bytes_over dottedQuad_over byte member
    · rw [letters byte (List.mem_of_getLast? isLast)] at digit
      cases digit
    · exact last isLast
  inner inside := by
    obtain ⟨byte, rest, rfl⟩ :=
      List.exists_cons_of_ne_nil (matched.ne_nil dottedQuad_wordy.consumes)
    have digit := matched.head dottedQuad_starts byte rfl
    rw [letters byte (inside.subset (List.mem_cons_self ..))] at digit
    cases digit

theorem keyPattern_free : keyPattern.regexp.Free := by
  have letters := Regexp.free_fold fun byte => isLowerLetter byte || isDigit byte
  exact ⟨⟨Regexp.free_foldText _, letters, letters⟩, Regexp.free_times _ (Regexp.free_fold _)⟩

/-- No key has a bracket. -/
theorem keyPattern_over : keyPattern.regexp.Over (· ∉ lit "[]") := by
  have wide : ∀ byte ∈ [0xE2, 0x84, 0xAA, 0xC5, 0xBF], byte ∉ lit "[]" :=
    forall_mem_of_all (by decide)
  have letters : (Regexp.fold fun byte => isLowerLetter byte || isDigit byte).Over (· ∉ lit "[]") :=
    Regexp.over_fold (forall_mem_of_all (by decide)) wide
  refine ⟨⟨Regexp.over_foldText (forall_mem_of_all (by decide)) wide, letters, letters⟩, ?_⟩
  exact Regexp.over_times _ (Regexp.over_fold (forall_mem_of_all (by decide)) wide)

/-- No key ends in a byte of the ellipsis. -/
theorem keyPattern_finish : keyPattern.regexp.EndsIn (· ∉ lit "…") := by
  have wide : ∀ byte ∈ [0xAA, 0xBF], byte ∉ lit "…" := forall_mem_of_all (by decide)
  have letters : (Regexp.fold fun byte => isLowerLetter byte || isDigit byte).EndsIn
      (· ∉ lit "…") := Regexp.endsIn_fold (forall_mem_of_all (by decide)) wide
  refine ⟨⟨⟨letters, .inr letters⟩, .inl (by decide)⟩, ?_⟩
  exact Regexp.endsIn_times _ (Regexp.endsIn_fold (forall_mem_of_all (by decide)) wide)

theorem keyPattern_apart {taken : Bytes} (matched : keyPattern.regexp.Matches [] taken []) :
    Apart (lit "[redacted]") taken where
  some := by decide
  first byte isFirst member := by
    obtain rfl : (91 : UInt8) = byte := Option.some_inj.mp isFirst
    exact matched.bytes_over keyPattern_over _ member (by decide)
  last byte isLast member := by
    obtain rfl : (93 : UInt8) = byte := Option.some_inj.mp isLast
    exact matched.bytes_over keyPattern_over _ member (by decide)
  inner inside := by
    have short : taken.length ≤ 10 := inside.length_le
    have long : 16 ≤ taken.length := matched.minLength_le
    omega

theorem dottedQuad_apart_redacted {taken : Bytes} (matched : dottedQuad.Matches [] taken []) :
    Apart (lit "[redacted]") taken :=
  dottedQuad_apart (by decide) (forall_mem_of_all (by decide)) (by decide) (by decide) matched

/-- No address is left once the addresses have been replaced. -/
theorem ipv4_replaced (text : Bytes) :
    ¬ ipv4Pattern.Found (ipv4Pattern.replaceAll text (lit "x.x.x.x")) := by
  refine Pattern.not_found_replaceAll_word rfl dottedQuad_wordy (fun taken matched => ?_)
    (by decide) (by decide) text
  exact dottedQuad_apart (by decide) (forall_mem_of_all (by decide)) (by decide) (by decide) matched

/-- No key is left once the keys have been replaced. -/
theorem key_replaced (text : Bytes) :
    ¬ keyPattern.Found (keyPattern.replaceAll text (lit "[redacted]")) :=
  Pattern.not_found_replaceAll keyPattern_free (fun _ => keyPattern_apart) text

/-! ## The cut -/

/-- The last step of `sanitizeRuntimeText`. -/
def shorten (s : GoString) : GoString := if s.length > 240 then s.take 240 ++ lit "…" else s

theorem shorten_long {s : GoString} (long : s.length > 240) : shorten s = s.take 240 ++ lit "…" :=
  if_pos long

theorem shorten_short {s : GoString} (short : ¬ s.length > 240) : shorten s = s := if_neg short

/-- Text that does not end in the ellipsis was there before the cut. Only where it ends at the cut,
something else can stand behind it now. -/
theorem split_of_shorten {s before taken after : GoString} (some : taken ≠ [])
    (finish : ∀ byte ∈ taken.getLast?, byte ∉ lit "…")
    (whole : shorten s = before ++ taken ++ after) :
    ∃ rest, s = before ++ taken ++ rest ∧ (before ++ taken).length ≤ 240 ∧
      ((before ++ taken).length = 240 ∨ wordAfter rest = wordAfter after) := by
  by_cases long : s.length > 240
  · rw [shorten_long long] at whole
    have front : ∃ more, s.take 240 = before ++ taken ++ more ∧ after = more ++ lit "…" := by
      obtain ⟨more, left, right⟩ | ⟨more, left, right⟩ := List.append_eq_append_iff.mp whole
      · obtain rfl | ⟨init, last, rfl⟩ := List.eq_nil_or_concat more
        · exact ⟨[], by rw [left, List.append_nil, List.append_nil], right.symm⟩
        · -- the text ends in the ellipsis
          refine absurd (?_ : last ∈ lit "…") (finish last ?_)
          · rw [right]
            simp
          · obtain ⟨start, byte, rfl⟩ := (List.eq_nil_or_concat taken).resolve_left some
            have same := congrArg List.getLast? left
            simpa using same
      · exact ⟨more, left, right⟩
    obtain ⟨more, left, rfl⟩ := front
    have cut := congrArg List.length left
    rw [List.length_take, List.length_append] at cut
    refine ⟨more ++ s.drop 240, ?_, by omega, ?_⟩
    · rw [← List.append_assoc, ← left, List.take_append_drop]
    · cases more with
      | nil =>
        left
        simp only [List.length_nil] at cut
        omega
      | cons byte more => exact .inr rfl
  · rw [shorten_short long] at whole
    have short := congrArg List.length whole
    rw [List.length_append] at short
    exact ⟨after, whole, by omega, .inr rfl⟩

/-- Text before the cut stays, with no word byte behind it where none was there before or where the
cut is right behind it. -/
theorem shorten_keeps {before taken rest : GoString} (within : (before ++ taken).length ≤ 240)
    (apart : (before ++ taken).length = 240 ∧ rest ≠ [] ∨ wordAfter rest = false) :
    ∃ after, shorten (before ++ taken ++ rest) = before ++ taken ++ after ∧
      wordAfter after = false := by
  by_cases long : (before ++ taken ++ rest).length > 240
  · rw [shorten_long long, List.take_append, List.take_of_length_le within, List.append_assoc]
    refine ⟨_, rfl, ?_⟩
    obtain ⟨full, -⟩ | quiet := apart
    · rw [full, Nat.sub_self, List.take_zero]
      decide
    · cases less : 240 - (before ++ taken).length with
      | zero => rw [List.take_zero]; decide
      | succ count =>
        cases rest with
        | nil => rw [List.take_nil]; decide
        | cons byte rest => exact quiet
  · refine ⟨rest, shorten_short long, apart.resolve_left ?_⟩
    rintro ⟨full, some⟩
    have more := List.length_pos_iff.mpr some
    rw [List.length_append] at long
    omega

/-! ## The text that comes out -/

/-- The text as the key pattern sees it. -/
def pieces (text : GoString) : List Token :=
  keyPattern.tokens (ipv4Pattern.replaceAll (trimSpace text) (lit "x.x.x.x"))

/-- What the key pattern's replacement writes for pieces of a text. -/
def redact (tokens : List Token) : GoString := tokens.flatMap (Token.render (lit "[redacted]"))

/-- The patterns one after another redact each piece. -/
theorem sanitizeRuntimeText_eq (text : GoString) :
    sanitizeRuntimeText text = shorten (redact (pieces text)) := by
  rw [sanitizeRuntimeText]
  split_ifs with blank
  · rw [pieces, blank]
    rfl
  · rfl

/-- No key is ever published. -/
theorem sanitizeRuntimeText_key (text : GoString) : ¬ keyPattern.Found (sanitizeRuntimeText text) := by
  rw [sanitizeRuntimeText_eq]
  rintro ⟨before, taken, after, whole, matched⟩
  obtain ⟨rest, split, -⟩ := split_of_shorten (matched.ne_nil keyPattern.consumes)
    (matched.getLast keyPattern_finish) whole
  apply key_replaced (ipv4Pattern.replaceAll (trimSpace text) (lit "x.x.x.x"))
  exact ⟨before, taken, rest, split, matched.move keyPattern_free _ _⟩

/-- A dotted quad stands beside a key, and nothing else keeps it from being an address. -/
structure BesideKey (pre : List Token) (quad : Bytes) (post : List Token) : Prop where
  shown : (redact pre ++ quad).length ≤ 240
  after : wordAfter (redact post) = false
  beside : pre.getLast?.any Token.isHit = true ∨ post.head?.any Token.isHit = true

/-- The cut is right behind a dotted quad, and takes away a letter or digit behind it. -/
structure BeforeCut (pre : List Token) (quad : Bytes) (post : List Token) : Prop where
  full : (redact pre ++ quad).length = 240
  after : wordAfter (redact post) = true

/-- Redacting the text makes an address of a dotted quad in it. -/
def Leaks (text : GoString) : Prop :=
  ∃ pre quad post, pieces text = pre ++ quad.map .plain ++ post ∧
    dottedQuad.Matches [] quad [] ∧ wordBefore (redact pre) = false ∧
      (BesideKey pre quad post ∨ BeforeCut pre quad post)

theorem redact_plain (quad : Bytes) : redact (quad.map .plain) = quad := by
  simp [redact, List.flatMap_map, Token.render]

/-- A dotted quad that is an address after the keys have gone, and was none before, stood beside a
key. -/
theorem beside_of_uncovered {text : GoString} {pre post : List Token} {quad : Bytes}
    (split : pieces text = pre ++ quad.map .plain ++ post)
    (matched : dottedQuad.Matches [] quad []) (before : wordBefore (redact pre) = false)
    (after : wordAfter (redact post) = false) :
    pre.getLast?.any Token.isHit = true ∨ post.head?.any Token.isHit = true := by
  by_contra neither
  obtain ⟨left, right⟩ := not_or.mp neither
  rw [redact, wordBefore_render (Bool.eq_false_iff.mpr left)] at before
  rw [redact, wordAfter_render (Bool.eq_false_iff.mpr right)] at after
  apply ipv4_replaced (trimSpace text)
  apply (Regexp.found_word dottedQuad_wordy).mpr
  refine ⟨_, quad, _, ?_, before, matched, after⟩
  have whole := Pattern.tokens_bytes (p := keyPattern)
    (ipv4Pattern.replaceAll (trimSpace text) (lit "x.x.x.x"))
  rw [← whole, ← pieces, split]
  simp [List.flatMap_map, Token.bytes]

/-- An address is published exactly where redaction makes one. -/
theorem sanitizeRuntimeText_ipv4 (text : GoString) :
    ipv4Pattern.Found (sanitizeRuntimeText text) ↔ Leaks text := by
  rw [sanitizeRuntimeText_eq, Pattern.Found, ipv4Pattern, Regexp.found_word dottedQuad_wordy]
  constructor
  · rintro ⟨before, quad, after, whole, starts, matched, ends⟩
    have finish : ∀ byte ∈ quad.getLast?, byte ∉ lit "…" := by
      intro byte isLast inside
      have letters : ∀ byte ∈ lit "…", isDigit byte = false := forall_mem_of_all (by decide)
      have digit := matched.getLast dottedQuad_finish byte isLast
      rw [letters byte inside] at digit
      cases digit
    obtain ⟨rest, split, within, atCut⟩ :=
      split_of_shorten (matched.ne_nil dottedQuad_wordy.consumes) finish whole
    obtain ⟨pre, post, found, rfl, rfl⟩ := render_split (dottedQuad_apart_redacted matched) split
    refine ⟨pre, quad, post, found, matched, starts, ?_⟩
    by_cases word : wordAfter (redact post) = true
    · right
      refine ⟨atCut.resolve_right fun same => ?_, word⟩
      rw [ends] at same
      exact absurd (word.symm.trans same) (by decide)
    · left
      have quiet := Bool.eq_false_iff.mpr word
      exact ⟨within, quiet, beside_of_uncovered found matched starts quiet⟩
  · rintro ⟨pre, quad, post, split, matched, starts, why⟩
    have whole : redact (pieces text) = redact pre ++ quad ++ redact post := by
      rw [split, redact, List.flatMap_append, List.flatMap_append]
      exact congrArg (fun middle => redact pre ++ middle ++ redact post) (redact_plain quad)
    have kept : ∃ after, shorten (redact pre ++ quad ++ redact post) = redact pre ++ quad ++ after ∧
        wordAfter after = false := by
      obtain beside | cut := why
      · exact shorten_keeps beside.shown (.inr beside.after)
      · refine shorten_keeps cut.full.le (.inl ⟨cut.full, fun empty => ?_⟩)
        have word := cut.after
        rw [empty] at word
        cases word
    obtain ⟨after, kept, ends⟩ := kept
    exact ⟨redact pre, quad, after, whole ▸ kept, starts, matched, ends⟩

example : sanitizeRuntimeText (lit "1.2.3.4age-secret-key-a") = lit "1.2.3.4[redacted]" := by decide

/-! ## The event that comes out -/

section
variable (now : Int64) (typ msg : GoString) (metadata : Map GoString MetaValue)

@[simp] theorem addEvent_message :
    (addEvent now typ msg metadata).message = sanitizeRuntimeText msg := rfl

@[simp] theorem addEvent_metadata :
    (addEvent now typ msg metadata).metadata = sanitizeRuntimeMeta metadata := rfl

end

/-- A text still exposes something exactly where it leaks. -/
theorem exposes_sanitized (text : GoString) : Exposes (sanitizeRuntimeText text) ↔ Leaks text := by
  rw [Exposes, sanitizeRuntimeText_ipv4, or_iff_left (sanitizeRuntimeText_key text)]

theorem not_exposes_redacted : ¬ Exposes (lit "[redacted]") := by
  rintro (address | ⟨before, taken, after, whole, matched⟩)
  · obtain ⟨before, taken, after, whole, -, matched, -⟩ :=
      (Regexp.found_word dottedQuad_wordy).mp address
    exact (dottedQuad_apart_redacted matched).inner ⟨before, after, whole.symm⟩
  · exact (keyPattern_apart (matched.move keyPattern_free [] [])).inner ⟨before, after, whole.symm⟩

/-- Sanitising rewrites the entries of the metadata and nothing else. -/
theorem mem_sanitizeRuntimeMeta {metadata : Map GoString MetaValue} {key : GoString}
    {made : MetaValue} : (key, made) ∈ (sanitizeRuntimeMeta metadata).entries ↔
      ∃ value, (key, value) ∈ metadata.entries ∧ made = sanitizeRuntimeValue key value := by
  rw [sanitizeRuntimeMeta]
  split_ifs with empty
  · rw [List.isEmpty_iff.mp empty]
    constructor
    · intro member
      cases member
    · rintro ⟨_, member, -⟩
      cases member
  · have distinct := metadata.nodup_keys
    generalize metadata.entries = entries at distinct
    rw [((Map.insertAll_perm_iff _).mpr (by simpa [Function.comp_def] using distinct)).mem_iff,
      List.mem_map]
    constructor
    · rintro ⟨⟨old, value⟩, member, same⟩
      obtain ⟨rfl, rfl⟩ := Prod.mk.injEq .. ▸ same
      exact ⟨value, member, rfl⟩
    · rintro ⟨value, member, rfl⟩
      exact ⟨(key, value), member, rfl⟩

/-- A value that comes out of `sanitizeRuntimeMeta` without an address or a key in it. -/
def Safe : MetaValue → Prop
  | .string text => ¬ Leaks text
  | value => ∀ text ∈ value.texts, ¬ Exposes text

/-- A value is safe afterwards exactly where it is hidden or was safe. -/
theorem sanitizeRuntimeValue_safe (key : GoString) (value : MetaValue) :
    (∀ text ∈ (sanitizeRuntimeValue key value).texts, ¬ Exposes text) ↔
      (isHidden key = false → Safe value) := by
  rw [sanitizeRuntimeValue.eq_def]
  split_ifs with hidden
  · simpa [MetaValue.texts, hidden] using not_exposes_redacted
  · rw [imp_iff_right (Bool.eq_false_iff.mpr hidden)]
    cases value with
    | string text =>
      dsimp only
      rw [MetaValue.texts, List.forall_mem_singleton, exposes_sanitized]
      rfl
    | _ => rfl

/-- An event comes out without addresses and keys exactly where redaction makes no address of a
dotted quad in its message or in a string of its metadata, and what is not a string is clean. -/
theorem addEvent_redacted_iff (now : Int64) (typ msg : GoString)
    (metadata : Map GoString MetaValue) : (addEvent now typ msg metadata).Redacted ↔
      ¬ Leaks msg ∧
        ∀ key value, (key, value) ∈ metadata.entries → isHidden key = false → Safe value := by
  constructor
  · rintro ⟨message, values⟩
    rw [addEvent_message, exposes_sanitized] at message
    rw [addEvent_metadata] at values
    refine ⟨message, fun key value member => ?_⟩
    apply (sanitizeRuntimeValue_safe key value).mp
    exact values key _ (mem_sanitizeRuntimeMeta.mpr ⟨value, member, rfl⟩)
  · rintro ⟨message, values⟩
    refine ⟨?_, fun key made member => ?_⟩
    · rwa [addEvent_message, exposes_sanitized]
    · rw [addEvent_metadata] at member
      obtain ⟨value, old, rfl⟩ := mem_sanitizeRuntimeMeta.mp member
      exact (sanitizeRuntimeValue_safe key value).mpr (values key value old)

/-- A POLICY_DECISION event shows the IDs of its candidates as they are. -/
theorem policyDecision_candidates (now : Int64) (msg : GoString) (ranked : List Ranked)
    (selected : GoString) (policyConfidence : Float) (policyReason : GoString)
    (maxBurstFailures profileCount : Int64) (scores : List ScoredProfile) (adaptiveMode : Bool) :
    (lit "candidates", .list ((ranked.take 5).map fun candidate => .string candidate.profile.id)) ∈
      (addEvent now (lit "POLICY_DECISION") msg (policyDecisionMeta ranked selected policyConfidence
        policyReason maxBurstFailures profileCount scores adaptiveMode)).metadata.entries := by
  have visible : ¬ isHidden (lit "candidates") = true := by decide
  rw [addEvent_metadata]
  refine mem_sanitizeRuntimeMeta.mpr
    ⟨.list ((ranked.take 5).map fun candidate => .string candidate.profile.id), ?_, ?_⟩
  · rw [policyDecisionMeta]
    refine ((Map.insertAll_perm_iff _).mpr ?_).mem_iff.mpr (List.mem_cons_self ..)
    change List.Nodup [lit "candidates", lit "selected", lit "confidence", lit "reason",
      lit "fallbacks", lit "max_burst", lit "profile_cnt", lit "scores", lit "adaptive"]
    decide
  · rw [sanitizeRuntimeValue.eq_def, if_neg visible]

/-- The ID of a profile can be an address. -/
theorem policyCandidate_exposed : profileIDPattern (lit "1.2.3.4") = true ∧
    ¬ (addEvent 0 (lit "POLICY_DECISION") (lit "Policy ranked profiles")
      (policyDecisionMeta [⟨{ id := lit "1.2.3.4" }, 1⟩] (lit "1.2.3.4") 1 (lit "best score") 3 1 []
        true)).Redacted := by
  refine ⟨by decide, fun redacted => ?_⟩
  refine redacted.metadata _ _ (policyDecision_candidates ..) (lit "1.2.3.4") ?_ (.inl ?_)
  · exact List.mem_cons_self ..
  · exact Regexp.found_iff.mpr ⟨[], lit "1.2.3.4", rfl, by decide⟩

end ShadowNet.Inside
