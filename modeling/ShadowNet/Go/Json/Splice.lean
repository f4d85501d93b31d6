import ShadowNet.Go.Json.Any
import ShadowNet.Go.Json.Invariant
import ShadowNet.Go.Unicode

/-! # Strings spliced into JSON texts

A template may write strings between its quotes as they are, one to a line. A quote or a backslash
in such a string does not survive the scan: every string that the scan completes has fewer solid
bytes than the spliced one that has most of them, or has no quote and no backslash.
-/

namespace ShadowNet.Go.Json

/-- A string without quotes and backslashes. -/
def Inert (s : GoString) : Prop := ∀ byte ∈ s, byte ≠ 0x22 ∧ byte ≠ 0x5C

instance (s : GoString) : Decidable (Inert s) := List.decidableBAll _ s

/-- How many solid bytes a string has. -/
def weight (s : GoString) : ℕ := s.countP isSolid

/-- A string that is lighter than a bound or inert. -/
def Below (bound : ℕ) (s : GoString) : Prop := weight s < bound ∨ Inert s

theorem weight_toValid (s : GoString) : weight (toValid s) = weight s := countP_toValid (fun _ own => own) s

theorem weight_cons (byte : UInt8) (s : GoString) :
    weight (byte :: s) = weight s + if isSolid byte then 1 else 0 := List.countP_cons

theorem weight_concat (s : GoString) (byte : UInt8) :
    weight (s ++ [byte]) = weight s + if isSolid byte then 1 else 0 := by
  rw [weight, List.countP_append]
  exact congrArg (s.countP isSolid + ·) ((weight_cons byte []).trans (Nat.zero_add _))

/-- An inert text has neither a quote nor a backslash. -/
theorem inert_iff (s : GoString) :
    Inert s ↔ s.countP (fun byte => byte = 0x22 || byte = 0x5C) = 0 := by
  rw [List.countP_eq_zero]
  simp [Inert]

theorem solid_of_special (byte : UInt8) (special : (byte = 0x22 || byte = 0x5C) = true) :
    isSolid byte = true := by
  rcases (Bool.or_eq_true _ _).mp special with quote | backslash
  · rw [of_decide_eq_true quote]
    decide
  · rw [of_decide_eq_true backslash]
    decide

theorem inert_toValid (s : GoString) : Inert (toValid s) ↔ Inert s := by
  rw [inert_iff, inert_iff, countP_toValid solid_of_special]

theorem inert_concat {s : GoString} {byte : UInt8} (inert : Inert s) (own : byte ≠ 0x22 ∧ byte ≠ 0x5C) :
    Inert (s ++ [byte]) :=
  List.forall_mem_append.mpr ⟨inert, List.forall_mem_singleton.mpr own⟩

/-! ## Strings in progress -/

/-- An escape with a leading zero may stand for a solid byte. -/
def Escape.worth : Escape → ℕ
  | .hex count value => if 1 ≤ count ∧ value < 16 ^ (count - 1) then 1 else 0
  | _ => 0

/-- The solid bytes that a string in progress has, or can get from its escape. -/
def StrState.worth (text : StrState) : ℕ := weight text.flush + text.escape.worth

theorem weight_append (first second : GoString) :
    weight (first ++ second) = weight first + weight second := List.countP_append

theorem weight_reverse (s : GoString) : weight s.reverse = weight s := List.countP_reverse

private theorem weight_unit (unit : ℕ) :
    weight (encodeRune (Char.ofNat unit)) ≤ if unit < 0x80 then 1 else 0 := by
  by_cases ascii : (Char.ofNat unit).toNat < 0x80
  · rw [encodeRune_ascii ascii, weight_cons]
    split_ifs with solid low
    · exact le_rfl
    · exfalso
      revert solid
      have zero : (Char.ofNat unit).toNat = 0 := by
        unfold Char.ofNat at ascii ⊢
        split at ascii
        · next valid =>
          change unit < 0x80 at ascii
          exact absurd ascii low
        · next invalid => rw [dif_neg invalid]; rfl
      rw [zero]
      decide
    · exact Nat.zero_le _
    · exact Nat.zero_le _
  · rw [weight, countP_wide (fun _ own => own) ascii]
    exact Nat.zero_le _

private theorem weight_replacement : weight (encodeRune replacement) = 0 := by decide

private theorem weight_flush (text : StrState) : weight text.flush = weight text.out := by
  unfold StrState.flush
  split
  · rw [weight_append, weight_reverse, weight_replacement, Nat.zero_add]
  · rfl

private theorem emit_out (text : StrState) (bytes : Bytes) :
    weight (text.emit bytes).out = weight bytes + weight text.flush := by
  rw [StrState.emit, weight_append, weight_reverse]

private theorem worth_unit (text : StrState) (unit : ℕ) :
    (text.unit unit).worth ≤ weight text.flush + if unit < 0x80 then 1 else 0 := by
  have own := weight_unit unit
  have flushed := weight_flush text
  have settled : (text.unit unit).worth = weight (text.unit unit).out := by
    rw [StrState.worth, weight_flush, unit_escape]
    rfl
  rw [settled]
  generalize (if unit < 0x80 then 1 else 0) = room at own ⊢
  unfold StrState.unit
  split
  · next half pending =>
    split_ifs with low high
    · have pair := weight_unit (0x10000 + (half - 0xD800) * 0x400 + (unit - 0xDC00))
      rw [if_neg (by omega)] at pair
      rw [weight_append, weight_reverse]
      omega
    · exact Nat.le_add_right _ _
    · rw [emit_out]
      omega
  · split_ifs with high low
    · rw [flushed]
      exact Nat.le_add_right _ _
    · rw [emit_out, weight_replacement]
      omega
    · rw [emit_out]
      omega

private theorem worth_emit (text : StrState) (bytes : Bytes) :
    (text.emit bytes).worth = weight bytes + weight text.flush := by
  rw [StrState.worth, weight_flush, emit_out]
  rfl

private theorem weight_simpleEscape {byte plain : UInt8} (escapes : simpleEscape byte = some plain) :
    weight [plain] ≤ weight [byte] := by
  unfold simpleEscape at escapes
  split_ifs at escapes with same <;> cases escapes
  · exact le_rfl
  all_goals exact (by decide : weight _ ≤ 0).trans (Nat.zero_le _)

private theorem hexValue_lt {byte : UInt8} {digit : ℕ} (hex : hexValue byte = some digit) :
    digit < 16 ∧ (digit = 0 → weight [byte] = 1) := by
  change (if 48 ≤ byte.toNat ∧ byte.toNat ≤ 57 then some (byte.toNat - 48)
    else if 97 ≤ byte.toNat ∧ byte.toNat ≤ 102 then some (byte.toNat - 87)
    else if 65 ≤ byte.toNat ∧ byte.toNat ≤ 70 then some (byte.toNat - 55)
    else none) = some digit at hex
  split_ifs at hex with decimal small large <;> cases hex
  · refine ⟨by omega, fun zero => ?_⟩
    have same : byte = 0x30 := UInt8.toNat_inj.mp (by change byte.toNat = 48; omega)
    rw [same]
    decide
  · exact ⟨by omega, fun zero => by omega⟩
  · exact ⟨by omega, fun zero => by omega⟩

/-- A byte inside a string adds no more than itself. -/
theorem step_worth {text next : StrState} {byte : UInt8} (stepped : text.step byte = some next) :
    next.worth ≤ text.worth + weight [byte] := by
  obtain ⟨out, high, escape⟩ := text
  unfold StrState.step at stepped
  cases escape with
  | none =>
    simp only at stepped
    split_ifs at stepped
    · cases stepped
      exact Nat.le_add_right _ _
    · cases stepped
      rw [worth_emit]
      exact (Nat.add_comm _ _).le
  | backslash =>
    simp only at stepped
    split_ifs at stepped
    · cases stepped
      exact Nat.le_add_right _ _
    · obtain ⟨plain, escapes, rfl⟩ := Option.map_eq_some_iff.mp stepped
      rw [worth_emit]
      have lighter := weight_simpleEscape escapes
      simp only [StrState.worth, Escape.worth]
      change weight [plain] + weight (StrState.flush ⟨out, high, .backslash⟩) ≤ _
      omega
  | hex count value =>
    obtain ⟨digit, hex, rfl⟩ := Option.map_eq_some_iff.mp stepped
    obtain ⟨small, zero⟩ := hexValue_lt hex
    have flushed : weight (StrState.flush ⟨out, high, .hex count value⟩) = weight out := weight_flush _
    split_ifs with last
    · have settled := worth_unit ⟨out, high, .hex count value⟩ (value * 16 + digit)
      subst last
      simp only [StrState.worth, Escape.worth] at settled ⊢
      split_ifs at settled ⊢ <;> omega
    · have grown : (Escape.hex (count + 1) (value * 16 + digit)).worth ≤
          (Escape.hex count value).worth + weight [byte] := by
        simp only [Escape.worth, Nat.add_sub_cancel]
        cases count with
        | zero => split_ifs <;> omega
        | succ count =>
          rw [Nat.pow_succ, Nat.add_sub_cancel]
          split_ifs <;> omega
      simp only [StrState.worth, weight_flush]
      omega

/-! ## Scans -/

/-- Inside a string a byte completes it or goes into it. -/
theorem step_inside {stack : List Frame} {isKey : Bool} {text : StrState} {byte : UInt8} {next : State}
    (stepped : step ⟨stack, .inString isKey text⟩ byte = some next) :
    (text.escape = .none ∧ byte = 0x22 ∧ ∀ isKey text, next.mode ≠ .inString isKey text) ∨
      ¬ (text.escape = .none ∧ byte = 0x22) ∧
        ∃ read, text.step byte = some read ∧ next = ⟨stack, .inString isKey read⟩ := by
  obtain ⟨plain, quote, ⟨-, rfl⟩ | ⟨-, delivered⟩⟩ | goes := step_string stepped
  · exact .inl ⟨plain, quote, fun _ _ => Mode.noConfusion⟩
  · exact .inl ⟨plain, quote, (deliver_ended delivered).idle.outside⟩
  · exact .inr goes

/-- No string goes on past the end of a line. -/
theorem step_newline {state next : State} (stepped : step state 0x0A = some next) (isKey : Bool)
    (text : StrState) : next.mode ≠ .inString isKey text := by
  intro inside
  obtain outside | ⟨stack, own, read, rfl⟩ := state.outside_or_inside
  · exact absurd ((moves outside stepped).opens inside).1 (by decide)
  · obtain ⟨-, quote, -⟩ | ⟨-, after, reads, -⟩ := step_inside stepped
    · exact absurd quote (by decide)
    · obtain ⟨out, high, escape⟩ := read
      cases escape <;> cases reads

/-! ## The strings of a value -/

mutual
/-- Every string that is no key is good. -/
def Value.All (good : GoString → Prop) : Value → Prop
  | .str text => good text
  | .arr items => AllItems good items
  | .obj members => AllMembers good members
  | _ => True

def AllItems (good : GoString → Prop) : List Value → Prop
  | [] => True
  | item :: rest => item.All good ∧ AllItems good rest

def AllMembers (good : GoString → Prop) : List (GoString × Value) → Prop
  | [] => True
  | (_, value) :: rest => value.All good ∧ AllMembers good rest
end

variable {good : GoString → Prop}

theorem allItems_iff {items : List Value} : AllItems good items ↔ ∀ item ∈ items, item.All good := by
  induction items with
  | nil => simp [AllItems]
  | cons item rest ih => simp [AllItems, ih]

theorem allMembers_iff {members : List (GoString × Value)} :
    AllMembers good members ↔ ∀ member ∈ members, member.2.All good := by
  induction members with
  | nil => simp [AllMembers]
  | cons member rest ih => simp [AllMembers, ih]

theorem all_closed : Closed (Value.All good) fun _ => True where
  null := trivial
  bool _ := trivial
  num _ _ := trivial
  arr _ items := allItems_iff.mpr items
  obj _ members := allMembers_iff.mpr fun member inside => (members member inside).2

theorem allMembers_toMembers {entries : List (GoString × Any)} :
    AllMembers good (Any.toMembers entries) ↔ ∀ entry ∈ entries, entry.2.toValue.All good := by
  induction entries with
  | nil => simp [AllMembers, Any.toMembers]
  | cons entry rest ih => simp [AllMembers, Any.toMembers, ih]

theorem all_insertIn {entries : List (GoString × Any)} {key : GoString} {value : Any}
    (all : (Any.obj entries).toValue.All good) (own : value.toValue.All good) :
    (Any.obj (Map.insertIn key value entries)).toValue.All good := by
  apply allMembers_toMembers.mpr
  intro entry member
  rcases Map.mem_insertIn member with rfl | old
  · exact own
  · exact allMembers_toMembers.mp all entry old

mutual
/-- Reading a value into an `any` adds no strings. -/
theorem all_ofValue {value : Value} {read : Any} (all : value.All good)
    (reads : Any.ofValue value = some read) : read.toValue.All good := by
  match value with
  | .null | .bool _ =>
    cases reads
    exact trivial
  | .num text =>
    obtain ⟨number, -, rfl⟩ := Option.map_eq_some_iff.mp reads
    exact trivial
  | .str text =>
    cases reads
    exact all
  | .arr items =>
    obtain ⟨list, own, rfl⟩ := Option.map_eq_some_iff.mp reads
    exact all_ofItems all own
  | .obj members =>
    obtain ⟨entries, own, rfl⟩ := Option.map_eq_some_iff.mp reads
    have empty : (Any.obj []).toValue.All good := trivial
    exact all_ofMembers empty all own

theorem all_ofItems {items : List Value} {list : List Any} (all : AllItems good items)
    (reads : Any.ofItems items = some list) : AllItems good (Any.toItems list) := by
  match items with
  | [] =>
    cases reads
    exact trivial
  | item :: rest =>
    obtain ⟨first, own, tail⟩ := Option.bind_eq_some_iff.mp reads
    obtain ⟨others, later, rfl⟩ := Option.map_eq_some_iff.mp tail
    exact ⟨all_ofValue all.1 own, all_ofItems all.2 later⟩

theorem all_ofMembers {entries last : List (GoString × Any)} {members : List (GoString × Value)}
    (held : (Any.obj entries).toValue.All good) (all : AllMembers good members)
    (reads : Any.ofMembers entries members = some last) : (Any.obj last).toValue.All good := by
  match members with
  | [] =>
    cases reads
    exact held
  | (key, value) :: rest =>
    obtain ⟨first, own, tail⟩ := Option.bind_eq_some_iff.mp reads
    exact all_ofMembers (all_insertIn held (all_ofValue all.1 own)) all.2 tail
end

theorem all_findIn {entries : List (GoString × Any)} {key : GoString} {value : Any}
    (all : (Any.obj entries).toValue.All good) (found : Map.findIn key entries = some value) :
    value.toValue.All good :=
  allMembers_toMembers.mp all _ (Map.mem_of_findIn found)

/-- What is found in a good value is good. -/
theorem all_lookup {path : List GoString} {value found : Any} (all : value.toValue.All good)
    (looked : value.lookup path = some found) : found.toValue.All good := by
  induction path generalizing value with
  | nil =>
    cases looked
    exact all
  | cons name rest ih =>
    cases value with
    | obj entries =>
      obtain ⟨inner, here, deeper⟩ := Option.bind_eq_some_iff.mp looked
      exact ih (all_findIn all here) deeper
    | _ => cases looked

/-- All strings that a scan has completed are good. -/
abbrev State.All (good : GoString → Prop) (state : State) : Prop :=
  state.Holds (Value.All good) fun _ => True

/-- A byte that is no quote completes no string. -/
theorem all_step {state next : State} {byte : UInt8} (all : state.All good) (other : byte ≠ 0x22)
    (stepped : step state byte = some next) : next.All good :=
  step_holds all_closed all (fun _ _ _ _ quote => absurd quote other) stepped

/-- Only a quote adds a string to what is held. -/
theorem all_quote {state next : State} (all : state.All good)
    (completes : ∀ text, state.mode = .inString false text → text.escape = .none → good text.close)
    (stepped : step state 0x22 = some next) : next.All good := by
  refine step_holds all_closed all (fun isKey text inside settled _ => ?_) stepped
  cases isKey with
  | true => exact trivial
  | false => exact completes text inside settled

/-- Without a quote a scan finishes no string, so that what is held stays good. -/
theorem all_run {state last : State} {body : Bytes} (all : state.All good) (quiet : 0x22 ∉ body)
    (ran : run state body = some last) : last.All good := by
  induction body generalizing state with
  | nil => cases ran; exact all
  | cons byte rest ih =>
    obtain ⟨next, stepped, tail⟩ := Option.bind_eq_some_iff.mp ran
    rw [List.mem_cons, not_or] at quiet
    exact ih (all_step all (Ne.symm quiet.1) stepped) quiet.2 tail

/-! ## Templates and the strings in them -/

/-- A string in progress consists of inert bytes. -/
def Tidy (mode : Mode) : Prop :=
  ∀ isKey text, mode = .inString isKey text → ∃ out, text = .plain out ∧ Inert out

theorem close_plain (out : Bytes) : (StrState.plain out).close = toValid out.reverse := rfl

theorem inert_reverse {s : GoString} (inert : Inert s) : Inert s.reverse :=
  fun byte member => inert byte (List.mem_reverse.mp member)

/-- What a template itself says has inert strings only. -/
theorem tidy_run {state last : State} {body : Bytes} (inerts : ∀ s, Inert s → good s)
    (all : state.All good) (tidy : Tidy state.mode) (unescaped : 0x5C ∉ body)
    (ran : run state body = some last) : last.All good ∧ Tidy last.mode := by
  induction body generalizing state with
  | nil => cases ran; exact ⟨all, tidy⟩
  | cons byte rest ih =>
    obtain ⟨next, stepped, tail⟩ := Option.bind_eq_some_iff.mp ran
    rw [List.mem_cons, not_or] at unescaped
    refine ih ?_ ?_ unescaped.2 tail
    · by_cases quote : byte = 0x22
      · subst quote
        refine all_quote all (fun text inside _ => ?_) stepped
        obtain ⟨out, rfl, inert⟩ := tidy false text inside
        exact inerts _ ((inert_toValid _).mpr (inert_reverse inert))
      · exact all_step all quote stepped
    · intro isKey text inside
      obtain outside | ⟨stack, own, read, rfl⟩ := state.outside_or_inside
      · exact ⟨[], ((moves outside stepped).opens inside).2, nofun⟩
      · obtain ⟨out, rfl, inert⟩ := tidy own read rfl
        obtain ⟨-, -, closed⟩ | ⟨open_, after, reads, rfl⟩ := step_inside stepped
        · exact absurd inside (closed isKey text)
        · obtain ⟨rfl, rfl⟩ := Mode.inString.inj inside
          have other : byte ≠ 0x22 := fun same => open_ ⟨rfl, same⟩
          refine ⟨byte :: out, ?_, List.forall_mem_cons.mpr ⟨⟨other, Ne.symm unescaped.1⟩, inert⟩⟩
          simp only [StrState.step, StrState.plain] at reads
          rw [if_neg (Ne.symm unescaped.1)] at reads
          split_ifs at reads
          exact (Option.some.inj reads).symm

/-- What is in progress after the first bytes of a spliced string: these bytes, if they are inert, or a
string with fewer solid bytes than they have. -/
def Begun (front : Bytes) (mode : Mode) : Prop :=
  ∀ isKey text, mode = .inString isKey text →
    text = .plain front.reverse ∧ Inert front ∨ text.worth + 1 ≤ weight front ∧ ¬ Inert front

/-- One byte more of what has begun. -/
theorem begun_step {state next : State} {front : Bytes} {byte : UInt8} (begun : Begun front state.mode)
    (stepped : step state byte = some next) : Begun (front ++ [byte]) next.mode := by
  intro isKey text inside
  have special (own : byte = 0x22 ∨ byte = 0x5C) : isSolid byte = true ∧ ¬ Inert (front ++ [byte]) := by
    refine ⟨by rcases own with rfl | rfl <;> decide, fun inert => ?_⟩
    have apart := inert byte (List.mem_append_right _ (List.mem_singleton_self _))
    exact own.elim apart.1 apart.2
  obtain outside | ⟨stack, own, read, rfl⟩ := state.outside_or_inside
  · obtain ⟨quote, rfl⟩ := (moves outside stepped).opens inside
    obtain ⟨solid, other⟩ := special (.inl quote)
    refine .inr ⟨?_, other⟩
    rw [weight_concat, if_pos solid]
    exact Nat.le_add_left _ _
  · obtain ⟨-, -, closed⟩ | ⟨open_, after, reads, rfl⟩ := step_inside stepped
    · exact absurd inside (closed isKey text)
    · obtain ⟨rfl, rfl⟩ := Mode.inString.inj inside
      obtain ⟨rfl, inert⟩ | ⟨light, other⟩ := begun own read rfl
      · have unquoted : byte ≠ 0x22 := fun same => open_ ⟨rfl, same⟩
        simp only [StrState.step, StrState.plain] at reads
        split_ifs at reads with backslash
        · obtain ⟨solid, other⟩ := special (.inr backslash)
          cases reads
          refine .inr ⟨?_, other⟩
          rw [weight_concat, if_pos solid]
          change weight front.reverse + 0 + 1 ≤ _
          rw [weight_reverse]
        · refine .inl ⟨?_, inert_concat inert ⟨unquoted, backslash⟩⟩
          rw [List.reverse_append]
          exact (Option.some.inj reads).symm
      · refine .inr ⟨?_, fun inert => other fun each member =>
          inert each (List.mem_append_left _ member)⟩
        have grown := step_worth reads
        rw [weight_concat]
        rw [weight_cons] at grown
        change after.worth ≤ read.worth + (0 + _) at grown
        omega

section

variable {bound : ℕ}

/-- A spliced string completes no string that is neither lighter nor inert. -/
theorem begun_completes {front : Bytes} {mode : Mode} (begun : Begun front mode)
    (fits : ¬ Inert front → weight front ≤ bound) {text : StrState} (inside : mode = .inString false text) :
    Below bound text.close := by
  obtain ⟨rfl, inert⟩ | ⟨light, other⟩ := begun false text inside
  · right
    rw [close_plain, List.reverse_reverse, inert_toValid]
    exact inert
  · left
    rw [StrState.close, weight_toValid, weight_reverse]
    have heavy := fits other
    unfold StrState.worth at light
    omega

/-- A text that is inert, or weighs no more than the bound, leaves every string below the bound. -/
theorem begun_run {state last : State} {front body : Bytes} (all : state.All (Below bound))
    (begun : Begun front state.mode) (fits : ¬ Inert (front ++ body) → weight (front ++ body) ≤ bound)
    (ran : run state body = some last) : last.All (Below bound) ∧ Begun (front ++ body) last.mode := by
  induction body generalizing state front with
  | nil =>
    cases ran
    rw [List.append_nil]
    exact ⟨all, begun⟩
  | cons byte rest ih =>
    obtain ⟨next, stepped, tail⟩ := Option.bind_eq_some_iff.mp ran
    have early : ¬ Inert front → weight front ≤ bound := by
      intro other
      have whole := fits fun inert => other fun each member =>
        inert each (List.mem_append_left _ member)
      rw [weight_append] at whole
      omega
    rw [List.append_cons] at fits ⊢
    refine ih ?_ (begun_step begun stepped) fits tail
    by_cases quote : byte = 0x22
    · subst quote
      exact all_quote all (fun text inside _ => begun_completes begun early inside) stepped
    · exact all_step all quote stepped

/-- A string between the quotes of a template, with the rest of its line and what follows up to the
next one. -/
structure Hole where
  field : Bytes
  line : Bytes
  later : Bytes

def Hole.text (hole : Hole) : Bytes :=
  0x22 :: (hole.field ++ 0x22 :: (hole.line ++ 0x0A :: hole.later))

/-! ## Inert strings -/

/-- Inert bytes in a string stand for themselves, if the scan goes on. -/
theorem run_field {stack : List Frame} {isKey : Bool} {field rest : Bytes} {last : State}
    (inert : Inert field) (out : Bytes)
    (ran : run ⟨stack, .inString isKey (.plain out)⟩ (field ++ rest) = some last) :
    run ⟨stack, .inString isKey (.plain (field.reverse ++ out))⟩ rest = some last := by
  induction field generalizing out with
  | nil => exact ran
  | cons byte tail ih =>
    obtain ⟨⟨quote, backslash⟩, others⟩ := List.forall_mem_cons.mp inert
    obtain ⟨next, stepped, ran⟩ := Option.bind_eq_some_iff.mp ran
    obtain ⟨-, same, -⟩ | ⟨-, read, reads, rfl⟩ := step_inside stepped
    · exact absurd same quote
    · simp only [StrState.step, StrState.plain] at reads
      rw [if_neg backslash] at reads
      split_ifs at reads
      cases reads
      have later := ih others (byte :: out) ran
      rwa [List.reverse_cons, List.append_assoc, List.singleton_append]

/-- What follows a literal is scanned from where the literal leads. -/
theorem run_front (next : State) {state last : State} {literal rest : Bytes}
    (goes : run state literal = some next) (ran : run state (literal ++ rest) = some last) :
    run next rest = some last := by
  rwa [run_append, goes, Option.bind_some] at ran

/-- The string of a hole becomes the value of the key before it. -/
theorem run_hole (next : State) {done : List (GoString × Value)} {key : GoString}
    {below : List Frame} {hole : Hole} {rest : Bytes} {last : State} (inert : Inert hole.field)
    (valid : Valid hole.field)
    (goes : run ⟨.objectKey ((key, .str hole.field) :: done) :: below, .endValue⟩
      (hole.line ++ 0x0A :: hole.later) = some next)
    (ran : run ⟨.objectValue done key :: below, .beginValue⟩ (hole.text ++ rest) = some last) :
    run next rest = some last := by
  have opened : run ⟨.objectValue done key :: below, .inString false (.plain [])⟩
      (hole.field ++ (0x22 :: ((hole.line ++ 0x0A :: hole.later) ++ rest))) = some last := by
    rw [← ran, Hole.text]
    simp only [List.cons_append, List.append_assoc]
    rfl
  have filled := run_field inert [] opened
  have closed : run ⟨.objectKey ((key, .str (toValid (hole.field.reverse ++ []).reverse)) :: done) :: below,
      .endValue⟩ ((hole.line ++ 0x0A :: hole.later) ++ rest) = some last := filled
  rw [List.append_nil, List.reverse_reverse, valid] at closed
  exact run_front next goes closed

/-- An integer is read up to the comma. -/
theorem run_int {done : List (GoString × Value)} {key : GoString} (value : ℤ) (rest : Bytes) :
    run ⟨[.objectValue done key], .beginValue⟩ (itoa value ++ 0x2C :: rest) =
      run ⟨[.objectKey ((key, .num (itoa value)) :: done)], .endValue⟩ (0x2C :: rest) :=
  run_encode (.num (itoa value)) (isNumber_itoa value) _ (by simp [Value.depth, maxNestingDepth])
    fun _ _ => ⟨0x2C, rest, rfl, rfl⟩

/-! ## Strings that are not inert -/

/-- The string does not weigh more than the bound, unless it is inert. -/
structure Hole.Fits (bound : ℕ) (hole : Hole) : Prop where
  field : ¬ Inert hole.field → weight hole.field ≤ bound
  line : 0x22 ∉ hole.line
  later : 0x5C ∉ hole.later

/-- What the template says after the string is ASCII that leaves strings alone. -/
structure Hole.Framed (hole : Hole) : Prop where
  line : ∀ byte ∈ hole.line, byte.toNat < 0x80 ∧ byte ≠ 0x22
  later : ∀ byte ∈ hole.later, byte.toNat < 0x80 ∧ byte ≠ 0x5C

theorem Hole.framed {field line later : Bytes} (quiet : ∀ byte ∈ line, byte.toNat < 0x80 ∧ byte ≠ 0x22)
    (unescaped : ∀ byte ∈ later, byte.toNat < 0x80 ∧ byte ≠ 0x5C) :
    Hole.Framed ⟨field, line, later⟩ :=
  ⟨quiet, unescaped⟩

theorem Hole.Framed.valid {hole : Hole} (framed : hole.Framed) (field : Valid hole.field) :
    Valid hole.text := by
  have quote : Valid [0x22] := Ascii.valid (by decide)
  have newline : Valid [0x0A] := Ascii.valid (by decide)
  have line : Valid hole.line := Ascii.valid fun byte member => (framed.line byte member).1
  have later : Valid hole.later := Ascii.valid fun byte member => (framed.later byte member).1
  exact quote.append (field.append (quote.append (line.append (newline.append later))))

/-- A hole in a plain frame fits if its field does. -/
theorem Hole.Framed.fits {hole : Hole} {bound : ℕ} (framed : hole.Framed)
    (field : ¬ Inert hole.field → weight hole.field ≤ bound) : hole.Fits bound :=
  ⟨field, fun quote => (framed.line _ quote).2 rfl, fun backslash => (framed.later _ backslash).2 rfl⟩

/-- A hole that fits leaves only strings below the bound. -/
theorem hole_run {state last : State} {hole : Hole} (fits : hole.Fits bound)
    (all : state.All (Below bound)) (tidy : Tidy state.mode) (ran : run state hole.text = some last) :
    last.All (Below bound) ∧ Tidy last.mode := by
  obtain ⟨opened, opens, ran⟩ := Option.bind_eq_some_iff.mp ran
  rw [run_append] at ran
  obtain ⟨filled, fills, ran⟩ := Option.bind_eq_some_iff.mp ran
  obtain ⟨closed, closes, ran⟩ := Option.bind_eq_some_iff.mp ran
  rw [run_append] at ran
  obtain ⟨ended, ends, ran⟩ := Option.bind_eq_some_iff.mp ran
  obtain ⟨next, newline, ran⟩ := Option.bind_eq_some_iff.mp ran
  have openedAll := all_quote all (fun text inside _ => by
    obtain ⟨out, rfl, inert⟩ := tidy false text inside
    exact .inr ((inert_toValid _).mpr (inert_reverse inert))) opens
  have begun : Begun [] opened.mode := by
    intro isKey text inside
    obtain outside | ⟨stack, own, read, rfl⟩ := state.outside_or_inside
    · exact .inl ⟨((moves outside opens).opens inside).2, nofun⟩
    · obtain ⟨out, rfl, -⟩ := tidy own read rfl
      obtain ⟨-, -, away⟩ | ⟨open_, -⟩ := step_inside opens
      · exact absurd inside (away isKey text)
      · exact absurd ⟨rfl, rfl⟩ open_
  obtain ⟨filledAll, filledBegun⟩ := begun_run openedAll begun fits.field fills
  rw [List.nil_append] at filledBegun
  have closedAll := all_quote filledAll (fun text inside _ =>
    begun_completes filledBegun fits.field inside) closes
  have nextAll := all_step (all_run closedAll fits.line ends) (by decide) newline
  exact tidy_run (fun s inert => .inr inert) nextAll
    (fun isKey text inside => absurd inside (step_newline newline isKey text)) fits.later ran

/-- So do holes one after another. -/
theorem holes_run {holes : List Hole} (fits : ∀ hole ∈ holes, hole.Fits bound) {state last : State}
    (all : state.All (Below bound)) (tidy : Tidy state.mode)
    (ran : run state (holes.flatMap Hole.text) = some last) : last.All (Below bound) := by
  induction holes generalizing state with
  | nil =>
    cases ran
    exact all
  | cons hole rest ih =>
    obtain ⟨own, others⟩ := List.forall_mem_cons.mp fits
    rw [List.flatMap_cons, run_append] at ran
    obtain ⟨next, first, later⟩ := Option.bind_eq_some_iff.mp ran
    obtain ⟨nextAll, nextTidy⟩ := hole_run own all tidy first
    exact ih others nextAll nextTidy later

/-- What a template with spliced strings parses to has light and inert strings only. -/
theorem parse_holes {front : Bytes} {holes : List Hole} (unescaped : 0x5C ∉ front)
    (fits : ∀ hole ∈ holes, hole.Fits bound) {value : Value}
    (parsed : parse (front ++ holes.flatMap Hole.text) = some value) :
    value.All (Below bound) := by
  obtain ⟨last, ran, final⟩ := Option.bind_eq_some_iff.mp parsed
  rw [List.append_assoc, run_append] at ran
  obtain ⟨first, begins, ran⟩ := Option.bind_eq_some_iff.mp ran
  rw [run_append] at ran
  obtain ⟨second, goes, ends⟩ := Option.bind_eq_some_iff.mp ran
  obtain ⟨firstAll, firstTidy⟩ := tidy_run (fun s inert => (Or.inr inert : Below bound s)) start_holds
    (fun isKey text inside => by cases inside) unescaped begins
  exact (all_run (holes_run fits firstAll firstTidy goes) (by decide) ends).value final

end

end ShadowNet.Go.Json
