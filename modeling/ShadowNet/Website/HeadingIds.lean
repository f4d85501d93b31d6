import Mathlib
import ShadowNet.Website.Markdown

/-! # The ids of headings

A heading gets the slug of its text as its id, and from the second of a slug on its number behind a
dash. Such an id may be the slug of another heading.
-/

namespace ShadowNet.Website

open Js

/-! ## Numbering -/

/-- Each base with the number of those before it that are the same. -/
def occurrences : (JsString → ℕ) → List JsString → List (JsString × ℕ)
  | _, [] => []
  | seen, base :: rest =>
      (base, seen base) :: occurrences (Function.update seen base (seen base + 1)) rest

theorem mem_occurrences {seen : JsString → ℕ} {bases : List JsString} {base : JsString} {n : ℕ} :
    (base, n) ∈ occurrences seen bases ↔ seen base ≤ n ∧ n < seen base + bases.count base := by
  induction bases generalizing seen with
  | nil =>
    simp only [occurrences, List.not_mem_nil, List.count_nil, false_iff]
    omega
  | cons head rest ih =>
    rw [occurrences, List.mem_cons, ih]
    by_cases same : base = head
    · subst same
      rw [Function.update_self, List.count_cons_self, Prod.mk.injEq]
      constructor
      · rintro (⟨-, rfl⟩ | later) <;> omega
      · intro within
        by_cases first : n = seen base
        · exact .inl ⟨rfl, first⟩
        · exact .inr (by omega)
    · rw [Function.update_of_ne same, List.count_cons_of_ne (Ne.symm same), Prod.mk.injEq]
      exact ⟨fun either => either.resolve_left fun pair => same pair.1, .inr⟩

theorem nodup_occurrences (seen : JsString → ℕ) (bases : List JsString) :
    (occurrences seen bases).Nodup := by
  induction bases generalizing seen with
  | nil => exact List.nodup_nil
  | cons base rest ih =>
    refine List.nodup_cons.mpr ⟨fun again => ?_, ih _⟩
    have later := (mem_occurrences.mp again).1
    rw [Function.update_self] at later
    omega

/-- Digits have no dash in them, so that the last dash is the one in front of them. -/
theorem last_dash {more digits : JsString} {n : ℕ}
    (same : 0x2D :: decimal n = more ++ 0x2D :: digits) : more = [] ∧ decimal n = digits := by
  cases more with
  | nil => exact ⟨rfl, (List.cons.inj same).2⟩
  | cons mark more =>
    refine absurd ?_ (dash_notMem_decimal n)
    rw [(List.cons.inj same).2]
    exact List.mem_append_right _ (List.mem_cons_self ..)

/-- A suffix tells its base and its number. -/
theorem suffix_inj {base other : JsString} {n m : ℕ}
    (same : base ++ 0x2D :: decimal n = other ++ 0x2D :: decimal m) : base = other ∧ n = m := by
  rcases List.append_eq_append_iff.mp same with ⟨more, shape, tail⟩ | ⟨more, shape, tail⟩
  · obtain ⟨rfl, digits⟩ := last_dash tail
    exact ⟨(shape.trans (List.append_nil _)).symm, decimal_injective digits⟩
  · obtain ⟨rfl, digits⟩ := last_dash tail
    exact ⟨shape.trans (List.append_nil _), decimal_injective digits.symm⟩

/-- The ids that headings with these bases get. -/
def idsOf (seen : JsString → ℕ) (bases : List JsString) : List JsString :=
  (occurrences seen bases).map fun pair => numberedId pair.1 pair.2

/-- Two headings get one id exactly if the base of one of them is the numbered id of the other. -/
theorem nodup_idsOf {bases : List JsString} : (idsOf (fun _ => 0) bases).Nodup ↔
    ∀ base k, 2 ≤ k → k ≤ bases.count base → base ++ 0x2D :: decimal k ∉ bases := by
  have counted {base : JsString} {n : ℕ} :
      (base, n) ∈ occurrences (fun _ => 0) bases ↔ n < bases.count base := by
    rw [mem_occurrences]
    simp
  rw [idsOf, List.nodup_map_iff_inj_on (nodup_occurrences _ _)]
  constructor
  · intro apart base k repeated bound written
    have first : (base ++ 0x2D :: decimal k, 0) ∈ occurrences (fun _ => 0) bases :=
      counted.mpr (List.count_pos_iff.mpr written)
    have later : (base, k - 1) ∈ occurrences (fun _ => 0) bases := counted.mpr (by omega)
    have same : numberedId (base ++ 0x2D :: decimal k) 0 = numberedId base (k - 1) := by
      rw [numberedId, if_pos rfl, numberedId, if_neg (by omega), Nat.sub_add_cancel (by omega)]
    have zero := (Prod.mk.inj (apart _ first _ later same)).2
    omega
  · -- one number is zero and the other is not, or the ids tell the pairs
    intro free
    have clash {base other : JsString} {m : ℕ} (member : (base, 0) ∈ occurrences (fun _ => 0) bases)
        (member' : (other, m + 1) ∈ occurrences (fun _ => 0) bases)
        (same : base = other ++ 0x2D :: decimal (m + 1 + 1)) : False := by
      apply free other (m + 1 + 1) (by omega) (counted.mp member')
      rw [← same]
      exact List.count_pos_iff.mp (counted.mp member)
    rintro ⟨base, n⟩ member ⟨other, m⟩ member' same
    cases n with
    | zero =>
      cases m with
      | zero => exact Prod.ext same rfl
      | succ m => exact (clash member member' same).elim
    | succ n =>
      cases m with
      | zero => exact (clash member' member same.symm).elim
      | succ m =>
        obtain ⟨alike, numbers⟩ := suffix_inj same
        exact Prod.ext alike (Nat.succ.inj numbers)

/-! ## Headings of the document -/

/-- The id of a heading. -/
def Block.id? : Block → Option JsString
  | .heading _ id _ => some id
  | _ => none

/-- The ids of the headings, in their order. -/
def Render.ids (r : Render) : List JsString := r.nodes.filterMap Block.id?

/-- The bases of the headings that are met in the document. -/
def headingBases (unicode : Unicode) (md : JsString) : List JsString :=
  (Mode.block.meets (linesOf md)).headings.map (baseId unicode)

section

variable (unicode : Unicode) {r : Render} {line : JsString} {below : List JsString}

/-- The ids that the headings in the lines that are left will get. -/
def Render.due (r : Render) : List JsString :=
  idsOf r.seenIds ((Mode.block.meets r.rest).headings.map (baseId unicode))

@[simp] theorem Render.push_seenIds (node : Block) (rest : List JsString) :
    (r.push node rest).seenIds = r.seenIds := rfl

theorem Render.push_ids {node : Block} (plain : node.id? = none) (rest : List JsString) :
    (r.push node rest).ids = r.ids := by
  rw [Render.ids, Render.push, List.filterMap_append, List.filterMap_cons_none plain,
    List.filterMap_nil, List.append_nil, Render.ids]

/-- A heading is no fence. -/
theorem heading_not_fence {groups : JsString × JsString}
    (found : execHeading line = some groups) : fence.test line = false := by
  have marked := execHeading_marked (Option.isSome_iff_exists.mpr ⟨groups, found⟩)
  exact test_apart headingStart_starts fence_starts (fun head own => beq_iff_eq.mp own ▸ rfl) marked

/-- A line that is no heading leaves the ids and what they are made of alone. -/
theorem step_plain (lines : r.rest = line :: below) (unnamed : execHeading line = none) :
    (r.step unicode).ids = r.ids ∧ (r.step unicode).seenIds = r.seenIds := by
  rw [Render.step, lines]
  dsimp only
  rw [unnamed]
  dsimp only
  split_ifs <;> first
    | exact ⟨r.push_ids rfl _, rfl⟩
    | exact ⟨rfl, rfl⟩

/-- A heading gets the id of its base and the number of those before it. -/
theorem step_heading (lines : r.rest = line :: below) {groups : JsString × JsString}
    (found : execHeading line = some groups) :
    (r.step unicode).ids =
        r.ids ++ [numberedId (baseId unicode (trim groups.2))
          (r.seenIds (baseId unicode (trim groups.2)))] ∧
      (r.step unicode).seenIds = Function.update r.seenIds (baseId unicode (trim groups.2))
        (r.seenIds (baseId unicode (trim groups.2)) + 1) := by
  rw [Render.step, lines]
  dsimp only
  rw [heading_not_fence found, found]
  refine ⟨?_, rfl⟩
  change (r.nodes ++ [_]).filterMap Block.id? = _
  rw [List.filterMap_append]
  rfl

theorem begins_heading {following : JsString} {reading : Reading}
    (begun : begins line following = some reading) :
    reading.heading = (execHeading line).map fun groups => trim groups.2 := by
  unfold begins at begun
  by_cases fenced : fence.test line = true
  · rw [if_pos fenced] at begun
    cases begun
    cases found : execHeading line with
    | none => rfl
    | some groups => exact absurd fenced (by rw [heading_not_fence found]; decide)
  · rw [if_neg fenced] at begun
    cases found : execHeading line with
    | some groups =>
      rw [found] at begun
      cases begun
      rfl
    | none =>
      rw [found] at begun
      dsimp only at begun
      split_ifs at begun <;> cases begun <;> rfl

/-- What has been given and what is due are the same list all along. -/
theorem step_due (r : Render) :
    (r.step unicode).ids ++ (r.step unicode).due unicode = r.ids ++ r.due unicode := by
  cases lines : r.rest with
  | nil => rw [step_ended unicode lines]
  | cons line below =>
    cases found : execHeading line with
    | some groups =>
      obtain ⟨ids, seen⟩ := step_heading unicode lines found
      cases begun : begins line (below.headD []) with
      | none =>
        rw [(begins_eq_none_iff.mp begun).2.1] at found
        cases found
      | some reading =>
        have named := begins_heading begun
        rw [found, Option.map_some] at named
        rw [ids, Render.due, seen, ← (step_begins unicode lines begun).2, Render.due, lines,
          Mode.meets, Mode.read, begun]
        dsimp only
        rw [named, List.append_assoc]
        rfl
    | none =>
      obtain ⟨ids, seen⟩ := step_plain unicode lines found
      rw [ids, Render.due, seen, Render.due]
      cases begun : begins line (below.headD []) with
      | none => rw [step_stuck unicode lines begun]
      | some reading =>
        have named := begins_heading begun
        rw [found, Option.map_none] at named
        rw [← (step_begins unicode lines begun).2, lines, Mode.meets, Mode.read, begun]
        dsimp only
        rw [named]
        rfl

theorem iterate_due (r : Render) (n : ℕ) :
    ((Render.step unicode)^[n] r).ids ++ ((Render.step unicode)^[n] r).due unicode =
      r.ids ++ r.due unicode := by
  induction n with
  | zero => rfl
  | succ n ih => rw [Function.iterate_succ_apply', step_due, ih]

/-- In the end all that is due has been given. -/
theorem exists_due_nil (r : Render) : ∃ n, ((Render.step unicode)^[n] r).due unicode = [] := by
  by_cases whole : (Mode.block.meets r.rest).whole = true
  · obtain ⟨⟨n, ends⟩, -⟩ := r.terminates_of_whole unicode whole
    exact ⟨n, by rw [Render.due, ends]; rfl⟩
  · obtain ⟨n, line, below, lines, stuck⟩ :=
      r.reaches_stuck unicode (Bool.eq_false_iff.mpr whole)
    exact ⟨n, by rw [Render.due, lines, Mode.meets, Mode.read, stuck]; rfl⟩

/-- The ids stay distinct exactly if no heading's base is the numbered id of another one. -/
theorem renderMarkdown_ids_nodup_iff (md : JsString) :
    (∀ n, ((Render.step unicode)^[n] (Render.start md)).ids.Nodup) ↔
      ∀ base k, 2 ≤ k → k ≤ (headingBases unicode md).count base →
        base ++ 0x2D :: decimal k ∉ headingBases unicode md := by
  refine Iff.trans ?_ nodup_idsOf
  have given (n : ℕ) : ((Render.step unicode)^[n] (Render.start md)).ids ++
      ((Render.step unicode)^[n] (Render.start md)).due unicode =
        idsOf (fun _ => 0) (headingBases unicode md) := iterate_due unicode (Render.start md) n
  constructor
  · intro distinct
    obtain ⟨n, done⟩ := exists_due_nil unicode (Render.start md)
    rw [← given n, done, List.append_nil]
    exact distinct n
  · intro distinct n
    rw [← given n] at distinct
    exact distinct.of_append_left

end

/-- Headings `a`, `a` and `a-2`. -/
theorem renderMarkdown_ids_repeated : ¬ ∀ (md : JsString) (n : ℕ),
    ((Render.step .ascii)^[n] (Render.start md)).ids.Nodup := by
  intro every
  have ids : ((Render.step .ascii)^[5] (Render.start (js "# a\n# a\n# a-2"))).ids =
      [js "a", js "a-2", js "a-2"] := by decide
  have distinct := every (js "# a\n# a\n# a-2") 5
  rw [ids] at distinct
  revert distinct
  decide

end ShadowNet.Website
