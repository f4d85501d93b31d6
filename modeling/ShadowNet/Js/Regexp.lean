import ShadowNet.Js.String

/-! # JavaScript expressions

The expressions without flags, tried at one place of a string: the ends that a match can have, in
the order in which backtracking finds them. An expression reads code units.
-/

namespace ShadowNet.Js

inductive Regexp where
  | empty
  | unit (p : UInt16 → Bool)
  | seq (first second : Regexp)
  | alt (first second : Regexp)
  | star (body : Regexp)

namespace Regexp

/-- A unit as it stands. -/
def one (head : UInt16) : Regexp := .unit (· == head)

def text : JsString → Regexp
  | [] => .empty
  | head :: rest => .seq (one head) (text rest)

/-- Expressions one behind the other. -/
def all : List Regexp → Regexp
  | [] => .empty
  | [last] => last
  | first :: rest => .seq first (all rest)

/-- `body+`. -/
def plus (body : Regexp) : Regexp := .seq body (.star body)

/-- `body?`. -/
def opt (body : Regexp) : Regexp := .alt body .empty

/-- `body{0,most}`. -/
def upTo : ℕ → Regexp → Regexp
  | 0, _ => .empty
  | most + 1, body => opt (.seq body (upTo most body))

/-- The white space `\s`. -/
def space : Regexp := .unit isSpace

/-- A digit `\d`. -/
def digit : Regexp := .unit fun unit => 0x30 ≤ unit && unit ≤ 0x39

/-- The dot. -/
def dot : Regexp := .unit fun unit => !isTerminator unit

/-! ## Matches -/

/-- The expression takes the whole string. -/
inductive Takes : Regexp → JsString → Prop
  | empty : Takes .empty []
  | unit {p : UInt16 → Bool} {head : UInt16} (takes : p head = true) : Takes (.unit p) [head]
  | seq {first second : Regexp} {taken more : JsString} (left : Takes first taken)
      (right : Takes second more) : Takes (.seq first second) (taken ++ more)
  | altLeft {first second : Regexp} {taken : JsString} (left : Takes first taken) :
      Takes (.alt first second) taken
  | altRight {first second : Regexp} {taken : JsString} (right : Takes second taken) :
      Takes (.alt first second) taken
  | starNil {body : Regexp} : Takes (.star body) []
  | starCons {body : Regexp} {taken more : JsString} (left : Takes body taken)
      (right : Takes (.star body) more) : Takes (.star body) (taken ++ more)

/-- The ends of rounds of a star, most rounds first; a round that takes nothing is the last. -/
def starEnds (body : JsString → List ℕ) : ℕ → JsString → List ℕ
  | 0, _ => [0]
  | fuel + 1, s =>
      (((body s).filter (0 < ·)).flatMap fun count =>
        (starEnds body fuel (s.drop count)).map (count + ·)) ++ [0]

/-- How many units at the front of a string the expression can take, in order of preference. -/
def ends : Regexp → JsString → List ℕ
  | .empty, _ => [0]
  | .unit p, s => if s.head?.any p then [1] else []
  | .seq first second, s => (first.ends s).flatMap fun count =>
      (second.ends (s.drop count)).map (count + ·)
  | .alt first second, s => first.ends s ++ second.ends s
  | .star body, s => starEnds body.ends s.length s

/-- `/^body/.test`. -/
def test (body : Regexp) (s : JsString) : Bool := !(body.ends s).isEmpty

/-- `/^body$/.test`. -/
def testWhole (body : Regexp) (s : JsString) : Bool := s.length ∈ body.ends s

theorem takes_empty {s : JsString} : Takes .empty s ↔ s = [] :=
  ⟨fun takes => by cases takes; rfl, fun nothing => nothing ▸ .empty⟩

theorem takes_unit {p : UInt16 → Bool} {s : JsString} :
    Takes (.unit p) s ↔ ∃ head, s = [head] ∧ p head = true := by
  constructor
  · rintro (_ | takes)
    exact ⟨_, rfl, takes⟩
  · rintro ⟨head, rfl, takes⟩
    exact .unit takes

theorem takes_seq {first second : Regexp} {s : JsString} : Takes (.seq first second) s ↔
    ∃ taken more, s = taken ++ more ∧ Takes first taken ∧ Takes second more := by
  constructor
  · intro takes
    cases takes with
    | seq left right => exact ⟨_, _, rfl, left, right⟩
  · rintro ⟨taken, more, rfl, left, right⟩
    exact .seq left right

theorem takes_alt {first second : Regexp} {s : JsString} :
    Takes (.alt first second) s ↔ Takes first s ∨ Takes second s := by
  constructor
  · intro takes
    cases takes with
    | altLeft left => exact .inl left
    | altRight right => exact .inr right
  · rintro (left | right)
    · exact .altLeft left
    · exact .altRight right

/-- Rounds of a class take units of the class. -/
theorem forall_of_takes_star {p : UInt16 → Bool} {s : JsString} (takes : Takes (.star (.unit p)) s) :
    ∀ unit ∈ s, p unit = true := by
  generalize isStar : star (.unit p) = whole at takes
  induction takes with
  | starNil => simp
  | @starCons body taken more left right _ ih =>
    cases isStar
    obtain ⟨head, rfl, own⟩ := takes_unit.mp left
    rw [List.singleton_append, List.forall_mem_cons]
    exact ⟨own, ih rfl⟩
  | _ => cases isStar

/-- The expression has an end where it takes what stands before. -/
def Ends (step : JsString → List ℕ) (body : Regexp) : Prop :=
  ∀ s count, count ∈ step s ↔ ∃ taken after, s = taken ++ after ∧ taken.length = count ∧ Takes body taken

theorem mem_starEnds {body : Regexp} {step : JsString → List ℕ} (correct : Ends step body)
    {fuel : ℕ} {s : JsString} (enough : s.length ≤ fuel) (count : ℕ) :
    count ∈ starEnds step fuel s ↔
      ∃ taken after, s = taken ++ after ∧ taken.length = count ∧ Takes (.star body) taken := by
  constructor
  · clear enough
    induction fuel generalizing s count with
    | zero =>
      intro member
      obtain rfl := List.mem_singleton.mp member
      exact ⟨[], s, rfl, rfl, .starNil⟩
    | succ fuel ih =>
      intro member
      simp only [starEnds, List.mem_append, List.mem_flatMap, List.mem_filter, List.mem_map,
        List.mem_singleton] at member
      obtain ⟨first, ⟨round, -⟩, rest, later, rfl⟩ | rfl := member
      · obtain ⟨taken, after, rfl, rfl, left⟩ := (correct _ _).mp round
        rw [List.drop_left] at later
        obtain ⟨more, after, rfl, rfl, right⟩ := ih rest later
        exact ⟨taken ++ more, after, by rw [List.append_assoc], List.length_append,
          .starCons left right⟩
      · exact ⟨[], s, rfl, rfl, .starNil⟩
  · rintro ⟨taken, after, rfl, rfl, takes⟩
    generalize isStar : star body = whole at takes
    induction takes generalizing fuel with
    | starNil => cases fuel <;> simp [starEnds]
    | @starCons body' taken more left right _ ih =>
      cases isStar
      obtain rfl | some := eq_or_ne taken []
      · exact ih enough rfl
      · have positive := List.length_pos_iff.mpr some
        obtain ⟨fuel, rfl⟩ : ∃ less, fuel = less + 1 :=
          Nat.exists_eq_succ_of_ne_zero (by simp only [List.length_append] at enough; omega)
        have later := @ih fuel (by simp only [List.length_append] at enough ⊢; omega) rfl
        simp only [starEnds, List.mem_append, List.mem_flatMap, List.mem_filter, List.mem_map]
        refine .inl ⟨taken.length, ⟨?_, by simpa using positive⟩, more.length, ?_, ?_⟩
        · rw [List.append_assoc]
          exact (correct _ _).mpr ⟨taken, more ++ after, rfl, rfl, left⟩
        · rwa [List.append_assoc, List.drop_left]
        · exact List.length_append.symm
    | _ => cases isStar

theorem mem_ends (body : Regexp) : Ends body.ends body := by
  induction body with
  | empty =>
    intro s count
    simp only [ends, List.mem_singleton, takes_empty]
    constructor
    · rintro rfl
      exact ⟨[], s, rfl, rfl, rfl⟩
    · rintro ⟨taken, after, -, rfl, rfl⟩
      rfl
  | unit p =>
    intro s count
    cases s with
    | nil => simp [ends, takes_unit]
    | cons head rest =>
      have first : (Regexp.unit p).ends (head :: rest) = if p head then [1] else [] := rfl
      rw [first]
      constructor
      · intro member
        split_ifs at member with takes
        · obtain rfl := List.mem_singleton.mp member
          exact ⟨[head], rest, rfl, rfl, .unit takes⟩
        · cases member
      · rintro ⟨taken, after, split, rfl, takes⟩
        obtain ⟨other, rfl, accepted⟩ := takes_unit.mp takes
        obtain ⟨rfl, -⟩ := List.cons.inj split
        rw [if_pos accepted]
        exact List.mem_singleton_self _
  | seq first second left right =>
    intro s count
    simp only [ends, List.mem_flatMap, List.mem_map, takes_seq]
    constructor
    · rintro ⟨one, reached, two, later, rfl⟩
      obtain ⟨taken, after, rfl, rfl, takes⟩ := (left _ _).mp reached
      rw [List.drop_left] at later
      obtain ⟨more, after, rfl, rfl, takes'⟩ := (right _ _).mp later
      exact ⟨taken ++ more, after, (List.append_assoc ..).symm, List.length_append, taken, more, rfl,
        takes, takes'⟩
    · rintro ⟨-, after, rfl, rfl, taken, more, rfl, takes, takes'⟩
      refine ⟨taken.length, (left _ _).mpr ⟨taken, more ++ after, List.append_assoc .., rfl, takes⟩,
        more.length, ?_, List.length_append.symm⟩
      rw [List.append_assoc, List.drop_left]
      exact (right _ _).mpr ⟨more, after, rfl, rfl, takes'⟩
  | alt first second left right =>
    intro s count
    simp only [ends, List.mem_append, left s count, right s count, takes_alt, ← exists_or, ← and_or_left]
  | star body ih =>
    intro s count
    exact mem_starEnds ih le_rfl count

/-- A test looks for a front that the expression takes. -/
theorem test_iff {body : Regexp} {s : JsString} :
    body.test s = true ↔ ∃ taken after, s = taken ++ after ∧ Takes body taken := by
  rw [test, Bool.not_eq_true', List.isEmpty_eq_false_iff_exists_mem]
  constructor
  · rintro ⟨count, member⟩
    obtain ⟨taken, after, split, -, takes⟩ := (body.mem_ends s count).mp member
    exact ⟨taken, after, split, takes⟩
  · rintro ⟨taken, after, split, takes⟩
    exact ⟨taken.length, (body.mem_ends s _).mpr ⟨taken, after, split, rfl, takes⟩⟩

/-- A test of the whole string. -/
theorem testWhole_iff {body : Regexp} {s : JsString} : body.testWhole s = true ↔ Takes body s := by
  rw [testWhole, decide_eq_true_eq, body.mem_ends]
  constructor
  · rintro ⟨taken, after, rfl, whole, takes⟩
    have none : after = [] := by simpa using whole
    rwa [none, List.append_nil]
  · intro takes
    exact ⟨s, [], (List.append_nil s).symm, rfl, takes⟩

/-! ## First units -/

/-- Whatever the expression takes begins with such a unit. -/
def StartsIn (p : UInt16 → Bool) : Regexp → Prop
  | .empty => False
  | .unit q => ∀ head, q head = true → p head = true
  | .seq first _ => first.StartsIn p
  | .alt first second => first.StartsIn p ∧ second.StartsIn p
  | .star _ => False

theorem StartsIn.takes {p : UInt16 → Bool} {body : Regexp} {s : JsString} (starts : body.StartsIn p)
    (takes : Takes body s) : ∃ head rest, s = head :: rest ∧ p head = true := by
  induction takes with
  | empty => exact starts.elim
  | unit own => exact ⟨_, [], rfl, starts _ own⟩
  | seq left right ih _ =>
    obtain ⟨head, rest, rfl, own⟩ := ih starts
    exact ⟨head, _, rfl, own⟩
  | altLeft left ih => exact ih starts.1
  | altRight right ih => exact ih starts.2
  | starNil => exact starts.elim
  | starCons => exact starts.elim

theorem StartsIn.test {p : UInt16 → Bool} {body : Regexp} {s : JsString} (starts : body.StartsIn p)
    (passes : body.test s = true) : ∃ head rest, s = head :: rest ∧ p head = true := by
  obtain ⟨taken, after, rfl, takes⟩ := test_iff.mp passes
  obtain ⟨head, rest, rfl, own⟩ := starts.takes takes
  exact ⟨head, rest ++ after, rfl, own⟩

end Regexp

end ShadowNet.Js
