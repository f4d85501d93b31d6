import ShadowNet.Go.Bytes

/-! # Buffered readers

A `bufio.Reader` asks its source for more only while what it holds does not answer the call, and it
keeps what a read brought beyond that. The lines it hands out depend on the bytes alone, not on how
they were cut into reads. A second reader over the same source starts behind what the first one
keeps.
-/

namespace ShadowNet.Go

/-- What a `bufio.Reader` holds, and what the reads of its source will bring until it ends. -/
structure Reader where
  buffered : Bytes := []
  reads : List Bytes
deriving DecidableEq

namespace Reader

/-- All bytes still to come. -/
def contents (r : Reader) : Bytes := r.buffered ++ r.reads.flatten

/-- `ReadBytes` with the bytes collected so far; it has nothing where the source ends first. -/
def readBytesFrom (delim : UInt8) (held : Bytes) (reads : List Bytes) : Option Bytes × Reader :=
  match cut delim held, reads with
  | some (before, after), reads => (some (before ++ [delim]), ⟨after, reads⟩)
  | none, [] => (none, ⟨[], []⟩)
  | none, read :: rest => readBytesFrom delim (held ++ read) rest

def readBytes (delim : UInt8) (r : Reader) : Option Bytes × Reader :=
  readBytesFrom delim r.buffered r.reads

/-- `bufio.NewReader` over the source of `r`. -/
def renew (r : Reader) : Reader := ⟨[], r.reads⟩

@[simp] theorem renew_buffered (r : Reader) : r.renew.buffered = [] := rfl
@[simp] theorem renew_reads (r : Reader) : r.renew.reads = r.reads := rfl
@[simp] theorem renew_renew (r : Reader) : r.renew.renew = r.renew := rfl
@[simp] theorem contents_renew (r : Reader) : r.renew.contents = r.reads.flatten := rfl

variable {delim : UInt8} {held before after : Bytes} {reads : List Bytes} {r other : Reader}

theorem readBytesFrom_found (flat : delim ∉ before) (reads : List Bytes) :
    readBytesFrom delim (before ++ delim :: after) reads = (some (before ++ [delim]), ⟨after, reads⟩) := by
  rw [readBytesFrom.eq_def, cut_append flat]

theorem readBytesFrom_nil (flat : delim ∉ held) : readBytesFrom delim held [] = (none, ⟨[], []⟩) := by
  rw [readBytesFrom.eq_def, cut_eq_none flat]

theorem readBytesFrom_cons (flat : delim ∉ held) (read : Bytes) (reads : List Bytes) :
    readBytesFrom delim held (read :: reads) = readBytesFrom delim (held ++ read) reads := by
  rw [readBytesFrom.eq_def, cut_eq_none flat]

/-! ## What is read depends on the bytes to come -/

private theorem readBytesFrom_spec (held : Bytes) (reads : List Bytes) :
    (delim ∉ held ++ reads.flatten → readBytesFrom delim held reads = (none, ⟨[], []⟩)) ∧
    ∀ before after, delim ∉ before → held ++ reads.flatten = before ++ delim :: after →
      ∃ next, readBytesFrom delim held reads = (some (before ++ [delim]), next) ∧
        next.contents = after := by
  induction reads generalizing held with
  | nil =>
    rw [List.flatten_nil, List.append_nil]
    refine ⟨readBytesFrom_nil, ?_⟩
    rintro before after flat rfl
    exact ⟨_, readBytesFrom_found flat [], List.append_nil after⟩
  | cons read rest ih =>
    by_cases member : delim ∈ held
    · obtain ⟨front, back, rfl, flat⟩ := List.eq_append_cons_of_mem member
      refine ⟨fun missing => absurd (List.mem_append_left _ member) missing, ?_⟩
      intro before after unmet whole
      rw [List.append_assoc, List.cons_append] at whole
      have cuts := congrArg (cut delim) whole
      rw [cut_append flat, cut_append unmet] at cuts
      cases cuts
      exact ⟨_, readBytesFrom_found flat _, rfl⟩
    · rw [readBytesFrom_cons member, List.flatten_cons, ← List.append_assoc]
      exact ih (held ++ read)

/-- Without a delimiter a read comes to the end. -/
theorem readBytes_end (flat : delim ∉ r.contents) : r.readBytes delim = (none, ⟨[], []⟩) :=
  (readBytesFrom_spec r.buffered r.reads).1 flat

/-- The first line to come is what is read, and everything behind it is left. -/
theorem readBytes_line (flat : delim ∉ before) (whole : r.contents = before ++ delim :: after) :
    ∃ next, r.readBytes delim = (some (before ++ [delim]), next) ∧ next.contents = after :=
  (readBytesFrom_spec r.buffered r.reads).2 before after flat whole

/-- The same lines are to come, though the bytes behind the last line may differ. -/
def SameLines (delim : UInt8) (r other : Reader) : Prop :=
  r.contents = other.contents ∨ delim ∉ r.contents ∧ delim ∉ other.contents

/-- To read the same lines is transitive. -/
theorem SameLines.trans {third : Reader} (first : SameLines delim r other)
    (second : SameLines delim other third) : SameLines delim r third := by
  rcases first with same | ⟨flat, unmet⟩
  · rcases second with equal | both
    · exact .inl (same.trans equal)
    · exact .inr (same ▸ both)
  · rcases second with same | both
    · exact .inr ⟨flat, same ▸ unmet⟩
    · exact .inr ⟨flat, both.2⟩

/-- Readers with the same lines to come read the same, and so they go on. -/
theorem SameLines.readBytes (same : SameLines delim r other) :
    (r.readBytes delim).1 = (other.readBytes delim).1 ∧
      SameLines delim (r.readBytes delim).2 (other.readBytes delim).2 := by
  have ended (flat : delim ∉ r.contents) (unmet : delim ∉ other.contents) :
      (r.readBytes delim).1 = (other.readBytes delim).1 ∧
        SameLines delim (r.readBytes delim).2 (other.readBytes delim).2 := by
    rw [readBytes_end flat, readBytes_end unmet]
    exact ⟨rfl, .inl rfl⟩
  rcases same with equal | ⟨flat, unmet⟩
  · by_cases member : delim ∈ r.contents
    · obtain ⟨before, after, whole, flat⟩ := List.eq_append_cons_of_mem member
      obtain ⟨next, read, rest⟩ := readBytes_line flat whole
      obtain ⟨next', read', rest'⟩ := readBytes_line flat (equal.symm.trans whole)
      rw [read, read']
      exact ⟨rfl, .inl (rest.trans rest'.symm)⟩
    · exact ended member (equal ▸ member)
  · exact ended flat unmet

/-! ## What a new reader misses -/

/-- A reader that takes the place of `r` misses part of a line that is still to come. -/
def LosesLine (delim : UInt8) (r : Reader) : Prop := r.buffered ≠ [] ∧ delim ∈ r.contents

/-- No line is lost where nothing is read ahead, or where no line ends any more. -/
theorem not_losesLine_iff :
    ¬ LosesLine delim r ↔ r.buffered = [] ∨ delim ∉ r.buffered ∧ delim ∉ r.reads.flatten := by
  rw [LosesLine, contents, List.mem_append, not_and_or, not_not, not_or]

@[simp] theorem not_losesLine_renew : ¬ LosesLine delim r.renew := fun loses => loses.1 rfl

/-- A new reader that misses nothing reads the same lines. -/
theorem sameLines_renew (keeps : ¬ LosesLine delim r) : SameLines delim r r.renew := by
  rcases not_losesLine_iff.mp keeps with empty | ⟨flat, unmet⟩
  · exact .inl (congrArg (· ++ r.reads.flatten) empty)
  · refine .inr ⟨?_, unmet⟩
    rw [contents, List.mem_append]
    exact not_or.mpr ⟨flat, unmet⟩

/-- Of these reads, the first `count` end one line each; only the last of all has bytes behind it. -/
def EndOneLine (delim : UInt8) : ℕ → List Bytes → Prop
  | count + 1, read :: rest =>
      read.count delim = 1 ∧ (rest = [] ∨ read.getLast? = some delim) ∧
        EndOneLine delim count rest
  | _, _ => True

instance (delim : UInt8) : (count : ℕ) → (reads : List Bytes) →
    Decidable (EndOneLine delim count reads)
  | count + 1, _ :: rest =>
      have := instDecidableEndOneLine delim count rest
      inferInstanceAs (Decidable (_ ∧ _ ∧ _))
  | 0, _ => .isTrue trivial
  | _ + 1, [] => .isTrue trivial

/-- The stream is cut into reads at the ends of its first `count` lines. -/
def CutAtLines (delim : UInt8) (count : ℕ) (reads : List Bytes) : Prop :=
  EndOneLine delim count (reads.filter (delim ∈ ·))

instance (count : ℕ) (reads : List Bytes) : Decidable (CutAtLines delim count reads) :=
  inferInstanceAs (Decidable (EndOneLine ..))

@[simp] theorem cutAtLines_zero (reads : List Bytes) : CutAtLines delim 0 reads := by
  rw [CutAtLines, EndOneLine.eq_def]
  trivial

/-- One read at the end of a line: what stands behind its delimiter is no line and none follows. -/
private theorem endsLine_iff (flat : delim ∉ before) (after : Bytes) (rest : List Bytes) :
    (before ++ delim :: after).count delim = 1 ∧
        (rest.filter (delim ∈ ·) = [] ∨ (before ++ delim :: after).getLast? = some delim) ↔
      ¬ LosesLine delim ⟨after, rest⟩ := by
  have single : (before ++ delim :: after).count delim = 1 ↔ delim ∉ after := by
    rw [List.count_append, List.count_eq_zero_of_not_mem flat, List.count_cons_self,
      ← List.count_eq_zero]
    omega
  have flatten : rest.filter (delim ∈ ·) = [] ↔ delim ∉ rest.flatten := by
    simp only [List.filter_eq_nil_iff, decide_eq_true_eq, List.mem_flatten, not_exists, not_and]
  rw [single, flatten, not_losesLine_iff]
  constructor
  · rintro ⟨clean, missing | last⟩
    · exact .inr ⟨clean, missing⟩
    · refine .inl (by_contra fun nonempty => ?_)
      rw [List.getLast?_append, List.getLast?_cons_of_ne_nil nonempty,
        List.getLast?_eq_some_getLast nonempty, Option.some_or] at last
      exact clean (Option.some.inj last ▸ List.getLast_mem nonempty)
  · rintro (rfl | both)
    · exact ⟨List.not_mem_nil, .inr List.getLast?_concat⟩
    · exact ⟨both.1, .inl both.2⟩

private theorem cutAtLines_readBytesFrom (flat : delim ∉ held) (count : ℕ) (reads : List Bytes) :
    CutAtLines delim (count + 1) reads ↔
      ¬ LosesLine delim (readBytesFrom delim held reads).2 ∧
        CutAtLines delim count (readBytesFrom delim held reads).2.reads := by
  induction reads generalizing held with
  | nil =>
    rw [readBytesFrom_nil flat]
    refine iff_of_true ?_ ⟨fun loses => loses.1 rfl, ?_⟩
    · trivial
    · cases count <;> trivial
  | cons read rest ih =>
    rw [readBytesFrom_cons flat]
    by_cases member : delim ∈ read
    · obtain ⟨before, after, rfl, unmet⟩ := List.eq_append_cons_of_mem member
      have both : delim ∉ held ++ before := fun found => (List.mem_append.mp found).elim flat unmet
      rw [← List.append_assoc, readBytesFrom_found both, ← endsLine_iff unmet, CutAtLines,
        List.filter_cons_of_pos (by simp)]
      exact and_assoc.symm
    · have longer : delim ∉ held ++ read := fun found => (List.mem_append.mp found).elim flat member
      rw [← ih longer, CutAtLines, List.filter_cons_of_neg (by simpa using member), CutAtLines]

/-- A line is read without loss, and the lines after it too, exactly where the reads end them. -/
theorem cutAtLines_succ (count : ℕ) (r : Reader) :
    CutAtLines delim (count + 1) r.reads ↔
      ¬ LosesLine delim (r.renew.readBytes delim).2 ∧
        CutAtLines delim count (r.renew.readBytes delim).2.reads :=
  cutAtLines_readBytesFrom List.not_mem_nil count r.reads

end Reader

end ShadowNet.Go
