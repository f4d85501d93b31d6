import Mathlib
import ShadowNet.Outside.Chunk

/-! # Chunks of several calls

`JoinChunks` takes any chunks with one hash and one total. Chunks of the same text that were cut at
different sizes can have both, and their parts then need not add up to the text.
-/

namespace ShadowNet

open Go

/-- A text in pieces, all but the last of which have the size that stands beside them: put together
they are the text exactly when each is what the text has behind the sizes before it. -/
theorem flatMap_eq_iff {pieces : List (GoString × ℕ)} {s : GoString} (filled : pieces ≠ [])
    (full : ∀ p ∈ pieces.dropLast, p.1.length = p.2)
    (enough : s.length ≤ (pieces.map (·.2)).sum) :
    pieces.flatMap (·.1) = s ↔ ∀ front p back, pieces = front ++ p :: back →
      p.1 = (s.drop (front.map (·.2)).sum).take p.2 := by
  induction pieces generalizing s with
  | nil => exact absurd rfl filled
  | cons p rest ih =>
    have split : (∀ front q back, p :: rest = front ++ q :: back →
        q.1 = (s.drop (front.map (·.2)).sum).take q.2) ↔
        p.1 = s.take p.2 ∧ ∀ front q back, rest = front ++ q :: back →
          q.1 = ((s.drop p.2).drop (front.map (·.2)).sum).take q.2 := by
      constructor
      · intro all
        refine ⟨all [] p rest rfl, fun front q back shape => ?_⟩
        have later := all (p :: front) q back (by rw [shape, List.cons_append])
        rwa [List.map_cons, List.sum_cons, ← List.drop_drop] at later
      · rintro ⟨first, others⟩ front q back shape
        cases front with
        | nil =>
          cases shape
          exact first
        | cons own front =>
          cases shape
          rw [List.map_cons, List.sum_cons, ← List.drop_drop]
          exact others front q back rfl
    rw [split, List.flatMap_cons]
    rw [List.map_cons, List.sum_cons] at enough
    by_cases alone : rest = []
    · subst alone
      have whole : s.take p.2 = s := List.take_of_length_le (by simpa using enough)
      simp [whole]
    · rw [List.dropLast_cons_of_ne_nil alone, List.forall_mem_cons] at full
      have fewer : (s.drop p.2).length ≤ (rest.map (·.2)).sum := by
        rw [List.length_drop]
        omega
      rw [← ih alone full.2 fewer]
      constructor
      · rintro rfl
        rw [← full.1, List.take_left, List.drop_left]
        exact ⟨rfl, rfl⟩
      · rintro ⟨first, others⟩
        rw [others, first, List.take_append_drop]

/-- Each chunk of a text once. -/
structure Whole (text : GoString) (total : ℕ) (cuts : List Cut) : Prop where
  filled : cuts ≠ []
  same : ∀ cut ∈ cuts, cut.text = text ∧ cut.total = total
  distinct : (cuts.map (·.position)).Nodup
  count : cuts.length = total

/-- How far the chunks in front of a position reach together. -/
def offset (cuts : List Cut) (position : ℕ) : ℕ :=
  ((cuts.filter fun cut => cut.position < position).map Cut.size).sum

/-- Each chunk holds what its text has where the chunks in front of it end. -/
def Aligned (cuts : List Cut) : Prop :=
  ∀ cut ∈ cuts, cut.piece = (cut.text.drop (offset cuts cut.position)).take cut.size

/-- No two of the texts have the same truncated hash. -/
def NoCollision (hash : Sha256) (cuts : List Cut) : Prop :=
  ∀ cut ∈ cuts, ∀ other ∈ cuts, chunkID hash cut.text = chunkID hash other.text →
    cut.text = other.text

/-- Chunks can be joined exactly where they are a whole set of one text. -/
theorem joinable_iff_whole {hash : Sha256} {cuts : List Cut} (made : ∀ cut ∈ cuts, cut.Made)
    (noCollision : NoCollision hash cuts) :
    (∃ id total, Joinable id total (cuts.map (Cut.chunk hash))) ↔
      ∃ text total, Whole text total cuts := by
  have indexes : (cuts.map (Cut.chunk hash)).map (·.index) =
      (cuts.map (·.position)).map fun position : ℕ => (position : ℤ) + 1 := by
    rw [List.map_map, List.map_map]
    rfl
  have injective : Function.Injective fun position : ℕ => (position : ℤ) + 1 := by
    intro i j same
    dsimp only at same
    omega
  constructor
  · rintro ⟨id, total, joinable⟩
    obtain ⟨first, own⟩ := List.exists_mem_of_ne_nil _
      (fun empty => joinable.filled (List.map_eq_nil_iff.mpr empty) : cuts ≠ [])
    have fits (cut : Cut) (member : cut ∈ cuts) := joinable.fits _ (List.mem_map_of_mem member)
    refine ⟨first.text, first.total, ⟨List.ne_nil_of_mem own, fun cut member => ⟨?_, ?_⟩, ?_, ?_⟩⟩
    · exact noCollision cut member first own ((fits cut member).id.trans (fits first own).id.symm)
    · exact Int.ofNat_inj.mp ((fits cut member).total.trans (fits first own).total.symm)
    · have distinct := joinable.distinct
      rw [indexes] at distinct
      exact (List.nodup_map_iff injective).mp distinct
    · have count := joinable.count
      rw [List.length_map, ← (fits first own).total] at count
      exact Int.ofNat_inj.mp count
  · rintro ⟨text, total, whole⟩
    refine ⟨chunkID hash text, total, ⟨?_, ?_, ?_, ?_⟩⟩
    · exact fun empty => whole.filled (List.map_eq_nil_iff.mp empty)
    · intro c member
      obtain ⟨cut, own, rfl⟩ := List.mem_map.mp member
      obtain ⟨rfl, rfl⟩ := whole.same cut own
      have early := (made cut own).position
      refine ⟨rfl, rfl, rfl, ?_⟩
      change 0 < (cut.position : ℤ) + 1 ∧ (cut.position : ℤ) + 1 ≤ (cut.total : ℤ)
      omega
    · rw [indexes]
      exact (List.nodup_map_iff injective).mpr whole.distinct
    · rw [List.length_map, whole.count]

/-- A whole set in the order of its positions. -/
theorem Whole.ordered {text : GoString} {total : ℕ} {cuts : List Cut}
    (whole : Whole text total cuts) (made : ∀ cut ∈ cuts, cut.Made) :
    ∃ ordered : List Cut, ordered.Perm cuts ∧ ordered.map (·.position) = List.range total := by
  have inside : cuts.map (·.position) ⊆ List.range total := by
    intro i member
    obtain ⟨cut, own, rfl⟩ := List.mem_map.mp member
    rw [List.mem_range, ← (whole.same cut own).2]
    exact (made cut own).position
  have all : (cuts.map (·.position)).Perm (List.range total) := by
    apply (List.subperm_of_subset whole.distinct inside).perm_of_length_le
    rw [List.length_range, List.length_map, whole.count]
  obtain ⟨ordered, shape, same⟩ := (congrFun₂ (List.eq_map_comp_perm Cut.position)
    (List.range total) cuts).mpr all.symm
  exact ⟨ordered, same, shape.symm⟩

theorem increasing_positions {total : ℕ} {cuts : List Cut}
    (inOrder : cuts.map (·.position) = List.range total) :
    cuts.Pairwise fun c d => c.position < d.position := by
  apply List.pairwise_map.mp
  rw [inOrder]
  exact List.pairwise_lt_range

theorem Whole.perm {text : GoString} {total : ℕ} {cuts others : List Cut}
    (whole : Whole text total cuts) (same : others.Perm cuts) : Whole text total others where
  filled := fun empty => whole.filled (List.perm_nil.mp (empty ▸ same.symm))
  same := fun cut member => whole.same cut (same.mem_iff.mp member)
  distinct := (same.map _).nodup_iff.mpr whole.distinct
  count := same.length_eq.trans whole.count

theorem offset_perm {cuts others : List Cut} (same : cuts.Perm others) (position : ℕ) :
    offset cuts position = offset others position :=
  ((same.filter _).map _).sum_nat

theorem aligned_perm {cuts others : List Cut} (same : cuts.Perm others) :
    Aligned cuts ↔ Aligned others := by
  constructor
  · intro aligned cut member
    rw [← offset_perm same]
    exact aligned cut (same.mem_iff.mpr member)
  · intro aligned cut member
    rw [offset_perm same]
    exact aligned cut (same.mem_iff.mp member)

theorem offset_split {front back : List Cut} {cut : Cut}
    (increasing : (front ++ cut :: back).Pairwise fun c d => c.position < d.position) :
    offset (front ++ cut :: back) cut.position = (front.map Cut.size).sum := by
  obtain ⟨-, later, before⟩ := List.pairwise_append.mp increasing
  have kept : front.filter (fun c => c.position < cut.position) = front :=
    List.filter_eq_self.mpr fun c member =>
      decide_eq_true (before c member cut (List.mem_cons_self ..))
  have dropped : (cut :: back).filter (fun c => c.position < cut.position) = [] := by
    apply List.filter_eq_nil_iff.mpr
    intro c member
    rw [decide_eq_true_eq, not_lt]
    rcases List.mem_cons.mp member with rfl | behind
    · exact le_rfl
    · exact (List.rel_of_pairwise_cons later behind).le
  rw [offset, List.filter_append, kept, dropped, List.append_nil]

/-- The pieces of a text in order are the text exactly when they are aligned. -/
theorem flatMap_piece_iff {text : GoString} {total : ℕ} {cuts : List Cut}
    (whole : Whole text total cuts) (made : ∀ cut ∈ cuts, cut.Made)
    (inOrder : cuts.map (·.position) = List.range total) :
    cuts.flatMap Cut.piece = text ↔ Aligned cuts := by
  have increasing := increasing_positions inOrder
  have pieces : cuts.flatMap Cut.piece = (cuts.map fun cut => (cut.piece, cut.size)).flatMap (·.1) := by
    rw [List.flatMap_map]
  rw [pieces, flatMap_eq_iff]
  · constructor
    · intro aligned cut member
      obtain ⟨front, back, rfl⟩ := List.append_of_mem member
      have own := aligned (front.map fun cut => (cut.piece, cut.size)) (cut.piece, cut.size)
        (back.map fun cut => (cut.piece, cut.size)) (by rw [List.map_append, List.map_cons])
      rw [List.map_map] at own
      rw [offset_split increasing, (whole.same cut member).1]
      exact own
    · intro aligned front p back shape
      obtain ⟨first, others, rfl, rfl, rest⟩ := List.map_eq_append_iff.mp shape
      obtain ⟨cut, later, rfl, rfl, rfl⟩ := List.map_eq_cons_iff.mp rest
      have member : cut ∈ first ++ cut :: later :=
        List.mem_append_right _ (List.mem_cons_self ..)
      have own := aligned cut member
      rw [offset_split increasing, (whole.same cut member).1] at own
      rw [own, List.map_map]
      rfl
  · exact fun empty => whole.filled (List.map_eq_nil_iff.mp empty)
  · intro p member
    rw [← List.map_dropLast] at member
    obtain ⟨cut, early, rfl⟩ := List.mem_map.mp member
    -- The last chunk comes behind it.
    rw [← List.dropLast_append_getLast whole.filled] at increasing
    have behind := (List.pairwise_append.mp increasing).2.2 cut early _ (List.mem_singleton_self _)
    have last := List.getLast_mem whole.filled
    have bound := (made _ last).position
    have own := List.mem_of_mem_dropLast early
    have totals := (whole.same cut own).2.trans (whole.same _ last).2.symm
    exact Cut.length_piece (made cut own).size (by omega)
  · have some : 0 < cuts.length := List.length_pos_iff.mpr whole.filled
    have least := List.card_nsmul_le_sum (cuts.map fun cut => cuts.length * cut.size) text.length <| by
      intro reach member
      obtain ⟨cut, own, rfl⟩ := List.mem_map.mp member
      have wide := (made cut own).length_le
      rwa [(whole.same cut own).1, (whole.same cut own).2, ← whole.count] at wide
    rw [List.length_map, nsmul_eq_mul, List.sum_map_mul_left] at least
    rw [List.map_map]
    exact Nat.le_of_mul_le_mul_left least some

/-- A chunk that some call of `ChunkString` returns, at the place that its cut says. -/
def Produces (hash : Sha256) (cut : Cut) (chunk : Chunk) : Prop :=
  ∃ chunks, chunkString hash cut.input cut.maxChunkLen = .ok chunks ∧
    chunks[cut.position]? = some chunk

theorem forall₂_produces {hash : Sha256} {cuts : List Cut} {chunks : List Chunk} :
    List.Forall₂ (Produces hash) cuts chunks ↔
      (∀ cut ∈ cuts, cut.Made) ∧ chunks = cuts.map (Cut.chunk hash) := by
  induction cuts generalizing chunks with
  | nil => simp
  | cons cut rest ih =>
    constructor
    · intro produced
      cases produced with
      | cons here later =>
        obtain ⟨made, rfl⟩ := chunkString_getElem?.mp here
        obtain ⟨others, rfl⟩ := ih.mp later
        exact ⟨List.forall_mem_cons.mpr ⟨made, others⟩, rfl⟩
    · rintro ⟨made, rfl⟩
      obtain ⟨own, others⟩ := List.forall_mem_cons.mp made
      exact .cons (chunkString_getElem?.mpr ⟨own, rfl⟩) (ih.mpr ⟨others, rfl⟩)

/-- What is joined is a whole set, piece by piece. -/
theorem joinChunks_whole {hash : Sha256} {sorter : SliceSort} {cuts : List Cut}
    {joined : GoString} (made : ∀ cut ∈ cuts, cut.Made) (noCollision : NoCollision hash cuts)
    (done : joinChunks sorter (cuts.map (Cut.chunk hash)) = .ok joined) :
    ∃ text total, Whole text total cuts := by
  obtain ⟨id, total, joinable, -⟩ := joinChunks_eq_ok.mp done
  exact (joinable_iff_whole made noCollision).mp ⟨id, total, joinable⟩

/-- Chunks of one size are aligned. -/
theorem Whole.aligned {text : GoString} {total size : ℕ} {cuts : List Cut}
    (whole : Whole text total cuts) (made : ∀ cut ∈ cuts, cut.Made)
    (sizes : ∀ cut ∈ cuts, cut.size = size) : Aligned cuts := by
  obtain ⟨ordered, same, inOrder⟩ := whole.ordered made
  rw [← aligned_perm same]
  intro cut member
  obtain ⟨front, back, rfl⟩ := List.append_of_mem member
  have increasing := increasing_positions inOrder
  have place : front.length = cut.position := by
    have there := congrArg (·[front.length]?) inOrder
    simp only [List.map_append, List.map_cons] at there
    rw [List.getElem?_append_right (by rw [List.length_map]), List.length_map, Nat.sub_self,
      List.getElem?_cons_zero] at there
    obtain ⟨_, here⟩ := List.getElem?_eq_some_iff.mp there.symm
    rw [List.getElem_range] at here
    exact here
  have equal : ∀ reach ∈ front.map Cut.size, reach = cut.size := by
    intro reach inside
    obtain ⟨other, own, rfl⟩ := List.mem_map.mp inside
    rw [sizes other (same.mem_iff.mp (List.mem_append_left _ own)), sizes cut (same.mem_iff.mp member)]
  rw [offset_split increasing, List.sum_eq_card_nsmul _ _ equal, List.length_map, place,
    nsmul_eq_mul]
  rfl

/-- A whole set of chunks is joined, to the text exactly when it is aligned. -/
theorem Whole.joins {hash : Sha256} (sorter : SliceSort) {text : GoString} {total : ℕ}
    {cuts : List Cut} (whole : Whole text total cuts) (made : ∀ cut ∈ cuts, cut.Made)
    (noCollision : NoCollision hash cuts) :
    ∃ joined, joinChunks sorter (cuts.map (Cut.chunk hash)) = .ok joined ∧
      (joined = text ↔ Aligned cuts) := by
  obtain ⟨ordered, same, inOrder⟩ := whole.ordered made
  have increasing : (ordered.map (Cut.chunk hash)).Pairwise fun c d => c.index < d.index := by
    rw [List.pairwise_map]
    apply (increasing_positions inOrder).imp
    intro c d below
    change (c.position : ℤ) + 1 < (d.position : ℤ) + 1
    omega
  obtain ⟨id, count, joinable⟩ := (joinable_iff_whole made noCollision).mpr ⟨text, total, whole⟩
  refine ⟨_, joinChunks_eq_ok.mpr ⟨id, count, joinable, rfl⟩, ?_⟩
  have pieces : (ordered.map (Cut.chunk hash)).flatMap (·.data) = ordered.flatMap Cut.piece := by
    rw [List.flatMap_map]
    rfl
  rw [sort_chunks sorter (same.symm.map _) increasing, pieces,
    flatMap_piece_iff (whole.perm same) (fun cut member => made cut (same.mem_iff.mp member))
      inOrder, aligned_perm same]

/-- Chunks of one size are joined to the text that they are from. -/
theorem joinChunks_oneSize {hash : Sha256} (sorter : SliceSort) {cuts : List Cut} {size : ℕ}
    (made : ∀ cut ∈ cuts, cut.Made) (noCollision : NoCollision hash cuts)
    (sizes : ∀ cut ∈ cuts, cut.size = size) {joined : GoString}
    (done : joinChunks sorter (cuts.map (Cut.chunk hash)) = .ok joined) :
    ∀ cut ∈ cuts, joined = cut.text := by
  intro cut own
  obtain ⟨text, count, whole⟩ := joinChunks_whole made noCollision done
  obtain ⟨result, again, same⟩ := whole.joins sorter made noCollision
  cases done.symm.trans again
  exact (same.mpr (whole.aligned made sizes)).trans (whole.same cut own).1.symm

/-- Two chunks of one URI, cut at seven and at eight bytes. -/
def mixedCuts : List Cut :=
  [⟨lit "snb://v2:AQID", 7, 0⟩, ⟨lit "snb://v2:AQID", 8, 1⟩]

theorem mixedCuts_produced : List.Forall₂ (Produces recordedHash) mixedCuts
    (mixedCuts.map (Cut.chunk recordedHash)) := by
  refine forall₂_produces.mpr ⟨?_, rfl⟩
  intro cut member
  rcases List.mem_cons.mp member with rfl | last
  · exact ⟨by decide, by decide, by decide⟩
  · obtain rfl := List.mem_singleton.mp last
    exact ⟨by decide, by decide, by decide⟩

theorem mixedCuts_noCollision : NoCollision recordedHash mixedCuts := by
  unfold NoCollision
  decide

/-- Chunks of any calls are joined to the text that they are from exactly when each of a whole set of
them stands where those before it end. -/
theorem joinChunks_text_iff (hash : Sha256) (sorter : SliceSort) (cuts : List Cut)
    (chunks : List Chunk) (produced : List.Forall₂ (Produces hash) cuts chunks)
    (noCollision : NoCollision hash cuts) :
    (∀ joined, joinChunks sorter chunks = .ok joined → ∀ cut ∈ cuts, joined = cut.text) ↔
      ∀ text total, Whole text total cuts → Aligned cuts := by
  obtain ⟨made, rfl⟩ := forall₂_produces.mp produced
  constructor
  · intro sound text total whole
    obtain ⟨joined, made, aligned⟩ := whole.joins sorter made noCollision
    obtain ⟨cut, own⟩ := List.exists_mem_of_ne_nil _ whole.filled
    exact aligned.mp ((sound joined made cut own).trans (whole.same cut own).1)
  · intro aligned joined done cut own
    obtain ⟨text, count, whole⟩ := joinChunks_whole made noCollision done
    obtain ⟨result, again, same⟩ := whole.joins sorter made noCollision
    cases done.symm.trans again
    exact (same.mpr (aligned text count whole)).trans (whole.same cut own).1.symm

/-- Two chunks of one text, cut at different sizes. -/
theorem mixedCuts_text_iff :
    (∀ joined, joinChunks .stable (mixedCuts.map (Cut.chunk recordedHash)) = .ok joined →
        ∀ cut ∈ mixedCuts, joined = cut.text) ↔
      ∀ text total, Whole text total mixedCuts → Aligned mixedCuts :=
  joinChunks_text_iff recordedHash .stable mixedCuts _ mixedCuts_produced mixedCuts_noCollision

/-- The first chunk ends before the digit 2 of the URI and the second begins behind it. -/
theorem mixedCuts_lossy :
    ¬ ∀ (hash : Sha256) (sorter : SliceSort) (cuts : List Cut) (chunks : List Chunk),
      List.Forall₂ (Produces hash) cuts chunks → NoCollision hash cuts →
        ∀ joined, joinChunks sorter chunks = .ok joined → ∀ cut ∈ cuts, joined = cut.text := by
  intro sound
  have joined : joinChunks .stable (mixedCuts.map (Cut.chunk recordedHash)) =
      .ok (lit "snb://v:AQID") := by decide
  have same := sound recordedHash .stable mixedCuts _ mixedCuts_produced mixedCuts_noCollision _
    joined _ (List.mem_cons_self ..)
  revert same
  decide

end ShadowNet
