import Mathlib
import ShadowNet.Go.Base64
import ShadowNet.Go.Result
import ShadowNet.Go.Sort
import ShadowNet.Go.Unicode

/-! # Bundles in chunks

`ChunkString` cuts a bundle's URI into chunks of a given size, each with the number of chunks, its
place among them and a short hash of the whole. `JoinChunks` puts chunks together that agree on the
hash and on their number; it neither looks at the sizes nor hashes what it returns.
-/

namespace ShadowNet

open Go

/-- `sha256.Sum256`. -/
structure Sha256 where
  sum : Bytes → Bytes
  length_sum : ∀ bytes, (sum bytes).length = 32

structure Chunk where
  version : ℤ
  id : GoString
  index : ℤ
  total : ℤ
  data : GoString
deriving DecidableEq, Repr

/-- The loop of `ChunkString`. The fuel bounds the number of rounds. -/
def cutParts (maxChunkLen : ℕ) : ℕ → GoString → List GoString
  | 0, _ => []
  | fuel + 1, s =>
      if s = [] then []
      else s.take maxChunkLen :: cutParts maxChunkLen fuel (s.drop maxChunkLen)

def chunkID (hash : Sha256) (s : GoString) : GoString := (Base64.encode (hash.sum s)).take 12

def chunkString (hash : Sha256) (input : GoString) (maxChunkLen : ℤ) :
    Except GoString (List Chunk) := do
  let s := trimSpace input
  require (s ≠ []) (lit "empty input")
  require (0 < maxChunkLen) (lit "invalid chunk size")
  let parts := cutParts maxChunkLen.toNat s.length s
  return parts.mapIdx fun i part =>
    { version := 1, id := chunkID hash s, index := i + 1, total := parts.length, data := part }

/-- `chunks[i].Index < chunks[j].Index`. -/
def Chunk.precedes (c d : Chunk) : Bool := decide (c.index < d.index)

/-- What `RenderChunkLines` and `JoinChunks` ask of each chunk. -/
def Chunk.check (id : GoString) (total : ℤ) (c : Chunk) : Except GoString Unit := do
  require (c.version = 1) (lit "unsupported chunk version")
  require (c.id = id) (lit "mixed chunk ids")
  require (c.total = total) (lit "inconsistent total")
  require (0 < c.index ∧ c.index ≤ c.total) (lit "invalid index")

def chunkLine (c : Chunk) : GoString :=
  lit "SNBCHUNK/1 " ++ (c.id ++ lit " " ++ (itoa c.index ++ lit "/" ++ itoa c.total ++ lit " " ++
    c.data))

def renderChunkLines (sorter : SliceSort) (chunks : List Chunk) :
    Except GoString (List GoString) :=
  match chunks with
  | [] => .error (lit "no chunks")
  | first :: _ => do
      forM chunks fun c => do
        c.check first.id first.total
        require (isBlank c.data = false) (lit "empty chunk data")
      return (sorter.sort Chunk.precedes chunks).map chunkLine

def parseChunkLine (line : GoString) : Except GoString Chunk := do
  let s := trimSpace line
  require (s ≠ []) (lit "empty line")
  match splitN 0x20 4 s with
  | [version, id, range, data] =>
      require (version = lit "SNBCHUNK/1") (lit "unsupported chunk version")
      let id := trimSpace id
      require (id ≠ []) (lit "missing chunk id")
      match splitN 0x2F 2 range with
      | [first, second] =>
          let some i := atoi first | .error (lit "invalid chunk index")
          let some n := atoi second | .error (lit "invalid chunk total")
          let data := trimSpace data
          require (data ≠ []) (lit "empty chunk data")
          require (0 < i ∧ 0 < n ∧ i ≤ n) (lit "invalid chunk range")
          return { version := 1, id, index := i, total := n, data }
      | _ => .error (lit "invalid chunk index")
  | _ => .error (lit "invalid chunk format")

/-- One round of the loop of `JoinChunks`, on the indexes that it has seen. -/
def joinOne (id : GoString) (total : ℤ) (seen : List ℤ) (c : Chunk) :
    Except GoString (List ℤ) := do
  c.check id total
  require (c.index ∉ seen) (lit "duplicate chunk index")
  return c.index :: seen

def joinChunks (sorter : SliceSort) (chunks : List Chunk) : Except GoString GoString :=
  match chunks with
  | [] => .error (lit "no chunks")
  | first :: _ => do
      let seen ← chunks.foldlM (joinOne first.id first.total) []
      require ((seen.length : ℤ) = first.total)
        (lit "missing chunks (" ++ itoa seen.length ++ lit "/" ++ itoa first.total ++ lit ")")
      return (sorter.sort Chunk.precedes chunks).flatMap (·.data)

def joinChunkLines (sorter : SliceSort) (lines : List GoString) : Except GoString GoString := do
  require (lines ≠ []) (lit "no lines")
  let chunks ← lines.mapM parseChunkLine
  joinChunks sorter chunks

/-- The URI of a bundle, as `runGenerate` writes it. -/
def bundleURI (bundle : Bytes) : GoString := lit "snb://v2:" ++ Base64.encode bundle

def decodeBundleURI (uri : GoString) : Except GoString Bytes :=
  let s := trimSpace uri
  if hasPrefix s (lit "snb://v2:") = false then
    .error (lit "invalid scheme or version (expected snb://v2:)")
  else
    match Base64.decode (s.drop 9) with
    | none => .error (lit "failed to decode bundle base64: %w")
    | some bytes => .ok bytes

/-! ## The parts -/

/-- The parts make up the text. -/
theorem flatten_cutParts {maxChunkLen fuel : ℕ} (positive : 0 < maxChunkLen) {s : GoString}
    (enough : s.length ≤ fuel) : (cutParts maxChunkLen fuel s).flatten = s := by
  induction fuel generalizing s with
  | zero =>
    have empty := List.eq_nil_of_length_eq_zero (Nat.le_zero.mp enough)
    rw [empty, cutParts, List.flatten_nil]
  | succ fuel ih =>
    rw [cutParts]
    split_ifs with empty
    · rw [empty, List.flatten_nil]
    · have shorter : (s.drop maxChunkLen).length ≤ fuel := by
        rw [List.length_drop]
        omega
      rw [List.flatten_cons, ih shorter, List.take_append_drop]

/-- The part at an index is the text there, where there is any. -/
theorem getElem?_cutParts {maxChunkLen fuel : ℕ} (positive : 0 < maxChunkLen) {s : GoString}
    (enough : s.length ≤ fuel) (i : ℕ) :
    (cutParts maxChunkLen fuel s)[i]? =
      if i * maxChunkLen < s.length then some ((s.drop (i * maxChunkLen)).take maxChunkLen)
      else none := by
  induction fuel generalizing s i with
  | zero =>
    have empty := List.eq_nil_of_length_eq_zero (Nat.le_zero.mp enough)
    rw [empty, cutParts]
    simp
  | succ fuel ih =>
    rw [cutParts]
    split_ifs with empty inside inside
    · rw [empty] at inside
      exact absurd inside (Nat.not_lt_zero _)
    · rfl
    · cases i with
      | zero => simp
      | succ i =>
        have shorter : (s.drop maxChunkLen).length ≤ fuel := by
          rw [List.length_drop]
          omega
        have left : i * maxChunkLen < (s.drop maxChunkLen).length := by
          rw [List.length_drop]
          rw [Nat.succ_mul] at inside
          omega
        rw [List.getElem?_cons_succ, ih shorter, if_pos left, List.drop_drop, Nat.succ_mul,
          Nat.add_comm]
    · cases i with
      | zero =>
        rw [Nat.zero_mul, Nat.not_lt, Nat.le_zero] at inside
        exact absurd (List.eq_nil_of_length_eq_zero inside) empty
      | succ i =>
        have shorter : (s.drop maxChunkLen).length ≤ fuel := by
          rw [List.length_drop]
          omega
        have left : ¬ i * maxChunkLen < (s.drop maxChunkLen).length := by
          rw [List.length_drop]
          rw [Nat.succ_mul] at inside
          omega
        rw [List.getElem?_cons_succ, ih shorter, if_neg left]

/-- There are as many parts as it takes to reach the end. -/
theorem lt_length_cutParts {maxChunkLen : ℕ} (positive : 0 < maxChunkLen) (s : GoString) (i : ℕ) :
    i < (cutParts maxChunkLen s.length s).length ↔ i * maxChunkLen < s.length := by
  rw [← not_iff_not, Nat.not_lt, ← List.getElem?_eq_none_iff, getElem?_cutParts positive le_rfl]
  split_ifs with inside <;> simp [inside]

theorem length_chunkID (hash : Sha256) (s : GoString) : (chunkID hash s).length = 12 := by
  have digest := hash.length_sum s
  have long : 12 ≤ (Base64.encode (hash.sum s)).length := by
    rw [Base64.length_encode, digest]
    decide
  rw [chunkID, List.length_take, Nat.min_eq_left long]

/-- `sha256.Sum256` of the URI of the bundle with the bytes 1, 2 and 3. -/
def recordedHash : Sha256 where
  sum _ := [6, 84, 169, 108, 145, 231, 72, 240, 64, 230, 21, 73, 176, 208, 38, 7, 85, 76, 192, 138,
    94, 206, 81, 150, 203, 77, 93, 99, 51, 156, 185, 239]
  length_sum _ := rfl

/-! ## Cuts -/

/-- One chunk of one call of `ChunkString`, by its place in the result. -/
structure Cut where
  input : GoString
  maxChunkLen : ℤ
  position : ℕ
deriving DecidableEq

namespace Cut

variable (hash : Sha256) (cut : Cut)

def text : GoString := trimSpace cut.input

def size : ℕ := cut.maxChunkLen.toNat

def total : ℕ := (cutParts cut.size cut.text.length cut.text).length

def piece : GoString := (cut.text.drop (cut.position * cut.size)).take cut.size

def chunk : Chunk where
  version := 1
  id := chunkID hash cut.text
  index := cut.position + 1
  total := cut.total
  data := cut.piece

/-- The call succeeds and its result reaches to this chunk. -/
structure Made (cut : Cut) : Prop where
  text : cut.text ≠ []
  size : 0 < cut.size
  position : cut.position < cut.total

variable {hash cut}

theorem lt_total (positive : 0 < cut.size) (i : ℕ) :
    i < cut.total ↔ i * cut.size < cut.text.length := lt_length_cutParts positive cut.text i

/-- A chunk holds some of the text. -/
theorem Made.piece_ne_nil (made : cut.Made) : cut.piece ≠ [] := by
  have inside := (lt_total made.size cut.position).mp made.position
  have positive := made.size
  apply List.ne_nil_of_length_pos
  rw [piece, List.length_take, List.length_drop]
  omega

/-- All chunks but the last are of the full size. -/
theorem length_piece (positive : 0 < cut.size) (early : cut.position + 1 < cut.total) :
    cut.piece.length = cut.size := by
  have next := (lt_total positive (cut.position + 1)).mp early
  rw [Nat.succ_mul] at next
  rw [piece, List.length_take, List.length_drop]
  omega

theorem Made.total_le (made : cut.Made) : cut.total ≤ cut.text.length := by
  by_contra longer
  have reached := (lt_total made.size cut.text.length).mp (by omega)
  have wide := Nat.le_mul_of_pos_right cut.text.length made.size
  omega

theorem Made.length_le (made : cut.Made) : cut.text.length ≤ cut.total * cut.size := by
  have stops := (lt_total made.size cut.total).not.mp (Nat.lt_irrefl _)
  exact Nat.not_lt.mp stops

end Cut

/-- The cuts of one call, in order. -/
def cutsOf (input : GoString) (maxChunkLen : ℤ) : List Cut :=
  (List.range (Cut.mk input maxChunkLen 0).total).map (Cut.mk input maxChunkLen)

section CutsOf

variable {input : GoString} {maxChunkLen : ℤ}

theorem size_pos (positive : 0 < maxChunkLen) (i : ℕ) : 0 < (Cut.mk input maxChunkLen i).size :=
  Int.pos_iff_toNat_pos.mp positive

theorem getElem?_cutsOf (positive : 0 < maxChunkLen) (i : ℕ) :
    (cutsOf input maxChunkLen)[i]? =
      if i * maxChunkLen.toNat < (trimSpace input).length then some (Cut.mk input maxChunkLen i)
      else none := by
  have bound : i < (Cut.mk input maxChunkLen 0).total ↔ _ := Cut.lt_total (size_pos positive 0) i
  rw [cutsOf, List.getElem?_map]
  split_ifs with inside
  · rw [List.getElem?_range (bound.mpr inside), Option.map_some]
  · have late : ¬ i < (Cut.mk input maxChunkLen 0).total := bound.not.mpr inside
    rw [List.getElem?_eq_none (by rw [List.length_range]; omega), Option.map_none]

/-- What `ChunkString` makes of a text is its cuts. -/
theorem chunkString_eq (hash : Sha256) (filled : trimSpace input ≠ [])
    (positive : 0 < maxChunkLen) :
    chunkString hash input maxChunkLen = .ok ((cutsOf input maxChunkLen).map (Cut.chunk hash)) := by
  refine require_bind_eq_ok.mpr ⟨filled, require_bind_eq_ok.mpr ⟨positive, ?_⟩⟩
  apply congrArg Except.ok
  apply List.ext_getElem?
  intro i
  rw [List.getElem?_mapIdx, getElem?_cutParts (Int.pos_iff_toNat_pos.mp positive) le_rfl,
    List.getElem?_map, getElem?_cutsOf positive]
  split_ifs <;> rfl

theorem map_piece_cutsOf (positive : 0 < maxChunkLen) :
    (cutsOf input maxChunkLen).map Cut.piece =
      cutParts maxChunkLen.toNat (trimSpace input).length (trimSpace input) := by
  apply List.ext_getElem?
  intro i
  rw [getElem?_cutParts (Int.pos_iff_toNat_pos.mp positive) le_rfl, List.getElem?_map,
    getElem?_cutsOf positive]
  split_ifs <;> rfl

/-- The chunks of a text are made by the call. -/
theorem made_cutsOf (filled : trimSpace input ≠ []) (positive : 0 < maxChunkLen) :
    ∀ cut ∈ cutsOf input maxChunkLen, cut.Made := by
  intro cut member
  obtain ⟨i, inRange, rfl⟩ := List.mem_map.mp member
  exact ⟨filled, size_pos positive i, List.mem_range.mp inRange⟩

end CutsOf

/-- The chunk that a call of `ChunkString` has at some place. -/
theorem chunkString_getElem? {hash : Sha256} {cut : Cut} {chunk : Chunk} :
    (∃ chunks, chunkString hash cut.input cut.maxChunkLen = .ok chunks ∧
        chunks[cut.position]? = some chunk) ↔ cut.Made ∧ chunk = cut.chunk hash := by
  constructor
  · rintro ⟨chunks, made, there⟩
    have checked := made
    unfold chunkString at checked
    obtain ⟨filled, checked⟩ := require_bind_eq_ok.mp checked
    obtain ⟨positive, -⟩ := require_bind_eq_ok.mp checked
    rw [chunkString_eq hash filled positive] at made
    cases made
    rw [List.getElem?_map, getElem?_cutsOf positive] at there
    split_ifs at there with inside
    · cases there
      have size := Int.pos_iff_toNat_pos.mp positive
      exact ⟨⟨filled, size, (Cut.lt_total size cut.position).mpr inside⟩, rfl⟩
    · cases there
  · rintro ⟨made, rfl⟩
    have positive : 0 < cut.maxChunkLen := Int.pos_iff_toNat_pos.mpr made.size
    have inside : cut.position * cut.maxChunkLen.toNat < (trimSpace cut.input).length :=
      (Cut.lt_total made.size cut.position).mp made.position
    refine ⟨_, chunkString_eq hash made.text positive, ?_⟩
    rw [List.getElem?_map, getElem?_cutsOf positive, if_pos inside, Option.map_some]

/-! ## Joining -/

/-- A chunk that passes the checks. -/
structure Chunk.Fits (id : GoString) (total : ℤ) (c : Chunk) : Prop where
  version : c.version = 1
  id : c.id = id
  total : c.total = total
  index : 0 < c.index ∧ c.index ≤ c.total

/-- A chunk that passes fits the first one. -/
theorem Chunk.check_eq_ok {id : GoString} {total : ℤ} {c : Chunk} {result : Unit} :
    c.check id total = .ok result ↔ c.Fits id total := by
  unfold Chunk.check
  rw [require_bind_eq_ok, require_bind_eq_ok, require_bind_eq_ok, require_eq_ok]
  constructor
  · rintro ⟨version, same, total, index⟩
    exact ⟨version, same, total, index⟩
  · rintro ⟨version, same, total, index⟩
    exact ⟨version, same, total, index⟩

/-- The chunks fit, and no index comes twice. -/
theorem foldlM_joinOne {id : GoString} {total : ℤ} {chunks : List Chunk} {seen result : List ℤ}
    (distinct : seen.Nodup) :
    chunks.foldlM (joinOne id total) seen = .ok result ↔
      (∀ c ∈ chunks, c.Fits id total) ∧
        ((chunks.map (·.index)).reverse ++ seen).Nodup ∧
        (chunks.map (·.index)).reverse ++ seen = result := by
  induction chunks generalizing seen with
  | nil =>
    rw [List.foldlM_nil, pure_eq_ok]
    simp [distinct]
  | cons c rest ih =>
    rw [List.foldlM_cons, bind_eq_ok, List.forall_mem_cons, List.map_cons, List.reverse_cons,
      List.append_assoc, List.singleton_append]
    constructor
    · rintro ⟨next, one, others⟩
      unfold joinOne at one
      obtain ⟨⟨⟩, checked, one⟩ := bind_eq_ok.mp one
      obtain ⟨fresh, made⟩ := require_bind_eq_ok.mp one
      cases made
      obtain ⟨fits, nodup, shape⟩ := (ih (List.nodup_cons.mpr ⟨fresh, distinct⟩)).mp others
      exact ⟨⟨Chunk.check_eq_ok.mp checked, fits⟩, nodup, shape⟩
    · rintro ⟨⟨own, fits⟩, nodup, shape⟩
      have more := (List.nodup_append.mp nodup).2.1
      refine ⟨c.index :: seen, ?_, (ih more).mpr ⟨fits, nodup, shape⟩⟩
      exact bind_eq_ok.mpr ⟨(), Chunk.check_eq_ok.mpr own,
        require_bind_eq_ok.mpr ⟨(List.nodup_cons.mp more).1, rfl⟩⟩

/-- Chunks that agree, each of them once, and none of them missing. -/
structure Joinable (id : GoString) (total : ℤ) (chunks : List Chunk) : Prop where
  filled : chunks ≠ []
  fits : ∀ c ∈ chunks, c.Fits id total
  distinct : (chunks.map (·.index)).Nodup
  count : (chunks.length : ℤ) = total

theorem Joinable.perm {id : GoString} {total : ℤ} {chunks others : List Chunk}
    (joinable : Joinable id total chunks) (same : others.Perm chunks) : Joinable id total others where
  filled := fun empty => joinable.filled (List.perm_nil.mp (empty ▸ same.symm))
  fits := fun c member => joinable.fits c (same.mem_iff.mp member)
  distinct := (same.map _).nodup_iff.mpr joinable.distinct
  count := same.length_eq ▸ joinable.count

/-- What is joined is the data of the chunks in order. -/
theorem joinChunks_eq_ok {sorter : SliceSort} {chunks : List Chunk} {joined : GoString} :
    joinChunks sorter chunks = .ok joined ↔ ∃ id total, Joinable id total chunks ∧
      (sorter.sort Chunk.precedes chunks).flatMap (·.data) = joined := by
  cases chunks with
  | nil =>
    constructor
    · exact nofun
    · rintro ⟨id, total, joinable, -⟩
      exact absurd rfl joinable.filled
  | cons first rest =>
    unfold joinChunks
    rw [bind_eq_ok]
    constructor
    · rintro ⟨seen, folded, later⟩
      obtain ⟨fits, nodup, rfl⟩ := (foldlM_joinOne .nil).mp folded
      obtain ⟨count, made⟩ := require_bind_eq_ok.mp later
      rw [List.append_nil, List.nodup_reverse] at nodup
      rw [List.append_nil, List.length_reverse, List.length_map] at count
      cases made
      exact ⟨_, _, ⟨List.cons_ne_nil _ _, fits, nodup, count⟩, rfl⟩
    · rintro ⟨id, total, joinable, made⟩
      have own := joinable.fits first (List.mem_cons_self ..)
      rw [own.id, own.total]
      refine ⟨_, (foldlM_joinOne .nil).mpr ⟨joinable.fits, ?_, rfl⟩, ?_⟩
      · rw [List.append_nil, List.nodup_reverse]
        exact joinable.distinct
      · rw [require_bind_eq_ok, List.append_nil, List.length_reverse, List.length_map]
        exact ⟨joinable.count, congrArg Except.ok made⟩

/-- Chunks with distinct indexes have one order only. -/
theorem sort_chunks (sorter : SliceSort) {chunks ordered : List Chunk} (same : chunks.Perm ordered)
    (increasing : ordered.Pairwise fun c d => c.index < d.index) :
    sorter.sort Chunk.precedes chunks = ordered := by
  have sorted : Ordered Chunk.precedes (sorter.sort Chunk.precedes chunks) :=
    sorter.ordered (strictWeak_key Chunk.index) chunks
  have already : Ordered Chunk.precedes ordered := by
    apply increasing.imp
    intro c d below
    exact decide_eq_false (by omega)
  have perm := (sorter.perm Chunk.precedes chunks).trans same
  apply Ordered.eq_of_perm Chunk.index sorted already perm
  rw [(perm.map _).nodup_iff]
  exact (List.pairwise_map.mpr increasing).imp fun below => ne_of_lt below

end ShadowNet
