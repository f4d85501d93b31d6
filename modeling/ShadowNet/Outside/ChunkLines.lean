import ShadowNet.Outside.Chunk

/-! # Chunk lines

The lines that `RenderChunkLines` writes come back in any order and with white space around them, and
`JoinChunkLines` makes the URI of them again.
-/

namespace ShadowNet

open Go

theorem increasing_cutsOf (hash : Sha256) (input : GoString) (maxChunkLen : ℤ) :
    ((cutsOf input maxChunkLen).map (Cut.chunk hash)).Pairwise fun c d => c.index < d.index := by
  rw [cutsOf, List.map_map, List.pairwise_map]
  apply List.pairwise_lt_range.imp
  intro i j below
  change (i : ℤ) + 1 < (j : ℤ) + 1
  omega

theorem joinable_cutsOf (hash : Sha256) {input : GoString} {maxChunkLen : ℤ}
    (filled : trimSpace input ≠ []) (positive : 0 < maxChunkLen) :
    Joinable (chunkID hash (trimSpace input)) (Cut.mk input maxChunkLen 0).total
      ((cutsOf input maxChunkLen).map (Cut.chunk hash)) where
  filled := by
    have first := @getElem?_cutsOf input _ positive 0
    rw [Nat.zero_mul, if_pos (List.length_pos_iff.mpr filled)] at first
    intro empty
    rw [List.map_eq_nil_iff.mp empty] at first
    cases first
  fits := by
    intro c member
    rw [cutsOf, List.map_map] at member
    obtain ⟨i, inRange, rfl⟩ := List.mem_map.mp member
    have early := List.mem_range.mp inRange
    refine ⟨rfl, rfl, rfl, ?_⟩
    change 0 < (i : ℤ) + 1 ∧ (i : ℤ) + 1 ≤ ((Cut.mk input maxChunkLen 0).total : ℤ)
    omega
  distinct := (List.pairwise_map.mpr (increasing_cutsOf hash input maxChunkLen)).imp
    fun below => ne_of_lt below
  count := by rw [cutsOf, List.length_map, List.length_map, List.length_range]

/-- The chunks carry the text. -/
theorem data_cutsOf (hash : Sha256) {input : GoString} {maxChunkLen : ℤ}
    (positive : 0 < maxChunkLen) :
    ((cutsOf input maxChunkLen).map (Cut.chunk hash)).flatMap (·.data) = trimSpace input := by
  have pieces : ((cutsOf input maxChunkLen).map (Cut.chunk hash)).map (·.data) =
      (cutsOf input maxChunkLen).map Cut.piece := List.map_map ..
  rw [List.flatMap_def, pieces, map_piece_cutsOf positive,
    flatten_cutParts (Int.pos_iff_toNat_pos.mp positive) le_rfl]

/-! ## Lines -/

/-- A line as it may arrive. -/
def Padded (line received : GoString) : Prop :=
  ∃ before after, isBlank before = true ∧ isBlank after = true ∧ received = before ++ line ++ after

theorem visible_chunkID (hash : Sha256) (s : GoString) :
    ∀ byte ∈ chunkID hash s, isVisible byte = true := fun byte member =>
  Base64.visible_encode _ byte (List.mem_of_mem_take member)

private theorem not_mem_of_visible {s : GoString} (visible : ∀ byte ∈ s, isVisible byte = true) :
    0x20 ∉ s := by
  intro member
  exact absurd (visible 0x20 member) (by decide)

private theorem not_mem_itoa (value : ℤ) : 0x2F ∉ itoa value := by
  intro member
  exact absurd (mem_itoa member) (by decide)

/-- A chunk that its line carries over. -/
structure Chunk.Plain (c : Chunk) : Prop where
  version : c.version = 1
  id : c.id ≠ [] ∧ ∀ byte ∈ c.id, isVisible byte = true
  index : 0 < c.index ∧ c.index ≤ c.total
  total : c.total < 2 ^ 63
  data : c.data ≠ [] ∧ ∀ byte ∈ c.data, isVisible byte = true

/-- A line comes apart into the fields that it was made of. -/
theorem Chunk.Plain.splits {c : Chunk} (plain : c.Plain) : splitN 0x20 4 (chunkLine c) =
    [lit "SNBCHUNK/1", c.id, itoa c.index ++ lit "/" ++ itoa c.total, c.data] := by
  have range : (0x20 : UInt8) ∉ itoa c.index ++ lit "/" ++ itoa c.total := by
    simp only [List.mem_append, not_or]
    exact ⟨⟨not_mem_of_visible (visible_itoa _), by decide⟩,
      not_mem_of_visible (visible_itoa _)⟩
  have shape : chunkLine c = lit "SNBCHUNK/1" ++ 0x20 :: (c.id ++ 0x20 ::
      (itoa c.index ++ lit "/" ++ itoa c.total ++ 0x20 :: c.data)) := by
    rw [chunkLine]
    simp only [show lit "SNBCHUNK/1 " = lit "SNBCHUNK/1" ++ [0x20] from rfl,
      show lit " " = [0x20] from rfl, List.append_assoc, List.singleton_append]
  rw [shape, splitN_append (by decide), splitN_append (not_mem_of_visible plain.id.2),
    splitN_append range]
  rfl

theorem Chunk.Plain.ascii {c : Chunk} (plain : c.Plain) : Ascii (chunkLine c) := by
  have text {s : GoString} (visible : ∀ byte ∈ s, isVisible byte = true) : Ascii s :=
    ascii_of_visible visible
  have fixed : Ascii (lit "SNBCHUNK/1 ") ∧ Ascii (lit " ") ∧ Ascii (lit "/") := by decide
  intro byte member
  simp only [chunkLine, List.mem_append] at member
  rcases member with front | (id | space) | (((first | slash) | second) | space) | data
  · exact fixed.1 byte front
  · exact text plain.id.2 byte id
  · exact fixed.2.1 byte space
  · exact text (visible_itoa _) byte first
  · exact fixed.2.2 byte slash
  · exact text (visible_itoa _) byte second
  · exact fixed.2.1 byte space
  · exact text plain.data.2 byte data

/-- A line is read back, whatever white space has come around it. -/
theorem parseChunkLine_padded {c : Chunk} (plain : c.Plain) {received : GoString}
    (padded : Padded (chunkLine c) received) : parseChunkLine received = .ok c := by
  obtain ⟨before, after, leading, trailing, rfl⟩ := padded
  have trimmed : trimSpace (before ++ chunkLine c ++ after) = chunkLine c := by
    have ends : (chunkLine c).getLast? = some (c.data.getLast plain.data.1) := by
      rw [chunkLine]
      simp only [← List.append_assoc]
      rw [List.getLast?_append_of_ne_nil _ plain.data.1, List.getLast?_eq_some_getLast]
    exact trimSpace_padded leading trailing plain.ascii.valid rfl (by decide) ends
      (plain.data.2 _ (List.getLast_mem _))
  have range : splitN 0x2F 2 (itoa c.index ++ lit "/" ++ itoa c.total) =
      [itoa c.index, itoa c.total] := by
    rw [List.append_assoc]
    exact splitN_append (not_mem_itoa _) 0 _
  have index : atoi (itoa c.index) = some c.index :=
    atoi_itoa (by have := plain.index; omega) (by have := plain.index; have := plain.total; omega)
  have total : atoi (itoa c.total) = some c.total :=
    atoi_itoa (by have := plain.index; omega) plain.total
  unfold parseChunkLine
  rw [trimmed]
  refine require_bind_eq_ok.mpr ⟨List.cons_ne_nil _ _, ?_⟩
  rw [plain.splits]
  refine require_bind_eq_ok.mpr ⟨rfl, ?_⟩
  rw [trimSpace_visible plain.id.2, trimSpace_visible plain.data.2]
  refine require_bind_eq_ok.mpr ⟨plain.id.1, ?_⟩
  rw [range]
  dsimp only
  rw [index, total]
  refine require_bind_eq_ok.mpr ⟨plain.data.1, require_bind_eq_ok.mpr ⟨?_, ?_⟩⟩
  · have bounds := plain.index
    omega
  · obtain ⟨version, id, i, n, data⟩ := c
    cases plain.version
    rfl

/-- Lines with white space around them are parsed as the chunks. -/
theorem mapM_parseChunkLine {chunks : List Chunk} (plain : ∀ c ∈ chunks, c.Plain)
    {received : List GoString} (padded : List.Forall₂ Padded (chunks.map chunkLine) received) :
    received.mapM parseChunkLine = .ok chunks := by
  induction chunks generalizing received with
  | nil =>
    cases padded
    rfl
  | cons c rest ih =>
    obtain ⟨own, others⟩ := List.forall_mem_cons.mp plain
    cases padded with
    | cons here later =>
      rw [List.mapM_cons, parseChunkLine_padded own here, ih others later]
      rfl

/-- The lines that `RenderChunkLines` makes of the chunks of one call. -/
theorem renderChunkLines_cutsOf (hash : Sha256) (sorter : SliceSort) {input : GoString}
    {maxChunkLen : ℤ} (filled : trimSpace input ≠ []) (positive : 0 < maxChunkLen)
    (visible : ∀ byte ∈ trimSpace input, isVisible byte = true) :
    renderChunkLines sorter ((cutsOf input maxChunkLen).map (Cut.chunk hash)) =
      .ok (((cutsOf input maxChunkLen).map (Cut.chunk hash)).map chunkLine) := by
  have joinable := joinable_cutsOf hash filled positive
  have sorted := sort_chunks sorter (List.Perm.refl _) (increasing_cutsOf hash input maxChunkLen)
  have solid : ∀ c ∈ (cutsOf input maxChunkLen).map (Cut.chunk hash), isBlank c.data = false := by
    intro c member
    obtain ⟨cut, own, rfl⟩ := List.mem_map.mp member
    have made := made_cutsOf filled positive cut own
    obtain ⟨byte, inside⟩ := List.exists_mem_of_ne_nil _ made.piece_ne_nil
    obtain ⟨i, -, rfl⟩ := List.mem_map.mp own
    exact isBlank_of_visible inside (visible byte (List.mem_of_mem_drop (List.mem_of_mem_take inside)))
  unfold renderChunkLines
  split
  · next empty => exact absurd empty joinable.filled
  · next chunks first rest shape =>
    have own := joinable.fits first (shape ▸ List.mem_cons_self ..)
    refine bind_eq_ok.mpr ⟨(), forM_eq_ok.mpr fun c member => ?_, ?_⟩
    · rw [own.id, own.total]
      exact bind_eq_ok.mpr ⟨(), Chunk.check_eq_ok.mpr (joinable.fits c member),
        require_eq_ok.mpr (solid c member)⟩
    · rw [sorted]
      rfl

theorem visible_bundleURI (bundle : Bytes) :
    ∀ byte ∈ bundleURI bundle, isVisible byte = true := by
  have scheme : ∀ byte ∈ lit "snb://v2:", isVisible byte = true :=
    forall_mem_of_all (by decide)
  intro byte member
  rcases List.mem_append.mp member with front | digits
  · exact scheme byte front
  · exact Base64.visible_encode bundle byte digits

/-- A bundle comes back from its URI. -/
theorem decodeBundleURI_bundleURI (bundle : Bytes) :
    decodeBundleURI (bundleURI bundle) = .ok bundle := by
  have start : hasPrefix (bundleURI bundle) (lit "snb://v2:") = true :=
    decide_eq_true (List.prefix_append _ _)
  have rest : (bundleURI bundle).drop 9 = Base64.encode bundle :=
    List.drop_left' (show (lit "snb://v2:").length = 9 from rfl)
  unfold decodeBundleURI
  rw [trimSpace_visible (visible_bundleURI bundle)]
  dsimp only
  rw [start, if_neg (by decide), rest, Base64.decode_encode]

/-- The lines of a bundle, in any order and with white space around them, give the bundle back. The
length of a Go string is an `int`. -/
theorem joinChunkLines_roundTrip (hash : Sha256) (sorter : SliceSort) (bundle : Bytes)
    (maxChunkLen : ℤ) (positive : 1 ≤ maxChunkLen) (fits : (bundleURI bundle).length < 2 ^ 63) :
    ∃ chunks lines, chunkString hash (bundleURI bundle) maxChunkLen = .ok chunks ∧
      renderChunkLines sorter chunks = .ok lines ∧
      (∀ permuted received, permuted.Perm lines → List.Forall₂ Padded permuted received →
        joinChunkLines sorter received = .ok (bundleURI bundle)) ∧
      decodeBundleURI (bundleURI bundle) = .ok bundle := by
  have visible := visible_bundleURI bundle
  have trimmed := trimSpace_visible visible
  have filled : trimSpace (bundleURI bundle) ≠ [] := by
    rw [trimmed]
    exact List.cons_ne_nil _ _
  have more : 0 < maxChunkLen := positive
  have plain : ∀ c ∈ (cutsOf (bundleURI bundle) maxChunkLen).map (Cut.chunk hash), c.Plain := by
    intro c member
    obtain ⟨cut, own, rfl⟩ := List.mem_map.mp member
    have made := made_cutsOf filled more cut own
    have few := made.total_le
    obtain ⟨i, -, rfl⟩ := List.mem_map.mp own
    refine ⟨rfl, ⟨?_, visible_chunkID hash _⟩, ?_, ?_, ⟨made.piece_ne_nil, ?_⟩⟩
    · apply List.ne_nil_of_length_pos
      change 0 < (chunkID hash _).length
      rw [length_chunkID]
      decide
    · have early := made.position
      change 0 < (i : ℤ) + 1 ∧ (i : ℤ) + 1 ≤ ((Cut.mk (bundleURI bundle) maxChunkLen i).total : ℤ)
      change i < (Cut.mk (bundleURI bundle) maxChunkLen i).total at early
      omega
    · rw [Cut.text, trimmed] at few
      change ((Cut.mk (bundleURI bundle) maxChunkLen i).total : ℤ) < 2 ^ 63
      omega
    · intro byte inside
      rw [← trimmed] at visible
      exact visible byte (List.mem_of_mem_drop (List.mem_of_mem_take inside))
  refine ⟨_, _, chunkString_eq hash filled more, renderChunkLines_cutsOf hash sorter filled more
    (trimmed.symm ▸ visible), ?_, decodeBundleURI_bundleURI bundle⟩
  intro permuted received perm padded
  -- The order of the lines is an order of the chunks.
  obtain ⟨chunks, rfl, same⟩ := (congrFun₂ (List.eq_map_comp_perm chunkLine) permuted
    ((cutsOf (bundleURI bundle) maxChunkLen).map (Cut.chunk hash))).mpr perm
  have joinable := (joinable_cutsOf hash filled more).perm same
  have parsed := mapM_parseChunkLine (fun c member => plain c (same.mem_iff.mp member)) padded
  have joined : joinChunks sorter chunks = .ok (bundleURI bundle) := by
    rw [joinChunks_eq_ok]
    refine ⟨_, _, joinable, ?_⟩
    rw [sort_chunks sorter same (increasing_cutsOf hash _ _), data_cutsOf hash more, trimmed]
  refine require_bind_eq_ok.mpr ⟨?_, bind_eq_ok.mpr ⟨chunks, parsed, joined⟩⟩
  rintro rfl
  exact joinable.filled (List.map_eq_nil_iff.mp (List.forall₂_nil_right_iff.mp padded))

/-- A bundle of three bytes. -/
theorem joinChunkLines_three :
    ∃ chunks lines, chunkString recordedHash (bundleURI [1, 2, 3]) 7 = .ok chunks ∧
      renderChunkLines .stable chunks = .ok lines ∧
      (∀ permuted received, permuted.Perm lines → List.Forall₂ Padded permuted received →
        joinChunkLines .stable received = .ok (bundleURI [1, 2, 3])) ∧
      decodeBundleURI (bundleURI [1, 2, 3]) = .ok [1, 2, 3] :=
  joinChunkLines_roundTrip recordedHash .stable [1, 2, 3] 7 (by decide) (by decide)

end ShadowNet
