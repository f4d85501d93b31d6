import ShadowNet.Bundle.Received
import ShadowNet.Import.ProcessAndStore
import ShadowNet.Outside.Keys

/-! # Deliveries

`runGenerate` writes a bundle in several forms: the bundle itself, a URI, a text for a QR code, and
lines of chunks. Whichever form reaches a device, in whatever order its lines and with whatever white
space around it, the importer reads the selected profiles from it, and a store that has none of them
yet has them all afterwards.
-/

namespace ShadowNet

open Go Go.Json

/-! ## Forms of a bundle -/

/-- The flags of `runGenerate` about the forms of the bundle. -/
structure FormFlags where
  qrThresholdChars : Int64
  chunkThreshold : Int64
  chunkSize : Int64

/-- The files `bundle.snb.json`, `bundle.uri.txt`, `qr_payload.txt` and `bundle.chunks.txt`. -/
structure Forms where
  bundle : Bytes
  uri : Bytes
  qr : Option Bytes
  chunks : Option Bytes

/-- The lines of the chunks, if the URI is long. -/
def chunkFile (hash : Sha256) (sorter : SliceSort) (flags : FormFlags) (uri : GoString) :
    Except GoString (Option Bytes) :=
  if 0 < flags.chunkThreshold ∧ flags.chunkThreshold.toInt < uri.length then do
    let chunks ← chunkString hash uri flags.chunkSize.toInt
    let lines ← renderChunkLines sorter chunks
    return some (List.intercalate [0x0A] lines ++ [0x0A])
  else return none

/-- The part of `runGenerate` that puts the bundle into its forms. -/
def writeForms (hash : Sha256) (sorter : SliceSort) (flags : FormFlags) (bundle : Bytes) :
    Except GoString Forms := do
  let uri := bundleURI bundle
  let qr := if 0 < flags.qrThresholdChars ∧ uri.length ≤ flags.qrThresholdChars.toInt
    then some (textLine uri) else none
  let chunks ← chunkFile hash sorter flags uri
  return { bundle, uri := textLine uri, qr, chunks }

/-- The lines of a text file. -/
def textLines (text : Bytes) : List GoString := (splitOn 0x0A text).dropLast

/-- What may come of the forms at the other end, once its lines are joined. -/
inductive Forms.Arrives (sorter : SliceSort) (forms : Forms) : Except GoString Bytes → Prop
  | bundle : Forms.Arrives sorter forms (.ok forms.bundle)
  | uri {received : Bytes} (padded : Padded forms.uri received) :
      Forms.Arrives sorter forms (.ok received)
  | qr {payload received : Bytes} (made : forms.qr = some payload)
      (padded : Padded payload received) : Forms.Arrives sorter forms (.ok received)
  | chunks {text : Bytes} {permuted received : List GoString} (made : forms.chunks = some text)
      (order : permuted.Perm (textLines text)) (padded : List.Forall₂ Padded permuted received) :
      Forms.Arrives sorter forms (joinChunkLines sorter received)

theorem isBlank_append {first second : GoString} (one : isBlank first = true)
    (other : isBlank second = true) : isBlank (first ++ second) = true := by
  obtain ⟨chars, rfl, spaces⟩ := isBlank_eq_utf8 one
  obtain ⟨later, rfl, spaces'⟩ := isBlank_eq_utf8 other
  rw [← utf8_append, isBlank_iff, runes_utf8, List.forall_mem_map]
  exact List.forall_mem_append.mpr ⟨spaces, spaces'⟩

/-- White space may come around a text line as around the text. -/
theorem Padded.of_textLine {text received : GoString} (padded : Padded (textLine text) received) :
    Padded text received := by
  obtain ⟨before, after, leading, trailing, rfl⟩ := padded
  have newline : isBlank [0x0A] = true := by decide
  refine ⟨before, [0x0A] ++ after, leading, isBlank_append newline trailing, ?_⟩
  simp [textLine]

theorem textLines_intercalate {lines : List GoString} (flat : ∀ line ∈ lines, 0x0A ∉ line)
    (filled : lines ≠ []) : textLines (List.intercalate [0x0A] lines ++ [0x0A]) = lines := by
  have split : splitOn 0x0A (List.intercalate [0x0A] lines) = lines := by
    induction lines with
    | nil => exact absurd rfl filled
    | cons first rest ih =>
      obtain ⟨own, others⟩ := List.forall_mem_cons.mp flat
      cases rest with
      | nil => simp [List.intercalate, splitOn_single own]
      | cons second later =>
        have apart : List.intercalate [0x0A] (first :: second :: later) =
            first ++ 0x0A :: List.intercalate [0x0A] (second :: later) := by
          simp [List.intercalate, List.intersperse]
        rw [apart, splitOn_append, splitOn_single own, ih others (List.cons_ne_nil _ _)]
        rfl
  rw [textLines, splitOn_append, split]
  simp [splitOn]

/-- The chunks of a visible text. -/
theorem plain_cutsOf (hash : Sha256) {text : GoString} {maxChunkLen : ℤ} (filled : text ≠ [])
    (positive : 0 < maxChunkLen) (visible : ∀ byte ∈ text, isVisible byte = true)
    (fits : text.length < 2 ^ 63) :
    ∀ c ∈ (cutsOf text maxChunkLen).map (Cut.chunk hash), c.Plain := by
  have trimmed := trimSpace_visible visible
  intro c member
  obtain ⟨cut, own, rfl⟩ := List.mem_map.mp member
  have made := made_cutsOf (trimmed.symm ▸ filled) positive cut own
  have few := made.total_le
  obtain ⟨i, -, rfl⟩ := List.mem_map.mp own
  refine ⟨rfl, ⟨?_, visible_chunkID hash _⟩, ?_, ?_, ⟨made.piece_ne_nil, ?_⟩⟩
  · apply List.ne_nil_of_length_pos
    change 0 < (chunkID hash _).length
    rw [length_chunkID]
    decide
  · have early := made.position
    change 0 < (i : ℤ) + 1 ∧ (i : ℤ) + 1 ≤ ((Cut.mk text maxChunkLen i).total : ℤ)
    change i < (Cut.mk text maxChunkLen i).total at early
    omega
  · rw [Cut.text, trimmed] at few
    change ((Cut.mk text maxChunkLen i).total : ℤ) < 2 ^ 63
    omega
  · intro byte inside
    rw [← trimmed] at visible
    exact visible byte (List.mem_of_mem_drop (List.mem_of_mem_take inside))

theorem Chunk.Plain.line_flat {c : Chunk} (plain : c.Plain) : 0x0A ∉ chunkLine c := by
  have apart {text : GoString} (visible : ∀ byte ∈ text, isVisible byte = true) : 0x0A ∉ text := by
    intro member
    have seen := visible _ member
    revert seen
    decide
  have fixed : 0x0A ∉ lit "SNBCHUNK/1 " ∧ 0x0A ∉ lit " " ∧ 0x0A ∉ lit "/" := by decide
  simp only [chunkLine, List.mem_append, not_or]
  exact ⟨fixed.1, ⟨apart plain.id.2, fixed.2.1⟩, ⟨⟨⟨apart (visible_itoa _), fixed.2.2⟩,
    apart (visible_itoa _)⟩, fixed.2.1⟩, apart plain.data.2⟩

/-- The lines of a file of chunks, in any order and with white space around them, are joined to the
text that was cut. -/
theorem joinChunkLines_file {hash : Sha256} {sorter : SliceSort} {text : GoString} {maxChunkLen : ℤ}
    {chunks : List Chunk} {lines permuted received : List GoString} (filled : text ≠ [])
    (visible : ∀ byte ∈ text, isVisible byte = true) (fits : text.length < 2 ^ 63)
    (cutUp : chunkString hash text maxChunkLen = .ok chunks)
    (rendered : renderChunkLines sorter chunks = .ok lines)
    (order : permuted.Perm (textLines (List.intercalate [0x0A] lines ++ [0x0A])))
    (padded : List.Forall₂ Padded permuted received) :
    joinChunkLines sorter received = .ok text := by
  have trimmed := trimSpace_visible visible
  have full : trimSpace text ≠ [] := trimmed.symm ▸ filled
  have positive : 0 < maxChunkLen := by
    simp only [chunkString, require_bind_eq_ok] at cutUp
    exact cutUp.2.1
  have plain := plain_cutsOf hash filled positive visible fits
  rw [chunkString_eq hash full positive, Except.ok.injEq] at cutUp
  subst cutUp
  rw [renderChunkLines_cutsOf hash sorter full positive (trimmed.symm ▸ visible),
    Except.ok.injEq] at rendered
  subst rendered
  have joinable := joinable_cutsOf hash full positive
  rw [textLines_intercalate
    (List.forall_mem_map.mpr fun c member => (plain c member).line_flat)
    (List.map_eq_nil_iff.not.mpr joinable.filled)] at order
  -- The order of the lines is an order of the chunks.
  obtain ⟨chunks, rfl, same⟩ := (congrFun₂ (List.eq_map_comp_perm chunkLine) permuted
    ((cutsOf text maxChunkLen).map (Cut.chunk hash))).mpr order
  have shuffled := joinable.perm same
  have parsed := mapM_parseChunkLine (fun c member => plain c (same.mem_iff.mp member)) padded
  have joined : joinChunks sorter chunks = .ok text := by
    rw [joinChunks_eq_ok]
    refine ⟨_, _, shuffled, ?_⟩
    rw [sort_chunks sorter same (increasing_cutsOf hash _ _), data_cutsOf hash positive, trimmed]
  refine require_bind_eq_ok.mpr ⟨?_, bind_eq_ok.mpr ⟨chunks, parsed, joined⟩⟩
  rintro rfl
  exact shuffled.filled (List.map_eq_nil_iff.mp (List.forall₂_nil_right_iff.mp padded))

/-- What arrives is the bundle, or its URI with white space around it. -/
theorem Forms.Arrives.cases {hash : Sha256} {sorter : SliceSort} {flags : FormFlags} {bundle : Bytes}
    {forms : Forms} (written : writeForms hash sorter flags bundle = .ok forms)
    (fits : (bundleURI bundle).length < 2 ^ 63) {arrived : Except GoString Bytes}
    (arrives : forms.Arrives sorter arrived) :
    ∃ file, arrived = .ok file ∧ (file = bundle ∨ Padded (bundleURI bundle) file) := by
  simp only [writeForms, bind_eq_ok, pure_eq_ok] at written
  obtain ⟨made, cutUp, rfl⟩ := written
  cases arrives with
  | bundle => exact ⟨bundle, rfl, .inl rfl⟩
  | @uri received padded => exact ⟨received, rfl, .inr padded.of_textLine⟩
  | @qr payload received small padded =>
    dsimp only at small
    split_ifs at small
    cases small
    exact ⟨received, rfl, .inr padded.of_textLine⟩
  | @chunks text permuted received some order padded =>
    dsimp only at some
    subst some
    unfold chunkFile at cutUp
    split_ifs at cutUp with large
    · simp only [bind_eq_ok, pure_eq_ok, Option.some.injEq] at cutUp
      obtain ⟨chunks, cut, lines, rendered, rfl⟩ := cutUp
      refine ⟨bundleURI bundle, ?_, .inr ⟨[], [], rfl, rfl, by simp⟩⟩
      exact joinChunkLines_file (List.cons_ne_nil _ _) (visible_bundleURI bundle) fits cut rendered
        order padded
    · cases cutUp

/-! ## Receiving -/

section

variable {suite : Suite} {engine : TextTemplate.Engine Profile} {args : GenerateArgs suite}
  {now clock : Int64} {bundle : Bytes} {identity : Option suite.Identity}

/-- The time of an import at which a bundle made at `now` is neither too new nor expired, and none of
its profiles has expired. -/
structure GenerateArgs.CurrentAt (args : GenerateArgs suite) (now clock : Int64) : Prop where
  near : now.toInt ≤ clock.toInt + 600
  room : clock.toInt + 600 < 2 ^ 63
  unexpired : clock.toInt ≤ now.toInt + args.bundleTTLSec.toInt
  profiles : ∀ p ∈ args.selected now, p.expiresAt ≠ 0 → clock < p.expiresAt

/-- The header passes at any time at which the bundle is current. -/
theorem HeaderOk.current {recipientPub : GoString} {contents : Sealed}
    (forward : 0 ≤ args.bundleTTLSec) (agreed : args.Agreed now)
    (current : args.CurrentAt now clock)
    (ok : HeaderOk (signedHeader args.signingKey ((args.options recipientPub now).defaults now)
      contents) args.signerKeyID now) :
    HeaderOk (signedHeader args.signingKey ((args.options recipientPub now).defaults now) contents)
      args.signerKeyID clock := by
  have created : ((args.options recipientPub now).defaults now).createdAt = now := ite_self now
  have expires : ((args.options recipientPub now).defaults now).expiresAt = now + args.bundleTTLSec :=
    if_neg (add_ne_zero agreed.clock forward)
  have minutes : (600 : Int64).toInt = 600 := by decide
  refine { ok with notFuture := ?_, unexpired := ?_ }
  · have room := current.room
    have near := current.near
    have start := Int64.lt_iff_toInt_lt.mp agreed.clock
    have zero : (0 : Int64).toInt = 0 := by decide
    rw [signedHeader_createdAt, created, Int64.le_iff_toInt_le, Int64.toInt_add, minutes,
      Int.bmod_eq_of_le (by omega) (by omega)]
    exact near
  · have high := agreed.expiry
    have start := Int64.lt_iff_toInt_lt.mp agreed.clock
    have ahead := Int64.le_iff_toInt_le.mp forward
    have zero : (0 : Int64).toInt = 0 := by decide
    rw [signedHeader_expiresAt, expires, Int64.le_iff_toInt_le, Int64.toInt_add,
      Int.bmod_eq_of_le (by omega) (by omega)]
    exact current.unexpired

/-- So does the payload. -/
theorem PayloadOk.current {header : BundleHeader} {templates : Map GoString Template}
    (timed : now ≠ 0) (current : args.CurrentAt now clock)
    (ok : PayloadOk engine header now (args.payload templates now)) :
    PayloadOk engine header clock (args.payload templates now) :=
  { ok with
    profiles := fun p member => (ok.profiles p member).until timed (current.profiles p member) }

/-- The payload that a device reads is the one that was generated. -/
theorem verified_current (sound : suite.Sound) (produced : runGenerate args now = .ok bundle)
    (fit : TemplatesFit engine args.templatesDir (args.selected now))
    (version : isBlank args.minAgentVersion = false) (forward : 0 ≤ args.bundleTTLSec)
    (matching : Matching suite args.recipientFile identity) (agreed : args.Agreed now)
    (current : args.CurrentAt now clock) :
    ∃ templates, TemplatesRead args.templatesDir (args.selected now) templates ∧
      verifiedPayload suite engine bundle (suite.publicKey args.signingKey) ⟨0, identity, true⟩
        clock = some (args.payload templates now) := by
  have atClock : VerifyOptions.now ⟨0, identity, true⟩ clock = clock := if_pos rfl
  obtain ⟨recipientPub, templates, contents, recipient, read, made, rfl⟩ :=
    runGenerate_eq_ok produced
  obtain ⟨cipher, contentsUtf8, opens⟩ := sealPayload_ok sound matching recipient rfl made
  set header := signedHeader args.signingKey ((args.options recipientPub now).defaults now) contents
    with signed
  have publisher : header.publisherKeyID = args.signerKeyID := rfl
  obtain ⟨ok, sorted⟩ := args.payload_ok read fit version agreed publisher
  have timed : now ≠ 0 := fun zero => absurd agreed.clock (by rw [zero]; decide)
  have checked : HeaderOk header args.signerKeyID now :=
    (headerOk_iff forward cipher).mpr ⟨agreed.clock, agreed.skew, agreed.expiry⟩
  have accepted := accepted_of_signed suite (signedHeader_carries ..)
    (signedHeader_utf8 contentsUtf8) (checked.current forward agreed current)
    (sound.verifies _ _) ((opens header rfl rfl _).mpr rfl)
    (args.payload_utf8 read fit agreed.version) (ok.current timed current)
  refine ⟨templates, read, ?_⟩
  rw [verifiedPayload_eq_some, atClock]
  refine ⟨_, _, _, _, _, accepted, ?_⟩
  have same : (args.payload templates now).sortTags =
      { args.payload templates now with
        profiles := some ((args.selected now).map Profile.sortTags) } := rfl
  rw [same, sorted]
  rfl

/-- Both what is and what becomes a bundle is read as the bundle. -/
theorem importFile_form {importer : Importer suite} {file : Bytes} (brace : bundle.head? = some 0x7B)
    (form : file = bundle ∨ Padded (bundleURI bundle) file) :
    importer.importFile engine (some file) clock = importer.parseBytes engine bundle clock := by
  have scheme : hasPrefix (bundleURI bundle) (lit "snb://v2:") = true :=
    decide_eq_true (List.prefix_append _ _)
  obtain rfl | padded := form
  · obtain ⟨rest, rfl⟩ := List.head?_eq_some_iff.mp brace
    obtain ⟨kept, trimmed⟩ := @trimSpace_cons_visible 0x7B (by decide) rest
    have other : hasPrefix (0x7B :: kept) (lit "snb://v2:") = false := by
      apply decide_eq_false
      rintro ⟨tail, same⟩
      cases same
    unfold Importer.importFile
    dsimp only
    rw [trimmed, other]
    rfl
  · have trimmed := trimSpace_of_padded padded (List.cons_ne_nil _ _) (visible_bundleURI bundle)
    have body : (bundleURI bundle).drop 9 = Base64.encode bundle :=
      List.drop_left' (show (lit "snb://v2:").length = 9 from rfl)
    unfold Importer.importFile Importer.parseURI
    dsimp only
    rw [trimmed, if_pos scheme, if_pos scheme, body, Base64.decode_encode]

/-! ## Storing -/

/-- Nothing in the store has the ID or the endpoint of one of the profiles. -/
structure FreshIn (stored profiles : List Profile) : Prop where
  ids : ∀ p ∈ profiles, ∀ q ∈ stored, q.id ≠ p.id
  endpoints : ∀ p ∈ profiles, ∀ q ∈ stored, endpointKey q ≠ endpointKey p

theorem foldl_keepExisting_fresh {revoked : List GoString} {stored profiles : List Profile}
    {start : Existing} (fresh : FreshIn stored profiles)
    (ids : ∀ p ∈ profiles, start.byID.find? p.id = none)
    (endpoints : ∀ p ∈ profiles, start.byEndpoint.find? (endpointKey p) = none) :
    ∀ p ∈ profiles, (stored.foldl (keepExisting revoked) start).byID.find? p.id = none ∧
      (stored.foldl (keepExisting revoked) start).byEndpoint.find? (endpointKey p) = none := by
  induction stored generalizing start with
  | nil => exact fun p member => ⟨ids p member, endpoints p member⟩
  | cons q rest ih =>
    have later : FreshIn rest profiles :=
      ⟨fun p member other inside => fresh.ids p member other (List.mem_cons_of_mem _ inside),
        fun p member other inside => fresh.endpoints p member other (List.mem_cons_of_mem _ inside)⟩
    rw [List.foldl_cons]
    apply ih later
    · intro p member
      unfold keepExisting
      split_ifs
      · exact ids p member
      · rw [Map.find?_insert, if_neg (fresh.ids p member q (List.mem_cons_self ..))]
        exact ids p member
    · intro p member
      unfold keepExisting
      split_ifs
      · exact endpoints p member
      · rw [Map.find?_insert, if_neg (fresh.endpoints p member q (List.mem_cons_self ..))]
        exact endpoints p member

/-- The loop over profiles that are normal and new goes through. -/
theorem foldlM_mergeProfile_fresh {existing : Existing} {profiles : List Profile} {start : Merge}
    (normal : ∀ p ∈ profiles, ∃ np, (normalizeForWire p clock).2 = .ok np ∧ np.id = p.id ∧
      endpointKey np = endpointKey p)
    (ids : (profiles.map (·.id)).Nodup) (endpoints : (profiles.map endpointKey).Nodup)
    (fresh : ∀ p ∈ profiles, existing.byID.find? p.id = none ∧
      existing.byEndpoint.find? (endpointKey p) = none)
    (new : ∀ p ∈ profiles, start.newByID.find? p.id = none ∧
      start.newByEndpoint.find? (endpointKey p) = none) :
    ∃ last, profiles.foldlM (mergeProfile existing clock) start = .ok last := by
  induction profiles generalizing start with
  | nil => exact ⟨start, rfl⟩
  | cons p rest ih =>
    simp only [List.forall_mem_cons, List.map_cons, List.nodup_cons] at normal ids endpoints fresh new
    obtain ⟨⟨np, normalized, id, endpoint⟩, others⟩ := normal
    have step : mergeProfile existing clock start p = .ok {
        updated := start.updated ++ [importDefaults clock np]
        newByID := start.newByID.insert p.id (importDefaults clock np)
        newByEndpoint := start.newByEndpoint.insert (endpointKey p) p.id } := by
      have same : (importDefaults clock np).id = p.id := id
      unfold mergeProfile
      rw [normalized]
      simp only [bind_eq_ok, require_eq_ok, pure_eq_ok, id, endpoint, fresh.1.1, fresh.1.2, new.1.1,
        new.1.2, same]
      simp
    obtain ⟨last, through⟩ := @ih { updated := start.updated ++ [importDefaults clock np]
                                    newByID := start.newByID.insert p.id (importDefaults clock np)
                                    newByEndpoint := start.newByEndpoint.insert (endpointKey p) p.id }
      others ids.2 endpoints.2 fresh.2 (by
        intro q member
        obtain ⟨id, endpoint⟩ := new.2 q member
        have other : p.id ≠ q.id := fun same => ids.1 (same ▸ List.mem_map_of_mem member)
        have apart : endpointKey p ≠ endpointKey q :=
          fun same => endpoints.1 (same ▸ List.mem_map_of_mem member)
        rw [Map.find?_insert, Map.find?_insert, if_neg other, if_neg apart]
        exact ⟨id, endpoint⟩)
    refine ⟨last, ?_⟩
    rw [List.foldlM_cons, bind_eq_ok]
    exact ⟨_, step, through⟩

/-- Profiles that are new to the store are stored. -/
theorem processAndStore_fresh {aead : Aead} {stores : Stores} {call : ImportCall}
    (normal : ∀ p ∈ call.payload.profiles.getD [], ∃ np,
      (normalizeForWire p call.now).2 = .ok np ∧ np.id = p.id ∧ endpointKey np = endpointKey p)
    (ids : ((call.payload.profiles.getD []).map (·.id)).Nodup)
    (endpoints : ((call.payload.profiles.getD []).map endpointKey).Nodup)
    (fresh : FreshIn (existingProfiles aead stores) (call.payload.profiles.getD [])) :
    ∃ next, processAndStore aead stores call = .ok next := by
  have blank (key : GoString) : (∅ : Map GoString Profile).find? key = none ∧
      (∅ : Map GoString GoString).find? key = none := by simp
  obtain ⟨merge, merged⟩ := @foldlM_mergeProfile_fresh call.now
    ((existingProfiles aead stores).foldl (keepExisting (call.payload.revocations.getD [])) {}) _
    { updated := ((existingProfiles aead stores).foldl
        (keepExisting (call.payload.revocations.getD [])) {}).updated }
    normal ids endpoints
    (foldl_keepExisting_fresh fresh (fun p _ => (blank p.id).1) fun p _ => (blank (endpointKey p)).2)
    fun p _ => ⟨(blank p.id).1, (blank (endpointKey p)).2⟩
  simp only [processAndStore, bind_eq_ok, pure_eq_ok]
  exact ⟨_, merge, merged, rfl⟩

/-- The template of a payload is what its key has afterwards in the store. -/
theorem storeTemplates_find {aead : Aead} {nonce : Nonce} {templates : Map GoString Template}
    {file : Option Bytes} {key : GoString} {template : Template}
    (utf8 : ∀ entry ∈ templates.entries, Valid entry.1 ∧ Valid entry.2.templateText)
    (found : templates.find? key = some template) :
    ∃ stored, TemplateStore.load aead (storeTemplates aead nonce templates file) = .ok stored ∧
      stored.find? key = some template.templateText := by
  have filled : templates.entries ≠ [] := by
    intro empty
    have member := (Map.find?_eq_some _).mp found
    rw [empty] at member
    cases member
  have general (current : Map GoString GoString)
      (valid : ∀ entry ∈ current.entries, Valid entry.1 ∧ Valid entry.2) :
      ∃ stored, TemplateStore.load aead (some (TemplateStore.save aead nonce (current.insertAll
          (templates.entries.map fun entry => (entry.1, entry.2.templateText))))) = .ok stored ∧
        stored.find? key = some template.templateText := by
    refine ⟨_, TemplateStore.load_save aead nonce ?_, ?_⟩
    · intro entry member
      obtain new | old := Map.mem_insertAll member
      · obtain ⟨own, inside, rfl⟩ := List.mem_map.mp new
        exact utf8 own inside
      · exact valid entry old
    · rw [Map.find?_insertAll_map, found]
      rfl
  rw [storeTemplates, if_neg filled]
  cases loaded : TemplateStore.load aead file with
  | ok stored => exact general stored (TemplateStore.load_utf8 loaded)
  | error _ => exact general ∅ (List.forall_mem_nil _)

/-! ## Delivery -/

/-- What a device has after an import: the profiles that it had, then those that were selected, and
the templates of the latter. -/
structure Delivered (aead : Aead) (args : GenerateArgs suite) (now importedAt : Int64)
    (stored : List Profile) (next : Stores) : Prop where
  profiles : Store.load aead next.profiles =
    .ok (stored ++ (args.selected now).map (·.imported importedAt))
  templates : ∀ file, next.templates = some file → ∀ p ∈ args.selected now,
    ∃ templates, TemplateStore.load aead file = .ok templates ∧
      templates.find? (templateKey p) = args.templatesDir (pathClean (templateFileName p))

theorem TemplatesRead.find {templatesDir : GoString → Option Bytes} {profiles : List Profile}
    {templates : Map GoString Template} (read : TemplatesRead templatesDir profiles templates)
    (normal : ∀ p ∈ profiles, Normal p now) {p : Profile} (member : p ∈ profiles) :
    ∃ template, templates.find? (templateKey p) = some template ∧
      templatesDir (pathClean (templateFileName p)) = some template.templateText := by
  obtain ⟨template, found⟩ := Option.isSome_iff_exists.mp (read.complete p member)
  obtain ⟨q, inside, key, file⟩ := read.files _ _ found
  refine ⟨template, found, ?_⟩
  rw [(normal p member).templateFileName_eq, ← key, ← (normal q inside).templateFileName_eq]
  exact file

theorem takeWhile_subset {α : Type} {p q : α → Bool} (only : ∀ a, p a = true → q a = true)
    (items : List α) : ∀ a ∈ items.takeWhile p, a ∈ items.takeWhile q := by
  induction items with
  | nil => exact List.forall_mem_nil _
  | cons first rest ih =>
    intro a member
    rw [List.takeWhile_cons] at member ⊢
    split_ifs at member with passes
    · rw [if_pos (only first passes)]
      obtain rfl | later := List.mem_cons.mp member
      · exact List.mem_cons_self ..
      · exact List.mem_cons_of_mem _ (ih a later)
    · cases member

/-- Whatever form of a bundle arrives while the bundle is current, a device that trusts the signer
reads the generated payload from it, and storing it gives the device what was selected. -/
theorem delivery_arrives {hash : Sha256} {sorter : SliceSort} {flags : FormFlags} {forms : Forms}
    (sound : suite.Sound) (produced : runGenerate args now = .ok bundle)
    (written : writeForms hash sorter flags bundle = .ok forms)
    (fits : (bundleURI bundle).length < 2 ^ 63)
    (fit : TemplatesFit engine args.templatesDir (args.selected now))
    (version : isBlank args.minAgentVersion = false) (forward : 0 ≤ args.bundleTTLSec)
    (matching : Matching suite args.recipientFile identity) (agreed : args.Agreed now)
    (current : args.CurrentAt now clock) {keys : List PublicKey}
    (trusted : suite.publicKey args.signingKey ∈ keys)
    (ids : ∀ key ∈ keys.takeWhile (· ≠ suite.publicKey args.signingKey),
      ed25519KeyID suite key = args.signerKeyID)
    {arrived : Except GoString Bytes} (arrives : forms.Arrives sorter arrived) :
    ∃ file payload, arrived = .ok file ∧
      ((newImporter suite keys identity).importFile engine (some file) clock).2 = .ok payload ∧
      ∀ aead stores stored importedAt nonce templateNonce,
        Store.load aead stores.profiles = .ok stored → FreshIn stored (args.selected now) →
        (∀ p ∈ args.selected now, p.expiresAt ≠ 0 → importedAt < p.expiresAt) →
        ∃ next, processAndStore aead stores ⟨payload, importedAt, nonce, templateNonce⟩ = .ok next ∧
          Delivered aead args now importedAt stored next := by
  obtain ⟨file, rfl, form⟩ := arrives.cases written fits
  obtain ⟨templates, read, verified⟩ := @verified_current suite engine args now clock bundle identity
    sound produced fit version forward matching agreed current
  have brace : bundle.head? = some 0x7B := by
    obtain ⟨_, _, _, _, _, _, rfl⟩ := runGenerate_eq_ok produced
    rw [marshal, Wrapper.codec, Codec.struct, encode_obj]
    rfl
  have parsed : ((newImporter suite keys identity).parseBytes engine bundle clock).2 =
      .ok (args.payload templates now) := by
    apply parseBytes_finds trusted verified
    intro earlier tried
    apply ids earlier
    refine takeWhile_subset (fun key unverified => ?_) keys earlier tried
    simp only [decide_eq_true_eq]
    rintro rfl
    rw [verified] at unverified
    cases unverified
  refine ⟨file, args.payload templates now, rfl, ?_, ?_⟩
  · rw [importFile_form brace form, parsed]
  intro aead stores stored importedAt nonce templateNonce loads fresh unexpired
  have included := args.selected_ok now
  let header : BundleHeader := { publisherKeyID := args.signerKeyID }
  obtain ⟨ok, -⟩ : PayloadOk engine header now (args.payload templates now) ∧ _ :=
    args.payload_ok read fit version agreed rfl
  have timed : now ≠ 0 := fun zero => absurd agreed.clock (by rw [zero]; decide)
  have existing : existingProfiles aead stores = stored := by rw [existingProfiles, loads]
  have normal : ∀ p ∈ args.selected now, ∃ np, (normalizeForWire p importedAt).2 = .ok np ∧
      np.id = p.id ∧ endpointKey np = endpointKey p := by
    intro p member
    obtain ⟨np, normalized, same⟩ :=
      ((ok.profiles p member).until timed (unexpired p member)).normalized
    have endpoint : sameEndpoint np p := by
      have family : np.family = p.family := congrArg (·.family) same
      have place : np.endpoint = p.endpoint := congrArg (·.endpoint) same
      exact ⟨family, by rw [place], by rw [place]⟩
    exact ⟨np, normalized, congrArg (·.id) same, endpointKey_congr endpoint⟩
  obtain ⟨next, ran⟩ := @processAndStore_fresh aead stores
    ⟨args.payload templates now, importedAt, nonce, templateNonce⟩ normal included.distinctIDs
    included.distinctEndpoints (existing.symm ▸ fresh)
  refine ⟨next, ran, ?_, ?_⟩
  · have effect := effect_of_step ⟨_, bundle, clock, parsed⟩ loads (Store.load_utf8 loads) ran
    have kept : ImportCall.kept ⟨args.payload templates now, importedAt, nonce, templateNonce⟩
        stored = stored := List.filter_eq_self.mpr fun p _ => by simp [GenerateArgs.payload, generatedPayload]
    rw [effect.loads, kept]
    rfl
  · simp only [processAndStore, bind_eq_ok, pure_eq_ok] at ran
    obtain ⟨merge, -, rfl⟩ := ran
    intro file held p member
    obtain ⟨before, -, rfl⟩ := Option.map_eq_some_iff.mp held
    obtain ⟨template, found, text⟩ := read.find included.normal member
    rw [text]
    exact storeTemplates_find (args.payload_utf8 read fit agreed.version).templates found

end

/-! ## A delivery on record -/

theorem recordedGenerator_selected : ∀ p ∈ (recordedGenerator increasingTags).selected 1500,
    p.templateRef ≠ lit "." ∧ (p.capabilities.dpiResistanceTags.getD []).Pairwise (· < ·) ∧
      p.expiresAt = 0 := by
  apply forall_mem_of_all
  decide +kernel

/-- Both sides agree on the bundle on record. -/
theorem recordedGenerator_agreed : (recordedGenerator increasingTags).Agreed 1500 :=
  ⟨by decide, by decide, by decide, by decide,
    fun p member => (recordedGenerator_selected p member).1,
    fun p member => (recordedGenerator_selected p member).2.1⟩

theorem recordedGenerator_lasting {time : Int64} :
    ∀ p ∈ (recordedGenerator increasingTags).selected 1500, p.expiresAt ≠ 0 → time < p.expiresAt :=
  fun p member expires => absurd (recordedGenerator_selected p member).2.2 expires

/-- The URI of a bundle comes to a device that has nothing yet. -/
theorem recordedGenerator_arrives : ∃ bundle payload next,
    runGenerate (recordedGenerator increasingTags) 1500 = .ok bundle ∧
      ((newImporter generatorCalls [recordedKey] none).importFile plainEngine
        (some (textLine (bundleURI bundle))) 2000).2 = .ok payload ∧
      processAndStore clearAead ⟨none, some none⟩ ⟨payload, 2000, zeroNonce, zeroNonce⟩ = .ok next ∧
      Delivered clearAead (recordedGenerator increasingTags) 1500 2000 [] next := by
  obtain ⟨bundle, produced⟩ := @recordedGenerator_produces increasingTags (by decide +kernel)
  have short : (runGenerate (recordedGenerator increasingTags) 1500).toOption.all
      (fun bundle => decide ((bundleURI bundle).length < 2 ^ 63)) = true := by decide +kernel
  rw [produced] at short
  have matching : Matching generatorCalls (recordedGenerator increasingTags).recipientFile none := by
    intro raw given
    cases given
  have first : [recordedKey].takeWhile
      (· ≠ generatorCalls.publicKey (recordedGenerator increasingTags).signingKey) = [] := by decide
  obtain ⟨file, payload, same, parsed, stored⟩ := @delivery_arrives generatorCalls plainEngine
    (recordedGenerator increasingTags) 1500 2000 bundle none recordedHash .stable ⟨0, 0, 0⟩
    ⟨bundle, textLine (bundleURI bundle), none, none⟩ generatorCalls_sound produced rfl
    (of_decide_eq_true short) (recordedGenerator_fit _ _) (by decide) (by decide)
    matching recordedGenerator_agreed ⟨by decide, by decide, by decide, recordedGenerator_lasting⟩
    [recordedKey]
    (List.mem_singleton_self _) (first ▸ List.forall_mem_nil _) _ (.uri ⟨[], [], rfl, rfl, (List.append_nil _).symm⟩)
  cases same
  obtain ⟨next, ran, delivered⟩ := stored clearAead ⟨none, some none⟩ [] 2000 zeroNonce zeroNonce rfl
    ⟨fun _ _ => List.forall_mem_nil _, fun _ _ => List.forall_mem_nil _⟩ recordedGenerator_lasting
  exact ⟨bundle, payload, next, produced, parsed, ran, delivered⟩

end ShadowNet
