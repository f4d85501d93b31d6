import ShadowNet.Go.Replace
import ShadowNet.Outside.ChunkLines
import ShadowNet.Outside.Generate

/-! # Key files

`keygen` writes keys as single lines, and the commands that use them read them back. A run replaces
each file in one step, and without `--force` it does not touch a file that is already there, unless it
is in the place of a temporary one.
-/

namespace ShadowNet

open Go

/-- The texts of keys, as `crypto/ed25519` and `filippo.io/age` read and write them. -/
structure KeyTexts (suite : Suite) where
  seed : suite.PrivateKey → { bytes : Bytes // bytes.length = 32 }
  newKeyFromSeed : { bytes : Bytes // bytes.length = 32 } → suite.PrivateKey
  /-- A private key of 64 bytes, taken as it is. -/
  privateKey : { bytes : Bytes // bytes.length = 64 } → suite.PrivateKey
  identityString : suite.Identity → GoString
  /-- `age.ParseX25519Identity`. -/
  parseIdentity : GoString → Option suite.Identity

/-- Keys are read as they were written, and age writes its keys in visible characters. -/
structure KeyTexts.Sound {suite : Suite} (texts : KeyTexts suite) : Prop where
  restores : ∀ key, texts.newKeyFromSeed (texts.seed key) = key
  parses : ∀ identity, texts.parseIdentity (texts.identityString identity) = some identity
  parsesRecipient : ∀ identity,
    suite.parseRecipient (suite.recipientString (suite.recipient identity)) =
      some (suite.recipient identity)
  identityVisible : ∀ identity, texts.identityString identity ≠ [] ∧
    ∀ byte ∈ texts.identityString identity, isVisible byte = true
  recipientVisible : ∀ identity, suite.recipientString (suite.recipient identity) ≠ [] ∧
    ∀ byte ∈ suite.recipientString (suite.recipient identity), isVisible byte = true

section

variable {suite : Suite} (texts : KeyTexts suite)

/-! ## Reading -/

/-- The two forms in which a private key may come. -/
def KeyTexts.privateKeyOf (b : Bytes) : Except Message suite.PrivateKey :=
  if seed : b.length = 32 then .ok (texts.newKeyFromSeed ⟨b, seed⟩)
  else if size : b.length = 64 then .ok (texts.privateKey ⟨b, size⟩)
  else .error ⟨"invalid signing key size: %d", [.int b.length]⟩

/-- `LoadEd25519PrivateKeyFile`. -/
def loadEd25519PrivateKeyFile (file : Option Bytes) :
    Except Message (suite.PrivateKey × PublicKey × GoString) := do
  let raw ← orError file ⟨"%w", [.foreign]⟩
  let s := trimSpace raw
  require (s ≠ []) ⟨"empty signing key", []⟩
  let b ← orError (Base64.decode s) ⟨"invalid signing key (base64url): %w", [.foreign]⟩
  let priv ← texts.privateKeyOf b
  let pub := suite.publicKey priv
  return (priv, pub, ed25519KeyID suite pub)

/-- `LoadEd25519PublicKeyFile`. -/
def loadEd25519PublicKeyFile (suite : Suite) (file : Option Bytes) :
    Except Message (PublicKey × GoString) := do
  let raw ← orError file ⟨"%w", [.foreign]⟩
  let s := trimSpace raw
  require (s ≠ []) ⟨"empty signer public key", []⟩
  let b ← orError (Base64.decode s) ⟨"invalid signer public key (base64url): %w", [.foreign]⟩
  if size : b.length = 32 then return (⟨b, size⟩, ed25519KeyID suite ⟨b, size⟩)
  else .error ⟨"invalid signer public key size: %d", [.int b.length]⟩

/-- `LoadAgeIdentityFile`. -/
def loadAgeIdentityFile (file : Option Bytes) : Except Message (suite.Identity × GoString) := do
  let raw ← orError file ⟨"%w", [.foreign]⟩
  let s := trimSpace raw
  require (s ≠ []) ⟨"empty age identity", []⟩
  let id ← orError (texts.parseIdentity s) ⟨"invalid age identity: %w", [.foreign]⟩
  return (id, ageKeyID suite (suite.recipientString (suite.recipient id)))

/-! ## Writing -/

/-- What the system answers to `writeNewFileAtomic`. -/
structure NewFileAnswer where
  /-- Whether `os.MkdirAll` succeeds. -/
  folder : Bool := true
  replaced : ReplaceAnswer := .done

/-- `writeFileAtomic`. -/
def writeFileAtomic (path : GoString) (data : Bytes) (answer : ReplaceAnswer) :
    FileM Message GoString Unit := fun files =>
  (require (answer = .done) ⟨"%w", [.foreign]⟩, replaceFile temporaryFile files path data answer)

def writeNewFileAtomic (path : GoString) (data : Bytes) (force : Bool) (answer : NewFileAnswer) :
    FileM Message GoString Unit := fun files =>
  if force = false ∧ (files path).isSome = true then
    (.error ⟨"refusing to overwrite existing file: %s (use --force)", [.str path]⟩, files)
  else if answer.folder then writeFileAtomic path data answer.replaced files
  else (.error ⟨"%w", [.foreign]⟩, files)

/-- The flags of `keygen`. -/
structure KeygenArgs where
  ed25519PrivPath : GoString := []
  ed25519PubPath : GoString := []
  ageIDPath : GoString := []
  ageRecipient : GoString := []
  force : Bool := false

/-- What a run of `keygen` gets from outside: the keys that are drawn, and the answers to its
writes. -/
structure KeygenAnswers (suite : Suite) where
  key : Except Message suite.PrivateKey
  identity : Except Message suite.Identity
  privFile : NewFileAnswer := {}
  pubFile : NewFileAnswer := {}
  idFile : NewFileAnswer := {}
  recipientFile : NewFileAnswer := {}

def textLine (text : GoString) : Bytes := text ++ [0x0A]

/-- The part of `runKeygen` about ed25519; it returns the logged key ID. -/
def keygenEd25519 (args : KeygenArgs) (answers : KeygenAnswers suite) :
    FileM Message GoString (Option GoString) :=
  if isBlank args.ed25519PrivPath && isBlank args.ed25519PubPath then pure none
  else do
    FileM.ofExcept <| require (isBlank args.ed25519PrivPath = false ∧ isBlank args.ed25519PubPath = false)
      ⟨"ed25519 requires both --ed25519-priv and --ed25519-pub", []⟩
    let priv ← FileM.ofExcept answers.key
    let pub := suite.publicKey priv
    writeNewFileAtomic args.ed25519PrivPath (textLine (Base64.encode (texts.seed priv).val)) args.force
      answers.privFile
    writeNewFileAtomic args.ed25519PubPath (textLine (Base64.encode pub.val)) args.force answers.pubFile
    return some (ed25519KeyID suite pub)

/-- The part of `runKeygen` about age. -/
def keygenAge (args : KeygenArgs) (answers : KeygenAnswers suite) :
    FileM Message GoString (Option GoString) :=
  if isBlank args.ageIDPath then pure none
  else do
    let id ← FileM.ofExcept answers.identity
    FileM.ofExcept <| require (isBlank args.ageRecipient = false)
      ⟨"age requires --age-recipient when --age-identity is set", []⟩
    let recipient := suite.recipientString (suite.recipient id)
    writeNewFileAtomic args.ageIDPath (textLine (texts.identityString id)) args.force answers.idFile
    writeNewFileAtomic args.ageRecipient (textLine recipient) args.force answers.recipientFile
    return some (ageKeyID suite recipient)

/-- `runKeygen`, with the two key IDs that it logs. -/
def runKeygen (args : KeygenArgs) (answers : KeygenAnswers suite) :
    FileM Message GoString (Option GoString × Option GoString) := do
  FileM.ofExcept <| require (¬ (isBlank args.ed25519PrivPath = true ∧ isBlank args.ageIDPath = true))
    ⟨"nothing to generate: set --ed25519-priv or --age-identity", []⟩
  let keyID ← keygenEd25519 texts args answers
  let recipientKeyID ← keygenAge texts args answers
  return (keyID, recipientKeyID)

/-! ## What is read back -/

/-- A line of visible characters is all that trimming leaves of it. -/
theorem trimSpace_of_padded {text received : GoString} (padded : Padded text received)
    (filled : text ≠ []) (visible : ∀ byte ∈ text, isVisible byte = true) :
    trimSpace received = text := by
  obtain ⟨before, after, leading, trailing, rfl⟩ := padded
  obtain ⟨first, rest, rfl⟩ := List.exists_cons_of_ne_nil filled
  have last := List.getLast?_eq_some_getLast filled
  apply trimSpace_padded leading trailing (ascii_of_visible visible).valid List.head?_cons
    (visible first (List.mem_cons_self ..)) last (visible _ (List.getLast_mem filled))

theorem trimSpace_textLine {text : GoString} (filled : text ≠ [])
    (visible : ∀ byte ∈ text, isVisible byte = true) : trimSpace (textLine text) = text := by
  have newline : isBlank [0x0A] = true := by decide
  exact trimSpace_of_padded ⟨[], [0x0A], rfl, newline, rfl⟩ filled visible

theorem encode_ne_nil {bytes : Bytes} (size : bytes.length = 32) : Base64.encode bytes ≠ [] := by
  apply List.ne_nil_of_length_pos
  rw [Base64.length_encode, size]
  decide

variable {texts}

theorem loadEd25519PrivateKeyFile_textLine (sound : texts.Sound) (key : suite.PrivateKey) :
    loadEd25519PrivateKeyFile texts (some (textLine (Base64.encode (texts.seed key).val))) =
      .ok (key, suite.publicKey key, ed25519KeyID suite (suite.publicKey key)) := by
  have size := (texts.seed key).property
  have trimmed := trimSpace_textLine (encode_ne_nil size) (Base64.visible_encode (texts.seed key).val)
  simp only [loadEd25519PrivateKeyFile, bind_eq_ok, orError_eq_ok, require_eq_ok, pure_eq_ok]
  refine ⟨_, rfl, (), ?_, (texts.seed key).val, ?_, key, ?_, rfl⟩
  · rw [trimmed]
    exact encode_ne_nil size
  · rw [trimmed, Base64.decode_encode]
  · rw [KeyTexts.privateKeyOf, dif_pos size]
    exact congrArg Except.ok (sound.restores key)

theorem loadEd25519PublicKeyFile_textLine (key : PublicKey) :
    loadEd25519PublicKeyFile suite (some (textLine (Base64.encode key.val))) =
      .ok (key, ed25519KeyID suite key) := by
  have trimmed := trimSpace_textLine (encode_ne_nil key.property) (Base64.visible_encode key.val)
  simp only [loadEd25519PublicKeyFile, bind_eq_ok, orError_eq_ok, require_eq_ok]
  refine ⟨_, rfl, (), ?_, _, ?_, dif_pos key.property⟩
  · rw [trimmed]
    exact encode_ne_nil key.property
  · rw [trimmed, Base64.decode_encode]

theorem loadAgeIdentityFile_textLine (sound : texts.Sound) (identity : suite.Identity) :
    loadAgeIdentityFile texts (some (textLine (texts.identityString identity))) =
      .ok (identity, ageKeyID suite (suite.recipientString (suite.recipient identity))) := by
  obtain ⟨filled, visible⟩ := sound.identityVisible identity
  have trimmed := trimSpace_textLine filled visible
  simp only [loadAgeIdentityFile, bind_eq_ok, orError_eq_ok, require_eq_ok, pure_eq_ok]
  refine ⟨_, rfl, (), ?_, identity, ?_, rfl⟩
  · rwa [trimmed]
  · rw [trimmed, sound.parses]

theorem loadAgeRecipientFile_textLine (sound : texts.Sound) (identity : suite.Identity) :
    loadAgeRecipientFile suite (textLine (suite.recipientString (suite.recipient identity))) =
      .ok (suite.recipientString (suite.recipient identity)) := by
  obtain ⟨filled, visible⟩ := sound.recipientVisible identity
  simp only [loadAgeRecipientFile, trimSpace_textLine filled visible, if_neg filled,
    sound.parsesRecipient]

/-! ## Runs of `keygen` -/

theorem writeNewFileAtomic_eq_ok {path : GoString} {data : Bytes} {force : Bool}
    {answer : NewFileAnswer} {files last : Files GoString}
    (wrote : writeNewFileAtomic path data force answer files = (.ok (), last)) :
    last path = some data ∧
      ∀ other, other ≠ path → other ≠ temporaryFile path → last other = files other := by
  unfold writeNewFileAtomic at wrote
  split_ifs at wrote with refused folder
  · cases wrote
  · obtain ⟨done, rfl⟩ := Prod.mk_inj.mp wrote
    rw [require_eq_ok.mp done]
    exact ⟨replaceFile_done files data, fun other apart beside =>
      replaceFile_other apart beside files data .done⟩
  · cases wrote

/-- Without `--force` a file that is there stays as it is, wherever the write stops. -/
theorem writeNewFileAtomic_keeps {kept path : GoString} {contents : Bytes}
    (beside : kept ≠ temporaryFile path) (data : Bytes) (answer : NewFileAnswer) :
    FileM.Keeps (fun files => files kept = some contents)
      (writeNewFileAtomic path data false answer) := by
  intro files held
  unfold writeNewFileAtomic
  split_ifs with refused folder
  · exact held
  · have other : kept ≠ path := by
      rintro rfl
      exact refused ⟨rfl, by rw [held]; rfl⟩
    exact (replaceFile_other other beside files data _).trans held
  · exact held

/-- Two new files that stand apart both hold what they were given. -/
theorem writeNewFiles_eq_ok {first second : GoString} {one two : Bytes} {force : Bool}
    {answer answer' : NewFileAnswer} {files middle last : Files GoString}
    (wroteFirst : writeNewFileAtomic first one force answer files = (.ok (), middle))
    (wroteSecond : writeNewFileAtomic second two force answer' middle = (.ok (), last))
    (apart : first ≠ second) (beside : first ≠ temporaryFile second) :
    last first = some one ∧ last second = some two ∧
      ∀ other, other ∉ [first, second] → other ∉ [temporaryFile first, temporaryFile second] →
        last other = files other := by
  obtain ⟨own, others⟩ := writeNewFileAtomic_eq_ok wroteFirst
  obtain ⟨own', others'⟩ := writeNewFileAtomic_eq_ok wroteSecond
  refine ⟨(others' first apart beside).trans own, own', fun other targets temporaries => ?_⟩
  simp only [List.mem_cons, List.not_mem_nil, or_false, not_or] at targets temporaries
  rw [others' other targets.2 temporaries.2, others other targets.1 temporaries.1]

def KeygenArgs.ed25519Paths (args : KeygenArgs) : List GoString :=
  if isBlank args.ed25519PrivPath && isBlank args.ed25519PubPath then []
  else [args.ed25519PrivPath, args.ed25519PubPath]

def KeygenArgs.agePaths (args : KeygenArgs) : List GoString :=
  if isBlank args.ageIDPath then [] else [args.ageIDPath, args.ageRecipient]

/-- The files that a run writes. -/
def KeygenArgs.paths (args : KeygenArgs) : List GoString := args.ed25519Paths ++ args.agePaths

/-- The files of a run are different ones, and none of them is the temporary one of another. -/
structure KeygenArgs.Apart (args : KeygenArgs) : Prop where
  nodup : args.paths.Nodup
  beside : ∀ path ∈ args.paths, ∀ other ∈ args.paths, path ≠ temporaryFile other

theorem keygenEd25519_eq_ok {args : KeygenArgs} (apart : args.Apart) {answers : KeygenAnswers suite}
    {files last : Files GoString} {keyID : Option GoString}
    (ran : keygenEd25519 texts args answers files = (.ok keyID, last))
    (asked : isBlank args.ed25519PrivPath = false) :
    ∃ key, last args.ed25519PrivPath = some (textLine (Base64.encode (texts.seed key).val)) ∧
      last args.ed25519PubPath = some (textLine (Base64.encode (suite.publicKey key).val)) ∧
      keyID = some (ed25519KeyID suite (suite.publicKey key)) := by
  have paths : args.ed25519Paths = [args.ed25519PrivPath, args.ed25519PubPath] := by
    rw [KeygenArgs.ed25519Paths, asked, Bool.false_and, if_neg Bool.false_ne_true]
  have distinct := (List.nodup_append.mp apart.nodup).1
  have beside := apart.beside args.ed25519PrivPath (by simp [KeygenArgs.paths, paths])
    args.ed25519PubPath (by simp [KeygenArgs.paths, paths])
  rw [paths, List.nodup_cons, List.mem_singleton] at distinct
  unfold keygenEd25519 at ran
  rw [asked, Bool.false_and, if_neg Bool.false_ne_true] at ran
  simp only [FileM.bind_eq_ok, FileM.ofExcept_eq_ok, FileM.pure_eq_ok] at ran
  obtain ⟨_, _, ⟨-, rfl⟩, key, _, ⟨-, rfl⟩, _, middle, first, _, after, second, rfl, rfl⟩ := ran
  obtain ⟨priv, pub, -⟩ := writeNewFiles_eq_ok first second distinct.1 beside
  exact ⟨key, priv, pub, rfl⟩

/-- The part about age leaves the ed25519 keys alone. -/
theorem keygenAge_eq_ok {args : KeygenArgs} (apart : args.Apart) {answers : KeygenAnswers suite}
    {files last : Files GoString} {recipientKeyID : Option GoString}
    (ran : keygenAge texts args answers files = (.ok recipientKeyID, last)) :
    (∀ path ∈ args.ed25519Paths, last path = files path) ∧
      (isBlank args.ageIDPath = false →
        ∃ identity, last args.ageIDPath = some (textLine (texts.identityString identity)) ∧
          last args.ageRecipient =
            some (textLine (suite.recipientString (suite.recipient identity))) ∧
          recipientKeyID =
            some (ageKeyID suite (suite.recipientString (suite.recipient identity)))) := by
  unfold keygenAge at ran
  split_ifs at ran with unasked
  · obtain ⟨-, rfl⟩ := FileM.pure_eq_ok.mp ran
    refine ⟨fun _ _ => rfl, fun asked => ?_⟩
    rw [unasked] at asked
    cases asked
  · simp only [FileM.bind_eq_ok, FileM.ofExcept_eq_ok, FileM.pure_eq_ok] at ran
    obtain ⟨id, _, ⟨-, rfl⟩, _, _, ⟨-, rfl⟩, _, middle, first, _, after, second, rfl, rfl⟩ := ran
    have paths : args.agePaths = [args.ageIDPath, args.ageRecipient] := if_neg unasked
    obtain ⟨-, distinct, foreign⟩ := List.nodup_append.mp apart.nodup
    have listed : ∀ path ∈ [args.ageIDPath, args.ageRecipient], path ∈ args.paths :=
      fun path own => List.mem_append_right _ (paths ▸ own)
    rw [paths, List.nodup_cons, List.mem_singleton] at distinct
    have beside := apart.beside _ (listed args.ageIDPath (by simp)) _
      (listed args.ageRecipient (by simp))
    obtain ⟨identity, recipient, others⟩ := writeNewFiles_eq_ok first second distinct.1 beside
    refine ⟨fun path own => others path (fun age => ?_) ?_, fun _ => ⟨id, identity, recipient, rfl⟩⟩
    · exact foreign path own path (paths ▸ age) rfl
    · have key : path ∈ args.paths := List.mem_append_left _ own
      simp only [List.mem_cons, List.not_mem_nil, or_false, not_or]
      exact ⟨apart.beside path key _ (listed _ (by simp)),
        apart.beside path key _ (listed _ (by simp))⟩

/-- However a run of `keygen` without `--force` ends, the files that were there are as they were. -/
theorem runKeygen_keeps {args : KeygenArgs} (careful : args.force = false)
    (answers : KeygenAnswers suite) {files : Files GoString} {kept : GoString} {contents : Bytes}
    (beside : ∀ path ∈ args.paths, kept ≠ temporaryFile path) (there : files kept = some contents) :
    (runKeygen texts args answers files).2 kept = some contents := by
  rw [KeygenArgs.paths, List.forall_mem_append] at beside
  obtain ⟨keys, ages⟩ := beside
  have ed25519 : FileM.Keeps (fun files => files kept = some contents)
      (keygenEd25519 texts args answers) := by
    unfold keygenEd25519
    split_ifs with unasked
    · exact FileM.keeps_pure _
    · rw [KeygenArgs.ed25519Paths, if_neg unasked] at keys
      simp only [List.forall_mem_cons] at keys
      obtain ⟨priv, pub, -⟩ := keys
      rw [careful]
      refine FileM.keeps_bind (FileM.keeps_ofExcept _) fun _ => ?_
      refine FileM.keeps_bind (FileM.keeps_ofExcept _) fun key => ?_
      refine FileM.keeps_bind (writeNewFileAtomic_keeps priv _ _) fun _ => ?_
      refine FileM.keeps_bind (writeNewFileAtomic_keeps pub _ _) fun _ => ?_
      exact FileM.keeps_pure _
  have age : FileM.Keeps (fun files => files kept = some contents) (keygenAge texts args answers) := by
    unfold keygenAge
    split_ifs with unasked
    · exact FileM.keeps_pure _
    · rw [KeygenArgs.agePaths, if_neg unasked] at ages
      simp only [List.forall_mem_cons] at ages
      obtain ⟨id, recipient, -⟩ := ages
      rw [careful]
      refine FileM.keeps_bind (FileM.keeps_ofExcept _) fun identity => ?_
      refine FileM.keeps_bind (FileM.keeps_ofExcept _) fun _ => ?_
      refine FileM.keeps_bind (writeNewFileAtomic_keeps id _ _) fun _ => ?_
      refine FileM.keeps_bind (writeNewFileAtomic_keeps recipient _ _) fun _ => ?_
      exact FileM.keeps_pure _
  have whole : FileM.Keeps (fun files => files kept = some contents) (runKeygen texts args answers) := by
    refine FileM.keeps_bind (FileM.keeps_ofExcept _) fun _ => ?_
    refine FileM.keeps_bind ed25519 fun _ => ?_
    refine FileM.keeps_bind age fun _ => ?_
    exact FileM.keeps_pure _
  exact whole files there

/-- Without `--force` a run of `keygen` keeps every file that is there, however it ends, unless it has
the name of a temporary one; and the files of a run that succeeds are read back as keys that belong
together, under the logged IDs, if none of them is in the way of another. -/
theorem runKeygen_sound (sound : texts.Sound) (args : KeygenArgs) (answers : KeygenAnswers suite)
    (files : Files GoString) :
    (args.force = false → ∀ kept contents, (∀ path ∈ args.paths, kept ≠ temporaryFile path) →
      files kept = some contents → (runKeygen texts args answers files).2 kept = some contents) ∧
    (args.Apart → ∀ keyID recipientKeyID last,
      runKeygen texts args answers files = (.ok (keyID, recipientKeyID), last) →
        (isBlank args.ed25519PrivPath = false → ∃ key id, keyID = some id ∧
          loadEd25519PrivateKeyFile texts (last args.ed25519PrivPath) =
            .ok (key, suite.publicKey key, id) ∧
          loadEd25519PublicKeyFile suite (last args.ed25519PubPath) = .ok (suite.publicKey key, id)) ∧
        (isBlank args.ageIDPath = false → ∃ identity raw recipient id, recipientKeyID = some id ∧
          loadAgeIdentityFile texts (last args.ageIDPath) = .ok (identity, id) ∧
          last args.ageRecipient = some raw ∧ loadAgeRecipientFile suite raw = .ok recipient ∧
          suite.parseRecipient recipient = some (suite.recipient identity) ∧
          ageKeyID suite recipient = id)) := by
  refine ⟨fun careful kept contents beside there => runKeygen_keeps careful answers beside there, ?_⟩
  intro apart keyID recipientKeyID last ran
  simp only [runKeygen, FileM.bind_eq_ok, FileM.ofExcept_eq_ok, FileM.pure_eq_ok] at ran
  obtain ⟨_, _, ⟨-, rfl⟩, _, middle, first, _, after, second, same, rfl⟩ := ran
  cases same
  obtain ⟨kept, age⟩ := keygenAge_eq_ok apart second
  refine ⟨fun asked => ?_, fun asked => ?_⟩
  · obtain ⟨key, priv, pub, rfl⟩ := keygenEd25519_eq_ok apart first asked
    rw [KeygenArgs.ed25519Paths, asked, Bool.false_and, if_neg Bool.false_ne_true] at kept
    refine ⟨key, _, rfl, ?_, ?_⟩
    · rw [kept _ (List.mem_cons_self ..), priv, loadEd25519PrivateKeyFile_textLine sound]
    · rw [kept _ (List.mem_cons_of_mem _ (List.mem_cons_self ..)), pub,
        loadEd25519PublicKeyFile_textLine]
  · obtain ⟨identity, own, recipient, rfl⟩ := age asked
    refine ⟨identity, _, _, _, rfl, ?_, recipient, loadAgeRecipientFile_textLine sound identity,
      sound.parsesRecipient identity, rfl⟩
    rw [own, loadAgeIdentityFile_textLine sound]

end

/-- The texts of the keys on record; there is one ed25519 key and no age key. -/
def recordedTexts : KeyTexts recordedCalls where
  seed _ := ⟨List.replicate 32 1, by simp⟩
  newKeyFromSeed _ := ()
  privateKey _ := ()
  identityString identity := identity.elim
  parseIdentity _ := none

theorem recordedTexts_sound : recordedTexts.Sound where
  restores _ := rfl
  parses identity := identity.elim
  parsesRecipient identity := identity.elim
  identityVisible identity := identity.elim
  recipientVisible identity := identity.elim

/-- A folder with an older key. -/
def keyFolder : Files GoString := fun path => if path = lit "key" then some (lit "older\n") else none

def keygenFor (path : GoString) : KeygenArgs :=
  { ed25519PrivPath := path, ed25519PubPath := path ++ lit ".pub" }

def drawnKey : KeygenAnswers recordedCalls := ⟨.ok (), .error ⟨"", []⟩, {}, {}, {}, {}⟩

/-- A new key beside the older one is read back; in its place none is written. -/
theorem keyFolder_sound :
    (∃ last, runKeygen recordedTexts (keygenFor (lit "key2")) drawnKey keyFolder =
        (.ok (some (ed25519KeyID recordedCalls recordedKey), none), last) ∧
      last (lit "key") = some (lit "older\n") ∧
      loadEd25519PublicKeyFile recordedCalls (last (lit "key2.pub")) =
        .ok (recordedKey, ed25519KeyID recordedCalls recordedKey)) ∧
    ∃ last, runKeygen recordedTexts (keygenFor (lit "key")) drawnKey keyFolder =
        (.error ⟨"refusing to overwrite existing file: %s (use --force)", [.str (lit "key")]⟩, last) ∧
      last (lit "key") = some (lit "older\n") := by
  have older : keyFolder (lit "key") = some (lit "older\n") := rfl
  constructor
  · obtain ⟨last, ran⟩ : ∃ last, runKeygen recordedTexts (keygenFor (lit "key2")) drawnKey keyFolder =
        (.ok (some (ed25519KeyID recordedCalls recordedKey), none), last) := ⟨_, rfl⟩
    obtain ⟨keeps, reads⟩ :=
      runKeygen_sound recordedTexts_sound (keygenFor (lit "key2")) drawnKey keyFolder
    have kept := keeps rfl (lit "key") _ (by decide) older
    rw [ran] at kept
    obtain ⟨key, id, same, -, pub⟩ := (reads ⟨by decide, by decide⟩ _ _ last ran).1 (by decide)
    cases same
    exact ⟨last, ran, kept, pub⟩
  · obtain ⟨last, ran⟩ : ∃ last, runKeygen recordedTexts (keygenFor (lit "key")) drawnKey keyFolder =
        (.error ⟨"refusing to overwrite existing file: %s (use --force)", [.str (lit "key")]⟩, last) :=
      ⟨_, rfl⟩
    have kept := (runKeygen_sound recordedTexts_sound (keygenFor (lit "key")) drawnKey keyFolder).1
      rfl (lit "key") _ (by decide) older
    rw [ran] at kept
    exact ⟨last, ran, kept⟩

end ShadowNet
