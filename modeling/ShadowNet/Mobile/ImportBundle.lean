import ShadowNet.Go.Path
import ShadowNet.Import.Replay
import ShadowNet.Import.StoreFiles
import ShadowNet.Mobile.Config

/-! # `ImportBundle`

Every call reads the shared configuration, opens the two stores in the state directory and makes an
importer of its own. What an importer has seen ends with the call, so that nothing in the process
remembers which bundles were imported.
-/

namespace ShadowNet

open Go Go.Json

/-- The packages that `ImportBundle` calls. -/
structure ImportPackages where
  suite : Suite
  engine : TextTemplate.Engine Profile
  aead : MasterKey → Aead
  /-- `age.ParseX25519Identity`. -/
  parseIdentity : GoString → Option suite.Identity

abbrev Disk := GoString → StoreFile

/-- `os.ReadFile`. -/
def Disk.read (disk : Disk) (path : GoString) : Option Bytes :=
  match disk path with
  | .holding contents => some contents
  | _ => none

/-- A call of `ImportBundle`, with the clocks and nonces it reads and the ends of its file operations. -/
structure BundleCall where
  path : GoString
  clock : Int64
  now : Int64
  nonce : Nonce
  templateNonce : Nonce
  mkdirFails : Bool
  templatesWrite : WriteAnswer
  profilesWrite : WriteAnswer

variable (packages : ImportPackages)

/-- What a call needs for `ProcessAndStore`. -/
structure OpenedImport where
  key : MasterKey
  profilesPath : GoString
  templatesPath : GoString
  payload : BundlePayload

/-- The part of `ImportBundle` before `ProcessAndStore`. -/
def BundleCall.opened (call : BundleCall) (cfg : AgentConfig) (disk : Disk) :
    Except ImportFailure OpenedImport := do
  require (isBlank call.path = false) (.message ⟨"missing bundle path", []⟩)
  let cfg ← (validateConfig cfg).mapError .message
  let key ← (parseMasterKey cfg.masterKey).mapError fun text =>
    ImportFailure.message ⟨"invalid master_key: %w", [.err text]⟩
  require (call.mkdirFails = false) (.message ⟨"%w", [.foreign]⟩)
  let trustedKeys ← (parseTrustedSignerKeys cfg.trustedSignerPubsB64).mapError .message
  let some ageIdentity := packages.parseIdentity (trimSpace cfg.ageIdentity)
    | throw (.message ⟨"invalid age identity: %w", [.foreign]⟩)
  let importer := newImporter packages.suite trustedKeys (some ageIdentity)
  let payload ← (importer.importFile packages.engine (disk.read call.path) call.clock).2
  return {
    key
    profilesPath := pathJoin cfg.stateDir (lit "profiles.enc")
    templatesPath := pathJoin cfg.stateDir (lit "templates.enc")
    payload }

def BundleCall.store (call : BundleCall) (payload : BundlePayload) : StoreCall :=
  ⟨some payload, call.now, call.nonce, call.templateNonce, call.templatesWrite, call.profilesWrite⟩

/-- The stores of an import, as files on the disk. -/
def OpenedImport.files (opened : OpenedImport) (disk : Disk) : StoreFiles :=
  ⟨disk opened.profilesPath, some (disk opened.templatesPath)⟩

/-- The disk with the stores of an import written back. -/
def OpenedImport.write (opened : OpenedImport) (disk : Disk) (files : StoreFiles) : Disk :=
  Function.update (Function.update disk opened.templatesPath
    (files.templates.getD (disk opened.templatesPath))) opened.profilesPath files.profiles

/-- `ImportBundle`: the disk after the call, and what it returns. -/
def importBundle (call : BundleCall) (cfg : AgentConfig) (disk : Disk) :
    Disk × Except ImportFailure Unit :=
  match call.opened packages cfg disk with
  | .error failure => (disk, .error failure)
  | .ok opened =>
      let ran := (call.store opened.payload).run (packages.aead opened.key) (opened.files disk)
      (opened.write disk ran.1, ran.2)

/-! ## Runs of a process -/

/-- The configuration and the disk that the calls of a process share, and the bundle IDs imported. -/
structure Bridge where
  cfg : AgentConfig
  disk : Disk
  imported : List GoString

/-- A call of `ImportBundle`, or anything else that leaves a configuration and a disk. -/
inductive BridgeLabel where
  | importBundle (call : BundleCall)
  | other (cfg : AgentConfig) (disk : Disk)

/-- The ID of the bundle at the path of a call. -/
def BundleCall.givenID (call : BundleCall) (disk : Disk) : GoString :=
  (((disk.read call.path).bind fileBundle).bind bundleID).getD []

def bridgeStep (bridge : Bridge) : BridgeLabel → Bridge
  | .other cfg disk => { bridge with cfg, disk }
  | .importBundle call =>
      match importBundle packages call bridge.cfg bridge.disk with
      | (disk, .ok ()) =>
          { bridge with disk, imported := call.givenID bridge.disk :: bridge.imported }
      | (disk, .error _) => { bridge with disk }

/-- A trusted key of the configuration accepts the bundle, and the keys before the first that does so
have the publisher's id. -/
def Accepts (cfg : AgentConfig) (clock : Int64) (bundleBytes : Bytes) (payload : BundlePayload) :
    Prop :=
  ∃ keys identity key, parseTrustedSignerKeys cfg.trustedSignerPubsB64 = .ok keys ∧
    packages.parseIdentity (trimSpace cfg.ageIdentity) = some identity ∧ key ∈ keys ∧
    verifiedPayload packages.suite packages.engine bundleBytes key ⟨0, some identity, true⟩ clock =
      some payload ∧
    ∀ earlier ∈ triedKeys packages.suite packages.engine keys (some identity) bundleBytes clock,
      ed25519KeyID packages.suite earlier = ed25519KeyID packages.suite key

/-- The payload merges with what the profile store reads as, and can be written. -/
def Storable (cfg : AgentConfig) (disk : Disk) (call : BundleCall) (payload : BundlePayload) : Prop :=
  ∃ key, parseMasterKey cfg.masterKey = .ok key ∧
    (∃ updated, mergePayload (profilesOrNone (packages.aead key)
      (disk (pathJoin cfg.stateDir (lit "profiles.enc")))) payload call.now = .ok updated) ∧
    (payload.templates.entries ≠ [] → call.templatesWrite = .done) ∧ call.profilesWrite = .done

/-- What a call needs to import the bundle with the given ID. -/
structure Importable (cfg : AgentConfig) (disk : Disk) (call : BundleCall) (id : GoString) : Prop where
  path : isBlank call.path = false
  config : ∃ ready, validateConfig cfg = .ok ready
  directory : call.mkdirFails = false
  bundle : ∃ bundleBytes payload, (disk.read call.path).bind fileBundle = some bundleBytes ∧
    bundleID bundleBytes = some id ∧ Accepts packages cfg call.clock bundleBytes payload ∧
    Storable packages cfg disk call payload

/-- No call is given a bundle that it would import and whose ID has been imported. -/
def NoReplay (bridge : Bridge) (label : BridgeLabel) (_next : Bridge) : Prop :=
  ∀ call id, label = .importBundle call → Importable packages bridge.cfg bridge.disk call id →
    id ∉ bridge.imported

variable {packages} {call : BundleCall} {cfg : AgentConfig} {disk : Disk} {opened : OpenedImport}

/-- A call gets to its stores exactly when its configuration is usable and accepts the bundle at its
path. -/
theorem opened_eq_ok : call.opened packages cfg disk = .ok opened ↔
    isBlank call.path = false ∧ (∃ ready, validateConfig cfg = .ok ready) ∧
      parseMasterKey cfg.masterKey = .ok opened.key ∧ call.mkdirFails = false ∧
      opened.profilesPath = pathJoin cfg.stateDir (lit "profiles.enc") ∧
      opened.templatesPath = pathJoin cfg.stateDir (lit "templates.enc") ∧
      ∃ bundleBytes, (disk.read call.path).bind fileBundle = some bundleBytes ∧
        Accepts packages cfg call.clock bundleBytes opened.payload := by
  simp only [BundleCall.opened, bind_eq_ok, require_eq_ok, exists_const, mapError_eq_ok]
  constructor
  · rintro ⟨path, ready, valid, key, parsed, made, keys, trusted, ok⟩
    split at ok
    · rename_i identity named
      simp only [bind_eq_ok, pure_eq_ok] at ok
      obtain ⟨payload, imported, rfl⟩ := ok
      obtain ⟨bundleBytes, given, accepted⟩ := importFile_eq_ok.mp imported
      obtain ⟨signer, member, verified⟩ := parseBytes_sound accepted
      rw [validateConfig_keeps valid] at trusted named parsed ⊢
      exact ⟨path, ⟨ready, valid⟩, parsed, made, rfl, rfl, bundleBytes, given, keys, identity, signer,
        trusted, named, member, verified, triedKeys_ids verified accepted⟩
    · cases ok
  · rintro ⟨path, ⟨ready, valid⟩, parsed, made, profiles, templates, bundleBytes, given, keys,
      identity, signer, trusted, named, member, verified, ids⟩
    have accepted := parseBytes_finds member verified ids
    refine ⟨path, ready, valid, opened.key, ?_, made, keys, ?_, ?_⟩ <;>
      rw [validateConfig_keeps valid]
    · exact parsed
    · exact trusted
    · simp only [named, bind_eq_ok, pure_eq_ok]
      refine ⟨opened.payload, importFile_eq_ok.mpr ⟨bundleBytes, given, accepted⟩, ?_⟩
      rw [← profiles, ← templates]

/-- A payload that is imported has valid strings. -/
theorem opened_utf8 (ok : call.opened packages cfg disk = .ok opened) : opened.payload.Utf8 := by
  obtain ⟨-, -, -, -, -, -, _, -, _, _, _, -, -, -, verified, -⟩ := opened_eq_ok.mp ok
  exact verifiedPayload_utf8 verified

/-- A bundle that is accepted has an ID. -/
theorem Accepts.bundleID {clock : Int64} {bundleBytes : Bytes} {payload : BundlePayload}
    (accepts : Accepts packages cfg clock bundleBytes payload) :
    ∃ id, bundleID bundleBytes = some id := by
  obtain ⟨keys, identity, key, -, -, -, verified, -⟩ := accepts
  obtain ⟨wrapper, _, _, _, _, accepted, -⟩ := (verifiedPayload_eq_some packages.suite).mp verified
  exact ⟨wrapper.header.bundleID, by rw [ShadowNet.bundleID, accepted.parses]; rfl⟩

/-- `ImportBundle` succeeds exactly when it has what it needs for the bundle at its path. -/
theorem importBundle_eq_ok : (importBundle packages call cfg disk).2 = .ok () ↔
    ∃ id, Importable packages cfg disk call id := by
  constructor
  · intro succeeded
    unfold importBundle at succeeded
    cases ok : call.opened packages cfg disk with
    | error failure => rw [ok] at succeeded; cases succeeded
    | ok opened =>
      rw [ok] at succeeded
      obtain ⟨path, config, key, made, profiles, -, bundleBytes, given, accepts⟩ :=
        opened_eq_ok.mp ok
      obtain ⟨id, named⟩ := accepts.bundleID
      obtain ⟨passes, brought, written⟩ := StoreCall.run_eq_ok_iff.mp succeeded
      refine ⟨id, path, config, made, bundleBytes, opened.payload, given, named, accepts, opened.key,
        key, ?_, fun filled => brought ⟨rfl, opened.payload, rfl, filled⟩, written⟩
      by_contra none
      refine passes fun payload updated same merged => none ⟨updated, ?_⟩
      obtain rfl := Option.some.inj same
      rw [← profiles]
      exact merged
  · rintro ⟨id, path, config, made, bundleBytes, payload, given, -, accepts, key, parsed,
      ⟨updated, merged⟩, brought, written⟩
    have ok : call.opened packages cfg disk = .ok
        ⟨key, pathJoin cfg.stateDir (lit "profiles.enc"), pathJoin cfg.stateDir (lit "templates.enc"),
          payload⟩ :=
      opened_eq_ok.mpr ⟨path, config, parsed, made, rfl, rfl, bundleBytes, given, accepts⟩
    rw [importBundle, ok]
    refine StoreCall.run_eq_ok_iff.mpr ⟨fun refused => refused payload updated rfl merged, ?_, written⟩
    rintro ⟨-, other, same, filled⟩
    obtain rfl := Option.some.inj same
    exact brought filled

/-- The ID that is imported is the one in the file. -/
theorem Importable.givenID {id : GoString} (importable : Importable packages cfg disk call id) :
    call.givenID disk = id := by
  obtain ⟨bundleBytes, payload, given, named, -⟩ := importable.bundle
  rw [BundleCall.givenID, given, Option.bind_some, named, Option.getD_some]

/-- What a step adds to the imported IDs. -/
theorem bridgeStep_imported (bridge : Bridge) (label : BridgeLabel) :
    (bridgeStep packages bridge label).imported = bridge.imported ∧
        (∀ call id, label = .importBundle call →
          ¬ Importable packages bridge.cfg bridge.disk call id) ∨
      ∃ call id, label = .importBundle call ∧ Importable packages bridge.cfg bridge.disk call id ∧
        (bridgeStep packages bridge label).imported = id :: bridge.imported := by
  cases label with
  | other cfg disk => exact .inl ⟨rfl, nofun⟩
  | importBundle call =>
    cases ended : importBundle packages call bridge.cfg bridge.disk with
    | mk disk result =>
      cases result with
      | error failure =>
        refine .inl ⟨by simp only [bridgeStep, ended], ?_⟩
        rintro _ id ⟨⟩ importable
        have succeeded := importBundle_eq_ok.mpr ⟨id, importable⟩
        rw [ended] at succeeded
        cases succeeded
      | ok =>
        obtain ⟨id, importable⟩ := importBundle_eq_ok.mp (congrArg Prod.snd ended)
        exact .inr ⟨call, id, rfl, importable, by simp only [bridgeStep, ended, importable.givenID]⟩

/-- What has been imported is not forgotten in a run. -/
theorem imported_suffix {start last : Bridge} {labels : List BridgeLabel}
    (run : Run (fun bridge label next => next = bridgeStep packages bridge label) start labels last) :
    start.imported <:+ last.imported := by
  refine run.invariant (motive := fun bridge => start.imported <:+ bridge.imported)
    (List.suffix_refl _) ?_
  rintro bridge next label - kept rfl
  obtain ⟨same, -⟩ | ⟨call, id, -, -, added⟩ := bridgeStep_imported bridge label
  · rwa [same]
  · rw [added]
    exact kept.trans (List.suffix_cons _ _)

/-- A run imports no ID twice exactly when none of its calls is given a bundle again. -/
theorem imported_nodup_iff {start last : Bridge} {labels : List BridgeLabel}
    (run : Run (fun bridge label next => next = bridgeStep packages bridge label) start labels last)
    (distinct : start.imported.Nodup) :
    last.imported.Nodup ↔
      Always (fun bridge label next => next = bridgeStep packages bridge label) (NoReplay packages)
        start labels := by
  constructor
  · intro once
    induction run with
    | nil => trivial
    | @cons bridge next last label labels stepped rest ih =>
      have kept : next.imported.Nodup := once.sublist (imported_suffix rest).sublist
      rintro _ rfl
      obtain rfl := stepped
      refine ⟨?_, ih kept once⟩
      rintro call id rfl importable
      obtain ⟨-, refused⟩ | ⟨_, other, ⟨⟩, found, added⟩ :=
        bridgeStep_imported bridge (.importBundle call)
      · exact absurd importable (refused call id rfl)
      · obtain rfl := importable.givenID.symm.trans found.givenID
        rw [added] at kept
        exact (List.nodup_cons.mp kept).1
  · intro fresh
    refine fresh.invariant (motive := fun bridge : Bridge => bridge.imported.Nodup) run distinct ?_
    rintro bridge next label - distinct rfl once
    obtain ⟨same, -⟩ | ⟨call, id, given, importable, added⟩ := bridgeStep_imported bridge label
    · rwa [same]
    · rw [added]
      exact List.nodup_cons.mpr ⟨once call id given importable, distinct⟩

/-- One importer lets every bundle ID through at most once; a process that imports through
`ImportBundle` does so exactly in the runs in which no call is given a bundle again. -/
theorem imports_once_iff (packages : ImportPackages) :
    (∀ (importer : Importer packages.suite) calls,
        (parsedIDs packages.engine importer calls).Nodup) ∧
      ∀ cfg disk labels last,
        Run (fun bridge label next => next = bridgeStep packages bridge label) ⟨cfg, disk, []⟩
            labels last →
          (last.imported.Nodup ↔
            Always (fun bridge label next => next = bridgeStep packages bridge label)
              (NoReplay packages) ⟨cfg, disk, []⟩ labels) :=
  ⟨fun importer calls => (parsedIDs_nodup packages.engine importer calls).1,
    fun _ _ _ _ run => imported_nodup_iff run .nil⟩

/-! ## Bundles on record -/

/-- An unencrypted bundle is accepted by other packages too, if they verify its signature. -/
theorem Accepted.elsewhere {suite : Suite} (other : Suite) {engine : TextTemplate.Engine Profile}
    {bundleBytes : Bytes} {signer : PublicKey} {ageIdentity : Option suite.Identity} {now : Int64}
    {wrapper : Wrapper} {ciphertext signature text : Bytes} {decoded : BundlePayload}
    (accepted : Accepted suite engine bundleBytes signer ageIdentity now wrapper ciphertext
      signature text decoded) (plain : wrapper.header.cipher = cipherNone)
    (digest : other.sha256 signer.val = suite.sha256 signer.val)
    (verifies : other.verify signer (signedBytes wrapper.header ciphertext) signature = true)
    (identity : Option other.Identity) :
    Accepted other engine bundleBytes signer identity now wrapper ciphertext signature text
      decoded := by
  have id : ed25519KeyID other signer = ed25519KeyID suite signer := by
    rw [ed25519KeyID, ed25519KeyID, fingerprint16, fingerprint16, digest]
  refine { accepted with
    header := id ▸ accepted.header, signed := { accepted.signed with verifies }, opens := ?_ }
  obtain same | ⟨age, -⟩ := accepted.opens
  · exact .inl same
  · rw [plain] at age
    exact absurd age (by decide)

def recordedIdentity : GoString :=
  lit "AGE-SECRET-KEY-1QYQSZQGPQYQSZQGPQYQSZQGPQYQSZQGPQYQSZQGPQYQSZQGPQYQSZ9K4CN"

def recordedRecipient : GoString :=
  lit "age15nsf9y4k28p83wth93tf7hafhvfajp45d2mge80ems45gz0c5gys3me64l"

/-- The calls of a suite, and one age identity that decrypts nothing. -/
def identityCalls (calls : Suite) : Suite :=
  { calls with
    Identity := Unit
    Recipient := Unit
    recipient := id
    recipientString := fun _ => recordedRecipient
    parseRecipient := fun text => if text = recordedRecipient then some () else none
    encrypt := fun _ _ _ => none
    decrypt := fun _ _ => .error .header }

def identityPackages (calls : Suite) : ImportPackages where
  suite := identityCalls calls
  engine := plainEngine
  aead _ := clearAead
  parseIdentity text := if text = recordedIdentity then some () else none

def recordedConfig : AgentConfig :=
  { stateDir := lit "/state"
    masterKey := List.replicate 32 0x6B
    templatesDir := lit "/templates"
    trustedSignerPubsB64 := Base64.encode recordedKey.val
    ageIdentity := recordedIdentity
    pollIntervalSec := 20
    piCommand := lit "pi"
    piTimeoutMS := 1200 }

def recordedMasterKey : MasterKey := ⟨List.replicate 32 0x6B, rfl⟩

section

variable {calls : Suite} {bundleBytes : Bytes} {wrapper : Wrapper}
  {ciphertext signature text : Bytes} {decoded : BundlePayload}

/-- A file that begins with a brace is taken for a bundle. -/
theorem fileBundle_of_held (held : disk call.path = .holding bundleBytes)
    (brace : ∃ rest, bundleBytes = 0x7B :: rest) :
    (disk.read call.path).bind fileBundle = some bundleBytes := by
  obtain ⟨rest, rfl⟩ := brace
  rw [Disk.read, held]
  exact fileBundle_of_brace rest

/-- A call under the configuration on record opens an unencrypted bundle of the recorded signer. -/
theorem bundleCall_opened (path : isBlank call.path = false) (made : call.mkdirFails = false)
    (held : disk call.path = .holding bundleBytes) (brace : ∃ rest, bundleBytes = 0x7B :: rest)
    (accepted : Accepted calls plainEngine bundleBytes recordedKey none call.clock wrapper ciphertext
      signature text decoded) (plain : wrapper.header.cipher = cipherNone) :
    call.opened (identityPackages calls) recordedConfig disk =
      .ok ⟨recordedMasterKey, lit "/state/profiles.enc", lit "/state/templates.enc",
        decoded.sortTags⟩ := by
  have key : parseMasterKey recordedConfig.masterKey = .ok recordedMasterKey := by decide
  have valid : validateConfig recordedConfig = .ok recordedConfig := by decide
  have trusted : parseTrustedSignerKeys recordedConfig.trustedSignerPubsB64 = .ok [recordedKey] := by
    decide
  have trimmed : trimSpace recordedConfig.ageIdentity = recordedIdentity := by decide
  have identity : (identityPackages calls).parseIdentity (trimSpace recordedConfig.ageIdentity) =
      some () := by
    rw [trimmed]
    change (if recordedIdentity = recordedIdentity then some () else none) = some ()
    exact if_pos rfl
  have elsewhere : Accepted (identityCalls calls) plainEngine bundleBytes recordedKey (some ())
      call.clock wrapper ciphertext signature text decoded :=
    accepted.elsewhere (identityCalls calls) plain rfl accepted.signed.verifies (some ())
  have verified : verifiedPayload (identityCalls calls) plainEngine bundleBytes recordedKey
      ⟨0, some (), true⟩ call.clock = some decoded.sortTags :=
    (verifiedPayload_eq_some (identityCalls calls)).mpr
      ⟨wrapper, ciphertext, signature, text, decoded, elsewhere, rfl⟩
  have profiles : pathJoin recordedConfig.stateDir (lit "profiles.enc") =
      lit "/state/profiles.enc" := by decide
  have templates : pathJoin recordedConfig.stateDir (lit "templates.enc") =
      lit "/state/templates.enc" := by decide
  refine opened_eq_ok.mpr ⟨path, ⟨_, valid⟩, key, made, profiles.symm, templates.symm, bundleBytes,
    fileBundle_of_held held brace, [recordedKey], (), recordedKey, trusted, identity,
    List.mem_singleton_self recordedKey, verified, fun earlier member => ?_⟩
  rw [List.mem_singleton.mp ((List.takeWhile_sublist _).subset member)]

/-- What such a call leaves of the process, if its stores can be written. -/
theorem bridgeStep_opened {bridge : Bridge} {files : StoreFiles} (cfg : bridge.cfg = recordedConfig)
    (path : isBlank call.path = false) (made : call.mkdirFails = false)
    (held : bridge.disk call.path = .holding bundleBytes)
    (brace : ∃ rest, bundleBytes = 0x7B :: rest)
    (accepted : Accepted calls plainEngine bundleBytes recordedKey none call.clock wrapper ciphertext
      signature text decoded) (plain : wrapper.header.cipher = cipherNone)
    (ran : (call.store decoded.sortTags).run clearAead ⟨bridge.disk (lit "/state/profiles.enc"),
      some (bridge.disk (lit "/state/templates.enc"))⟩ = (files, .ok ())) :
    bridgeStep (identityPackages calls) bridge (.importBundle call) =
      ⟨bridge.cfg,
        Function.update (Function.update bridge.disk (lit "/state/templates.enc")
          (files.templates.getD (bridge.disk (lit "/state/templates.enc"))))
          (lit "/state/profiles.enc") files.profiles,
        wrapper.header.bundleID :: bridge.imported⟩ := by
  have named : call.givenID bridge.disk = wrapper.header.bundleID := by
    rw [BundleCall.givenID, fileBundle_of_held held brace, Option.bind_some, bundleID,
      accepted.parses]
    rfl
  have imported : importBundle (identityPackages calls) call bridge.cfg bridge.disk =
      (Function.update (Function.update bridge.disk (lit "/state/templates.enc")
        (files.templates.getD (bridge.disk (lit "/state/templates.enc"))))
        (lit "/state/profiles.enc") files.profiles, .ok ()) := by
    rw [importBundle, cfg, bundleCall_opened path made held brace accepted plain]
    change (OpenedImport.write _ _ ((call.store decoded.sortTags).run clearAead _).1,
      ((call.store decoded.sortTags).run clearAead _).2) = _
    rw [OpenedImport.files, ran, OpenedImport.write]
  simp only [bridgeStep, imported, named]

end

/-- A disk that holds the bundle on record and nothing else. -/
def recordedDisk : Disk := fun path =>
  if path = lit "/b1.snb" then .holding recordedBundle else .absent

def recordedBundleCall : BundleCall :=
  ⟨lit "/b1.snb", 1500, 1600, recordedImport.nonce, recordedImport.templateNonce, false, .done,
    .done⟩

theorem recordedBundle_brace : ∃ rest, recordedBundle = 0x7B :: rest := ⟨_, rfl⟩

/-! ## Two bundles, one after the other -/

/-- A payload that has nothing in common with the one on record. -/
def secondPayload : BundlePayload :=
  { recordedPayload with
    profiles := some
      [{  id := lit "p2"
          family := familyReality
          enabled := true
          createdAt := 900
          templateRef := lit "second"
          endpoint := ⟨lit "h2", 443, lit "dual"⟩
          capabilities := ⟨lit "tcp", none, []⟩
          credentials := ⟨lit "u", [], lit "k", lit "s", lit "n", lit "c", []⟩
          source := ⟨lit "list", 80, 900, recordedKeyID⟩ }]
    templates := (∅ : Map GoString Template).insert (lit "second") ⟨lit "\x7b\x7d"⟩ }

def secondSignature : Bytes :=
  (Base64.decode (lit
    "_FKRTYb-qNma_nMlwOkaFyX6Vaa_PvD1bHtbYPH9EZJ53LMIJsA_w8T4XVEDDkvxYXRA3qqwj3i2_tRg-rDxDg")).getD []

def secondHeader : BundleHeader :=
  { recordedHeader with bundleID := lit "b2", signature := Base64.encode secondSignature }

def secondBundle : Bytes :=
  marshal Wrapper.codec ⟨secondHeader, Base64.encode (marshalCanonicalPayload secondPayload)⟩

/-- The calls of the packages on record, for two bundles. -/
def pairCalls : Suite :=
  recordedSuite recordedKey
    [(recordedKey.val,
        (Base64.decode (lit "E545QOZLVJFyIIjZoNdBYo_IJuCUddNBp4Cs3jxLgHA")).getD []),
      (recordedBundle, (Base64.decode (lit "oQWT75w9udQQT0HFdEw-TRGTvW2_1O5mzuWKWwVl3Ac")).getD []),
      (secondBundle, (Base64.decode (lit "caJyfWmYtU3e2KQ6meovZGZF4OjTaL7XATyCeqGZrvw")).getD [])]
    [(signedBytes recordedHeader (marshalCanonicalPayload recordedPayload), recordedSignature),
      (signedBytes secondHeader (marshalCanonicalPayload secondPayload), secondSignature)]

/-- The first of the two bundles is accepted. -/
theorem pairBundle_first :
    Accepted pairCalls plainEngine recordedBundle recordedKey none 1500
      ⟨recordedHeader, Base64.encode (marshalCanonicalPayload recordedPayload)⟩
      (marshalCanonicalPayload recordedPayload) recordedSignature
      (marshalCanonicalPayload recordedPayload) recordedPayload :=
  recordedBundle_accepted.elsewhere pairCalls rfl (by simp [pairCalls, recordedCalls, recordedSuite])
    (by simp [pairCalls, recordedSuite]) none

/-- So is the second. -/
theorem pairBundle_second :
    Accepted pairCalls plainEngine secondBundle recordedKey none 1500
      ⟨secondHeader, Base64.encode (marshalCanonicalPayload secondPayload)⟩
      (marshalCanonicalPayload secondPayload) secondSignature
      (marshalCanonicalPayload secondPayload) secondPayload := by
  refine accepted_of_signed pairCalls rfl (by decide) ?_ ?_ (.inl ⟨rfl, rfl⟩)
    (by decide) (validatePayloadStrict_issues.mp (by decide))
  · have clean : headerIssues secondHeader (ed25519KeyID pairCalls recordedKey) 1500 (some [])
        (some []) = [] := by decide
    exact (headerIssues_eq_nil.mp clean).1
  · have other : (signedBytes secondHeader (marshalCanonicalPayload secondPayload) ==
        signedBytes recordedHeader (marshalCanonicalPayload recordedPayload)) = false := by
      decide
    simp [pairCalls, recordedSuite, List.lookup, other]

def pairDisk : Disk := fun path =>
  if path = lit "/b1.snb" then .holding recordedBundle
  else if path = lit "/b2.snb" then .holding secondBundle
  else .absent

def pairCall : Bool → BundleCall
  | false => recordedBundleCall
  | true => { recordedBundleCall with path := lit "/b2.snb" }

def pairPayload : Bool → BundlePayload
  | false => recordedPayload.sortTags
  | true => secondPayload.sortTags

/-- Each of the two calls gets to its stores. -/
theorem pairCall_opened {disk : Disk} (first : disk (lit "/b1.snb") = .holding recordedBundle)
    (second : disk (lit "/b2.snb") = .holding secondBundle) (i : Bool) :
    (pairCall i).opened (identityPackages pairCalls) recordedConfig disk =
      .ok ⟨recordedMasterKey, lit "/state/profiles.enc", lit "/state/templates.enc",
        pairPayload i⟩ := by
  cases i with
  | false => exact bundleCall_opened (by decide) rfl first ⟨_, rfl⟩ pairBundle_first rfl
  | true => exact bundleCall_opened (by decide) rfl second ⟨_, rfl⟩ pairBundle_second rfl

/-- A process imports two bundles, each for the first time. -/
theorem pairCalls_once : ∃ last,
    Run (fun bridge label next => next = bridgeStep (identityPackages pairCalls) bridge label)
      ⟨recordedConfig, pairDisk, []⟩
      [.importBundle (pairCall false), .importBundle (pairCall true)] last ∧
    last.imported = [lit "b2", lit "b1"] ∧
    Always (fun bridge label next => next = bridgeStep (identityPackages pairCalls) bridge label)
      (NoReplay (identityPackages pairCalls)) ⟨recordedConfig, pairDisk, []⟩
      [.importBundle (pairCall false), .importBundle (pairCall true)] := by
  have files : lit "/b2.snb" ≠ lit "/state/profiles.enc" ∧
      lit "/b2.snb" ≠ lit "/state/templates.enc" ∧
      lit "/state/templates.enc" ≠ lit "/state/profiles.enc" := by decide
  have ran : ((pairCall false).store recordedPayload.sortTags).run clearAead
      ⟨.absent, some .absent⟩ =
        ((((pairCall false).store recordedPayload.sortTags).run clearAead
          ⟨.absent, some .absent⟩).1, .ok ()) := Prod.ext rfl (by decide)
  have one := @bridgeStep_opened (pairCall false) _ _ _ _ _ _ _ ⟨recordedConfig, pairDisk, []⟩ _
    rfl (by decide) rfl rfl recordedBundle_brace pairBundle_first rfl ran
  have two := @bridgeStep_opened (pairCall true) _ _ _ _ _ _ _
    (bridgeStep (identityPackages pairCalls) ⟨recordedConfig, pairDisk, []⟩
      (.importBundle (pairCall false))) _
    (by rw [one]) (by decide) rfl (by
      rw [one]
      dsimp only [pairCall]
      rw [Function.update_of_ne files.1, Function.update_of_ne files.2.1]
      rfl) ⟨_, rfl⟩ pairBundle_second rfl (by
        rw [one]
        dsimp only
        rw [Function.update_self, Function.update_of_ne files.2.2, Function.update_self]
        exact Prod.mk.eta.symm.trans (congrArg (Prod.mk _) (by decide +kernel)))
  have run : Run (fun bridge label next => next = bridgeStep (identityPackages pairCalls) bridge label)
      ⟨recordedConfig, pairDisk, []⟩
      [.importBundle (pairCall false), .importBundle (pairCall true)] _ :=
    .cons rfl (.cons rfl (.nil _))
  have imported : (bridgeStep (identityPackages pairCalls)
      (bridgeStep (identityPackages pairCalls) ⟨recordedConfig, pairDisk, []⟩
        (.importBundle (pairCall false))) (.importBundle (pairCall true))).imported =
      [lit "b2", lit "b1"] := by
    rw [two, one]
    rfl
  refine ⟨_, run, imported, ((imports_once_iff _).2 _ _ _ _ run).mp ?_⟩
  rw [imported]
  decide

/-! ## The same bundle twice -/

/-- The process on record: its disk holds the bundle and the given stores. -/
structure Bridge.Recorded (bridge : Bridge) (stores : Stores) (file : Option Bytes) : Prop where
  cfg : bridge.cfg = recordedConfig
  bundle : bridge.disk (lit "/b1.snb") = .holding recordedBundle
  profiles : bridge.disk (lit "/state/profiles.enc") = .ofContents stores.profiles
  templates : stores.templates = some file ∧
    bridge.disk (lit "/state/templates.enc") = .ofContents file

/-- A call with the bundle on record does to the disk what the import does to the stores. -/
theorem Bridge.Recorded.step {bridge : Bridge} {stores next : Stores} {file : Option Bytes}
    (recorded : bridge.Recorded stores file)
    (stepped : ImportStep clearAead stores recordedImport next) :
    (bridgeStep (identityPackages recordedCalls) bridge (.importBundle recordedBundleCall)).imported =
        lit "b1" :: bridge.imported ∧
      ∃ file, (bridgeStep (identityPackages recordedCalls) bridge (.importBundle recordedBundleCall)).Recorded next
        file := by
  obtain ⟨cfg, bundle, profiles, templates, same⟩ := recorded
  obtain ⟨kept, filled⟩ : ∃ kept, next.templates = some kept := by
    obtain ⟨merge, -, done⟩ := bind_eq_ok.mp stepped
    obtain rfl := pure_eq_ok.mp done
    rw [templates]
    exact ⟨_, rfl⟩
  have ran : (recordedBundleCall.store recordedPayload.sortTags).run clearAead
      ⟨bridge.disk (lit "/state/profiles.enc"), some (bridge.disk (lit "/state/templates.enc"))⟩ =
        (next.onDisk, .ok ()) := by
    have whole := StoreCall.run_eq clearAead stores recordedImport
    rw [show processAndStore clearAead stores recordedImport = .ok next from stepped, Stores.onDisk,
      templates, Option.map_some] at whole
    rw [profiles, same]
    exact whole
  have files : lit "/b1.snb" ≠ lit "/state/profiles.enc" ∧
      lit "/b1.snb" ≠ lit "/state/templates.enc" ∧
      lit "/state/templates.enc" ≠ lit "/state/profiles.enc" := by decide
  rw [bridgeStep_opened cfg (by decide) rfl bundle recordedBundle_brace recordedBundle_accepted rfl ran]
  refine ⟨rfl, kept, cfg, ?_, ?_, filled, ?_⟩ <;> dsimp only
  · rw [Function.update_of_ne files.1, Function.update_of_ne files.2.1, bundle]
  · rw [Function.update_self]
    rfl
  · rw [Function.update_of_ne files.2.2, Function.update_self, Stores.onDisk, filled]
    rfl

/-- A process imports one bundle twice. -/
theorem imports_twice :
    ¬ ∀ last, Run (fun bridge label next => next = bridgeStep (identityPackages recordedCalls) bridge label)
        ⟨recordedConfig, recordedDisk, []⟩
        [.importBundle recordedBundleCall, .importBundle recordedBundleCall] last →
      last.imported.Nodup := by
  intro once
  obtain ⟨first, second, stepped, again⟩ := recordedImport_repeats (some none)
  have start : Bridge.Recorded ⟨recordedConfig, recordedDisk, []⟩ ⟨none, some none⟩ none :=
    ⟨rfl, rfl, rfl, rfl, rfl⟩
  obtain ⟨one, file, middle⟩ := start.step stepped
  obtain ⟨two, -⟩ := middle.step again
  have distinct := once _ (.cons rfl (.cons rfl (.nil _)))
  rw [two, one] at distinct
  exact absurd distinct (by decide)

end ShadowNet
