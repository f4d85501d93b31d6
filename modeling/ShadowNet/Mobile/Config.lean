import ShadowNet.Bundle.Verify
import ShadowNet.Profile.Store

/-! # The configuration of the mobile agent

`StartAgent` gets its configuration as JSON text. The fields that have defaults are filled in by
`validateConfig`, which every other entry point runs again on its own copy.
-/

namespace ShadowNet

open Go Go.Json

structure AgentConfig where
  stateDir : GoString := []
  masterKey : GoString := []
  templatesDir : GoString := []
  trustedSignerPubsB64 : GoString := []
  ageIdentity : GoString := []
  pollIntervalSec : Int64 := 0
  configPath : GoString := []
  usePi : Bool := false
  piEndpoint : GoString := []
  piCommand : GoString := []
  piTimeoutMS : Int64 := 0
  adaptiveMode : Bool := false
deriving DecidableEq

def AgentConfig.fields : List (StructField AgentConfig) :=
  [.of (lit "state_dir") (·.stateDir) (fun v c => { c with stateDir := v }) .string,
    .of (lit "master_key") (·.masterKey) (fun v c => { c with masterKey := v }) .string,
    .of (lit "templates_dir") (·.templatesDir) (fun v c => { c with templatesDir := v }) .string,
    .of (lit "trusted_signer_pub_b64url") (·.trustedSignerPubsB64)
      (fun v c => { c with trustedSignerPubsB64 := v }) .string,
    .of (lit "age_identity") (·.ageIdentity) (fun v c => { c with ageIdentity := v }) .string,
    .of (lit "poll_interval_sec") (·.pollIntervalSec) (fun v c => { c with pollIntervalSec := v })
      .int,
    .of (lit "config_path") (·.configPath) (fun v c => { c with configPath := v }) .string,
    .of (lit "use_pi") (·.usePi) (fun v c => { c with usePi := v }) .bool,
    .of (lit "pi_endpoint") (·.piEndpoint) (fun v c => { c with piEndpoint := v }) .string,
    .of (lit "pi_command") (·.piCommand) (fun v c => { c with piCommand := v }) .string,
    .of (lit "pi_timeout_ms") (·.piTimeoutMS) (fun v c => { c with piTimeoutMS := v }) .int,
    .of (lit "adaptive_mode") (·.adaptiveMode) (fun v c => { c with adaptiveMode := v }) .bool]

def AgentConfig.codec : Codec AgentConfig := .struct AgentConfig.fields

/-- `validateConfig`: an error, or the configuration with its defaults. -/
def validateConfig (cfg : AgentConfig) : Except Message AgentConfig := do
  require (isBlank cfg.stateDir = false) ⟨"missing state_dir", []⟩
  let _ ← (parseMasterKey cfg.masterKey).mapError fun text =>
    (⟨"invalid master_key: %w", [.err text]⟩ : Message)
  require (isBlank cfg.templatesDir = false) ⟨"missing templates_dir", []⟩
  let pollIntervalSec := if cfg.pollIntervalSec ≤ 0 then 20 else cfg.pollIntervalSec
  let pollIntervalSec := if pollIntervalSec < 10 then 10 else pollIntervalSec
  let pollIntervalSec := if 300 < pollIntervalSec then 300 else pollIntervalSec
  return { cfg with
    pollIntervalSec
    piTimeoutMS := if cfg.piTimeoutMS ≤ 0 then 1200 else cfg.piTimeoutMS
    piCommand := if isBlank cfg.piCommand then lit "pi" else cfg.piCommand }

/-- Whether `raw["adaptive_mode"]` is there; the error of reading into `raw` is dropped. -/
def namesAdaptiveMode (config : GoString) : Bool :=
  match parse config with
  | some (.obj members) => members.any fun member => member.1 = lit "adaptive_mode"
  | _ => false

/-- What `StartAgent` makes of its argument. -/
def parseConfig (config : GoString) : Except Message AgentConfig :=
  match unmarshal AgentConfig.codec {} config with
  | none => .error ⟨"invalid config: %v", [.foreign]⟩
  | some cfg =>
      validateConfig (if namesAdaptiveMode config then cfg else { cfg with adaptiveMode := true })

def isKeySeparator (byte : UInt8) : Bool := byte ∈ [0x2C, 0x0A, 0x0D, 0x09, 0x20]

/-- `strings.FieldsFunc` at the separators of a list of keys. -/
def keyFields (keysCSV : GoString) : List GoString :=
  (keysCSV.splitOnP isKeySeparator).filter (· ≠ [])

def parseTrustedSignerKey (field : GoString) : Except Message PublicKey :=
  match Base64.decode (trimSpace field) with
  | none => .error ⟨"invalid signer public key: %w", [.foreign]⟩
  | some key =>
      if size : key.length = 32 then .ok ⟨key, size⟩
      else .error ⟨"invalid signer public key size", []⟩

def parseTrustedSignerKeys (keysCSV : GoString) : Except Message (List PublicKey) := do
  let keysCSV := trimSpace keysCSV
  require (keysCSV ≠ []) ⟨"missing trusted signer keys", []⟩
  (keyFields keysCSV).mapM parseTrustedSignerKey

/-- Validation fills in three fields and leaves the others alone. -/
theorem validateConfig_keeps {cfg ready : AgentConfig} (valid : validateConfig cfg = .ok ready) :
    ready = { cfg with
      pollIntervalSec := ready.pollIntervalSec
      piTimeoutMS := ready.piTimeoutMS
      piCommand := ready.piCommand } := by
  simp only [validateConfig, bind_eq_ok, require_eq_ok, exists_const, mapError_eq_ok, pure_eq_ok]
    at valid
  obtain ⟨-, -, -, -, rfl⟩ := valid
  rfl

end ShadowNet
