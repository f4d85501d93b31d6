import ShadowNet.Bundle.Verify
import ShadowNet.Go.Json.Any
import ShadowNet.Go.Json.Indent
import ShadowNet.Go.Netip

/-! # Rendering profiles

`renderOutbound` executes a template on a profile and checks the JSON object that comes out before it
is put into a configuration: its type must be a known one, its server and port must be sound, and
the credentials of its type must be there. Type, tag, server and port are rewritten on the way.
-/

namespace ShadowNet

open Go Go.Json

/-! ## Hosts -/

def isLabelByte (byte : UInt8) : Bool := isLowerLetter byte || isDigit byte

/-- `dnsLabelPattern`. -/
def isDnsLabel (label : GoString) : Bool :=
  label.length ≤ 63 && label.all (fun byte => isLabelByte byte || byte = 0x2D) &&
    (label.head?.map isLabelByte).getD false && (label.getLast?.map isLabelByte).getD false

def isSafeHost (host : GoString) : Bool :=
  if host = [] || 253 < host.length then false
  else parseAddrAccepts host || (splitOn 0x2E host).all isDnsLabel

def cleanHost (host : GoString) : GoString := trimSpace (toLower host)

def validateProfileForRender (prof : Profile) : Except Message Unit := do
  require (prof.family ∈ [familyReality, familyHysteria2, familyTUIC])
    ⟨"invalid profile for render: unsupported protocol", []⟩
  require (isSafeHost (cleanHost prof.endpoint.host) = true)
    ⟨"invalid profile for render: malformed endpoint host", []⟩
  require (1 ≤ prof.endpoint.port ∧ prof.endpoint.port ≤ 65535)
    ⟨"invalid profile for render: endpoint port out of range", []⟩

/-! ## Outbounds -/

/-- A `map[string]any`, as its entries in key order. -/
abbrev JsonObject := List (GoString × Any)

def outboundTypeAllowlist : List GoString := [lit "vless", lit "hysteria2", lit "tuic", lit "direct"]

def asString : Option Any → GoString
  | some (.str text) => text
  | _ => []

def extractOutboundObject : Any → Except Message JsonObject
  | .obj obj =>
      if (Map.findIn (lit "type") obj).isSome then .ok obj
      else
        match Map.findIn (lit "outbounds") obj with
        | some (.arr [.obj item]) => .ok item
        | some (.arr [_]) => .error ⟨"rendered outbound rejected: outbound must be object", []⟩
        | _ => .error ⟨"rendered outbound rejected: expected a single outbound", []⟩
  | _ => .error ⟨"rendered outbound rejected: root must be object", []⟩

/-- The port that a JSON value stands for, if it is a sound one. -/
def toSafePort : Option Any → Option Int64
  | some (.float t) =>
      t.toInt?.bind fun p => if 1 ≤ p ∧ p ≤ 65535 then some (Int64.ofInt p) else none
  | some (.int t) => if 1 ≤ t ∧ t ≤ 65535 then some t else none
  | _ => none

theorem portRange {port : Int64} (sound : 1 ≤ port ∧ port ≤ 65535) :
    1 ≤ port.toInt ∧ port.toInt ≤ 65535 := by
  simp only [Int64.le_iff_toInt_le] at sound
  exact sound

/-- The credentials that an outbound of a type must have. -/
def checkCredentials (typ : GoString) (obj : JsonObject) : Except Message Unit := do
  let missing (name : String) : Bool := isBlank (asString (Map.findIn (lit name) obj))
  if typ = lit "vless" then
    require (missing "uuid" = false) ⟨"rendered outbound rejected: missing vless uuid", []⟩
    require (missing "flow" = false) ⟨"rendered outbound rejected: missing vless flow", []⟩
  else if typ = lit "hysteria2" then
    require (missing "password" = false)
      ⟨"rendered outbound rejected: missing hysteria2 password", []⟩
  else if typ = lit "tuic" then
    require (missing "uuid" = false ∧ missing "password" = false)
      ⟨"rendered outbound rejected: missing tuic credentials", []⟩
  else .ok ()

/-- The server and the port of an outbound, rewritten unless it connects directly. -/
def cleanServer (typ : GoString) (obj : JsonObject) : Except Message JsonObject :=
  if typ = lit "direct" then .ok obj
  else
    match Map.findIn (lit "server") obj with
    | some (.str host) =>
        if isSafeHost (cleanHost host) then
          let obj := Map.insertIn (lit "server") (.str (cleanHost host)) obj
          match toSafePort (Map.findIn (lit "server_port") obj) with
          | some port => .ok (Map.insertIn (lit "server_port") (.int port) obj)
          | none => .error ⟨"rendered outbound rejected: invalid server_port", []⟩
        else .error ⟨"rendered outbound rejected: malformed server", []⟩
    | _ => .error ⟨"rendered outbound rejected: malformed server", []⟩

/-- The checks of an outbound, and the outbound as they rewrite it. -/
def checkOutbound (obj : JsonObject) : Except Message JsonObject := do
  let typ := trimSpace (toLower (asString (Map.findIn (lit "type") obj)))
  require (typ ∈ outboundTypeAllowlist) ⟨"rendered outbound rejected: unknown outbound type", []⟩
  let obj ← cleanServer typ
    (Map.insertIn (lit "tag") (.str (lit "proxy")) (Map.insertIn (lit "type") (.str typ) obj))
  checkCredentials typ obj
  return obj

/-- `validateRenderedOutbound` before it writes the object down. -/
def validateRenderedOutbound (out : Bytes) : Except Message JsonObject :=
  match unmarshalAny out with
  | none => .error ⟨"rendered outbound json invalid: %w", [.foreign]⟩
  | some raw => extractOutboundObject raw >>= checkOutbound

/-- The text that `renderOutbound` hands to the checks. -/
def executeTemplate (engine : TextTemplate.Engine Profile) (prof : Profile) (templateText : Bytes) :
    Except Message Bytes :=
  match engine.render templateText prof with
  | .error .parse => .error ⟨"failed to parse outbound template: %w", [.foreign]⟩
  | .error .execute => .error ⟨"failed to execute outbound template: %w", [.foreign]⟩
  | .ok out => .ok (trimSpace out)

/-- `renderOutbound`, up to the writing of its result. -/
def renderOutbound (engine : TextTemplate.Engine Profile) (prof : Profile) (templateText : Bytes) :
    Except Message JsonObject := do
  validateProfileForRender prof
  let out ← executeTemplate engine prof templateText
  require (valid out = true) ⟨"rendered outbound is not valid json", []⟩
  validateRenderedOutbound out

theorem validateProfileForRender_eq_ok {p : Profile} {checked : Unit} :
    validateProfileForRender p = .ok checked ↔
      p.family ∈ [familyReality, familyHysteria2, familyTUIC] ∧
        isSafeHost (cleanHost p.endpoint.host) = true ∧
        1 ≤ p.endpoint.port ∧ p.endpoint.port ≤ 65535 := by
  simp only [validateProfileForRender, bind_eq_ok, require_eq_ok, exists_const]

theorem executeTemplate_eq_ok {engine : TextTemplate.Engine Profile} {p : Profile}
    {templateText out : Bytes} : executeTemplate engine p templateText = .ok out ↔
      ∃ text, engine.render templateText p = .ok text ∧ out = trimSpace text := by
  unfold executeTemplate
  split <;> rename_i rendered <;> simp [rendered, eq_comm]

theorem cleanServer_eq_ok {typ : GoString} {obj cleaned : JsonObject} :
    cleanServer typ obj = .ok cleaned ↔ typ = lit "direct" ∧ cleaned = obj ∨
      typ ≠ lit "direct" ∧ ∃ host port, Map.findIn (lit "server") obj = some (.str host) ∧
        isSafeHost (cleanHost host) = true ∧
        toSafePort (Map.findIn (lit "server_port") obj) = some port ∧
        cleaned = Map.insertIn (lit "server_port") (.int port)
          (Map.insertIn (lit "server") (.str (cleanHost host)) obj) := by
  constructor
  · intro cleans
    by_cases direct : typ = lit "direct"
    · rw [cleanServer, if_pos direct] at cleans
      cases cleans
      exact .inl ⟨direct, rfl⟩
    refine .inr ⟨direct, ?_⟩
    rw [cleanServer, if_neg direct] at cleans
    split at cleans
    · next host held =>
      split_ifs at cleans with safe
      dsimp only at cleans
      rw [Map.findIn_insertIn, if_neg (by decide)] at cleans
      split at cleans
      · next port sound =>
        cases cleans
        exact ⟨host, port, held, safe, sound, rfl⟩
      · cases cleans
    · cases cleans
  · rintro (⟨direct, rfl⟩ | ⟨proxied, host, port, held, safe, sound, rfl⟩)
    · rw [cleanServer, if_pos direct]
    · rw [cleanServer, if_neg proxied, held]
      dsimp only
      rw [if_pos safe, Map.findIn_insertIn, if_neg (by decide), sound]

/-- The checks of an outbound, one by one. -/
theorem checkOutbound_eq_ok {obj outbound : JsonObject} : checkOutbound obj = .ok outbound ↔
    ∃ typ ∈ outboundTypeAllowlist, typ = trimSpace (toLower (asString (Map.findIn (lit "type") obj))) ∧
      cleanServer typ (Map.insertIn (lit "tag") (.str (lit "proxy"))
        (Map.insertIn (lit "type") (.str typ) obj)) = .ok outbound ∧
      checkCredentials typ outbound = .ok () := by
  simp only [checkOutbound, bind_eq_ok, require_eq_ok, pure_eq_ok, exists_const]
  constructor
  · rintro ⟨known, cleaned, cleans, ⟨⟩, checks, rfl⟩
    exact ⟨_, known, rfl, cleans, checks⟩
  · rintro ⟨typ, known, rfl, cleans, checks⟩
    exact ⟨known, outbound, cleans, (), checks, rfl⟩

/-- What passes the checks is JSON. -/
theorem validateRenderedOutbound_valid {out : Bytes} {outbound : JsonObject}
    (passed : validateRenderedOutbound out = .ok outbound) : valid out = true := by
  unfold validateRenderedOutbound at passed
  split at passed
  · cases passed
  · rename_i raw read
    obtain ⟨json, parsed, -⟩ := Option.bind_eq_some_iff.mp read
    rw [valid, parsed, Option.isSome_some]

/-- Rendering comes down to the checks of the profile and those of the outbound. -/
theorem renderOutbound_eq_ok {engine : TextTemplate.Engine Profile} {p : Profile}
    {templateText : Bytes} {outbound : JsonObject} :
    renderOutbound engine p templateText = .ok outbound ↔
      validateProfileForRender p = .ok () ∧ ∃ text, engine.render templateText p = .ok text ∧
        validateRenderedOutbound (trimSpace text) = .ok outbound := by
  unfold renderOutbound
  simp only [bind_eq_ok, require_eq_ok, exists_const, executeTemplate_eq_ok]
  constructor
  · rintro ⟨⟨⟩, checked, _, ⟨text, rendered, rfl⟩, -, passed⟩
    exact ⟨checked, text, rendered, passed⟩
  · rintro ⟨checked, text, rendered, passed⟩
    exact ⟨(), checked, _, ⟨text, rendered, rfl⟩, validateRenderedOutbound_valid passed, passed⟩

/-! ## Configurations -/

structure RenderOptions where
  probeListenAddr : GoString := []
  disableTun : Bool := false
  android : Bool := false
  allowPrivateBypass : Bool := false

/-- `net.SplitHostPort`. -/
def splitHostPort (hostport : GoString) : Option (GoString × GoString) :=
  -- What follows the last colon, and what stands before it.
  let port := (hostport.reverse.takeWhile (· ≠ 0x3A)).reverse
  let before := hostport.take (hostport.length - port.length - 1)
  if 0x3A ∉ hostport then none
  else
    match hostport with
    | 0x5B :: rest =>
        let host := rest.takeWhile (· ≠ 0x5D)
        -- The bracket must close right before the last colon, and be the only one.
        if before = 0x5B :: (host ++ [0x5D]) ∧ 0x5B ∉ rest ∧ 0x5D ∉ port then some (host, port)
        else none
    | _ =>
        if 0x3A ∈ before ∨ 0x5B ∈ hostport ∨ 0x5D ∈ hostport then none else some (before, port)

/-- `strconv.Atoi`. -/
def atoi (text : GoString) : Option Int64 :=
  (match text with
    | 0x2B :: digits => (parseNat digits).map fun value : ℕ => (value : ℤ)
    | text => parseInt text).bind int64OfInt?

def parseListenAddr (addr : GoString) : Except Message (GoString × Int64) :=
  match splitHostPort addr with
  | none =>
      .error ⟨"invalid probe listen addr %q (expected host:port): %w", [.str addr, .foreign]⟩
  | some (host, portStr) =>
      match atoi portStr with
      | some port =>
          if 1 ≤ port ∧ port ≤ 65535 then .ok (if host = [] then lit "127.0.0.1" else host, port)
          else .error ⟨"invalid probe listen port %q in %q", [.str portStr, .str addr]⟩
      | none => .error ⟨"invalid probe listen port %q in %q", [.str portStr, .str addr]⟩

def jsonText (value : String) : Value := .str (lit value)

/-- The `tun` inbound. -/
def tunInbound (isAndroid : Bool) : Value :=
  .obj [(lit "auto_route", .bool !isAndroid), (lit "inet4_address", jsonText "172.19.0.1/30"),
    (lit "interface_name", jsonText "tun0"), (lit "sniff", .bool true), (lit "stack", jsonText "system"),
    (lit "strict_route", .bool !isAndroid), (lit "tag", jsonText "tun-in"), (lit "type", jsonText "tun")]

def probeInbound (host : GoString) (port : Int64) : Value :=
  .obj [(lit "listen", .str host), (lit "listen_port", .num (itoa port.toInt)),
    (lit "tag", jsonText "probe-in"), (lit "type", jsonText "mixed")]

/-- The `route` section. -/
def routeConfig (isAndroid allowPrivateBypass : Bool) : Value :=
  .obj ([(lit "final", jsonText "proxy")] ++
    (if isAndroid then [(lit "override_android_vpn", .bool true)] else []) ++
    [(lit "rules", .arr (if allowPrivateBypass then
      [.obj [(lit "ip_is_private", .bool true), (lit "outbound", jsonText "direct")]] else []))])

def configValue (outbound : JsonObject) (inbounds : List Value) (route : Value) : Value :=
  .obj [(lit "log", .obj [(lit "level", jsonText "error"), (lit "timestamp", .bool true)]),
    (lit "dns", .obj [
      (lit "rules", .arr [.obj [(lit "outbound", jsonText "any"), (lit "server", jsonText "remote")]]),
      (lit "servers", .arr [.obj [(lit "address", jsonText "https://1.1.1.1/dns-query"),
        (lit "detour", jsonText "proxy"), (lit "tag", jsonText "remote")]])]),
    (lit "inbounds", .arr inbounds),
    (lit "outbounds", .arr [(Any.obj outbound).toValue,
      .obj [(lit "type", jsonText "direct"), (lit "tag", jsonText "direct")],
      .obj [(lit "type", jsonText "block"), (lit "tag", jsonText "block")]]),
    (lit "route", route)]

/-- `buildBaseConfig`; `onAndroid` tells the platform. -/
def buildBaseConfig (onAndroid : Bool) (outbound : JsonObject) (opts : RenderOptions) :
    Except Message Bytes := do
  let isAndroid := opts.android || onAndroid
  let tun := if opts.disableTun then [] else [tunInbound isAndroid]
  let probe ← if opts.probeListenAddr = [] then .ok []
    else (parseListenAddr opts.probeListenAddr).map fun (host, port) => [probeInbound host port]
  let raw := encode (configValue outbound (tun ++ probe)
    (routeConfig isAndroid opts.allowPrivateBypass))
  match layOut (lit "  ") raw with
  | some pretty => .ok pretty
  | none => .error ⟨"%w", [.foreign]⟩

/-- `RenderConfigToFileWithOptions`: the configuration that it writes, unless that fails. -/
def renderConfigToFile (engine : TextTemplate.Engine Profile) (onAndroid : Bool) (prof : Profile)
    (templateText : Bytes) (opts : RenderOptions) (writes : Bool) : Except Message Bytes := do
  let outbound ← renderOutbound engine prof templateText
  let cfgBytes ← buildBaseConfig onAndroid outbound opts
  require (writes = true) ⟨"%w", [.foreign]⟩
  return cfgBytes

end ShadowNet
