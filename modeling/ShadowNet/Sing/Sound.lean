import ShadowNet.Go.Json.Relaid
import ShadowNet.Go.Json.Reread
import ShadowNet.Sing.Render

/-! # What a rendered configuration says

The checks of an outbound leave it with a known type, a sound server and the credentials of its type,
and find nothing to change in what they have let through. Read back, the configuration that is
written has that outbound in front of the two fixed ones, and the fixed sections around them.
-/

namespace ShadowNet

open Go Go.Json

/-! ## Checks -/

/-- What an outbound of a type must have beside its server. -/
def requiredCredentials (typ : GoString) : List String :=
  if typ = lit "vless" then ["uuid", "flow"]
  else if typ = lit "hysteria2" then ["password"]
  else if typ = lit "tuic" then ["uuid", "password"]
  else []

theorem checkCredentials_eq_ok {typ : GoString} {obj : JsonObject} {checked : Unit} :
    checkCredentials typ obj = .ok checked ↔ ∀ name ∈ requiredCredentials typ,
      isBlank (asString (Map.findIn (lit name) obj)) = false := by
  unfold checkCredentials requiredCredentials
  split_ifs
  · simp only [bind_eq_ok, require_eq_ok, exists_const]
    simp
  · simp only [require_eq_ok]
    simp
  · simp only [require_eq_ok]
    simp
  · simp

/-! ## Reading the outbound back -/

theorem cleanHost_cleanHost (host : GoString) : cleanHost (cleanHost host) = cleanHost host := by
  rw [cleanHost, cleanHost, ← trimSpace_toLower, toLower_toLower, trimSpace_trimSpace]

theorem toLower_cleanHost (host : GoString) : toLower (cleanHost host) = cleanHost host := by
  rw [cleanHost, ← trimSpace_toLower, toLower_toLower]

theorem valid_cleanHost (host : GoString) : Valid (cleanHost host) := (valid_toLower _).trimSpace

/-- The port of an outbound is in range. -/
theorem toSafePort_range {value : Option Any} {port : Int64} (sound : toSafePort value = some port) :
    1 ≤ port.toInt ∧ port.toInt ≤ 65535 := by
  unfold toSafePort at sound
  split at sound
  · obtain ⟨p, -, sound⟩ := Option.bind_eq_some_iff.mp sound
    split_ifs at sound with range
    cases sound
    rw [Int64.toInt_ofInt_of_le (by omega) (by omega)]
    exact range
  · split_ifs at sound with range
    cases sound
    exact portRange range
  · cases sound

/-- It stands for itself, as an int and as the number that this is read back as. -/
theorem reread_port {port : Int64} (range : 1 ≤ port.toInt ∧ port.toInt ≤ 65535) :
    Any.ofValue (Any.int port).toValue = some (.float (Float64.whole port.toInt.toNat)) ∧
      toSafePort (some (.float (Float64.whole port.toInt.toNat))) = some port := by
  constructor
  · rw [Any.toValue, Any.ofValue, Float64.parse_itoa (by omega) (by omega), Option.map_some]
  · have value : ((port.toInt.toNat : ℕ) : ℤ) = port.toInt := Int.toNat_of_nonneg (by omega)
    rw [toSafePort, Float64.toInt?_whole (by omega), Option.bind_some, value, if_pos range,
      Int64.ofInt_toInt]

theorem read_insertIn {entries : JsonObject} (read : (Any.obj entries).Read) {key : GoString}
    (named : Valid key) {value : Any} (own : value.Read) :
    (Any.obj (Map.insertIn key value entries)).Read := by
  cases read with
  | obj sorted names each =>
    refine .obj (Map.sorted_insertIn sorted) (fun entry member => ?_) fun entry member => ?_
    · rcases Map.mem_insertIn member with rfl | old
      · exact named
      · exact names entry old
    · rcases Map.mem_insertIn member with rfl | old
      · exact own
      · exact each entry old

/-- An entry with an int in it is written like one with the number that this is read back as. -/
theorem reread_insertIn {entries : JsonObject} (read : (Any.obj entries).Read) {key : GoString}
    (named : Valid key) {value own : Any} (wire : value.toValue.Wire)
    (reads : Any.ofValue value.toValue = some own) :
    Any.ofValue (Any.obj (Map.insertIn key value entries)).toValue =
        some (.obj (Map.insertIn key own entries)) ∧
      (Any.obj (Map.insertIn key value entries)).toValue.Wire := by
  cases read with
  | obj sorted names each =>
    have same : List.Forall₂ (fun entry read : GoString × Any => entry.1 = read.1 ∧
        Any.ofValue entry.2.toValue = some read.2) entries entries :=
      List.forall₂_same.mpr fun entry member => ⟨rfl, ofValue_toValue (each entry member)⟩
    constructor
    · have agrees := @Map.forall₂_insertIn _ _ _ _
        (fun (value read : Any) => Any.ofValue value.toValue = some read) _ _ same key _ _ reads
      rw [Any.toValue, Any.ofValue, ofMembers_toMembers (Map.sorted_insertIn sorted) agrees,
        Option.map_some]
    · rw [Any.toValue, toMembers_eq]
      apply wireMembers_iff.mpr
      intro member inside
      obtain ⟨entry, listed, rfl⟩ := List.mem_map.mp inside
      rcases Map.mem_insertIn listed with rfl | old
      · exact ⟨named, wire⟩
      · exact ⟨names entry old, (each entry old).wire⟩

/-! ## Sound outbounds -/

/-- What sing-box reads as an outbound that has passed the checks. -/
structure SoundOutbound (typ : GoString) (proxy : JsonObject) : Prop where
  known : typ ∈ outboundTypeAllowlist
  typed : Map.findIn (lit "type") proxy = some (.str typ)
  tagged : Map.findIn (lit "tag") proxy = some (.str (lit "proxy"))
  server : typ ≠ lit "direct" → ∃ host, Map.findIn (lit "server") proxy = some (.str host) ∧
    isSafeHost host = true ∧ toLower host = host
  port : typ ≠ lit "direct" → ∃ number port, Map.findIn (lit "server_port") proxy = some (.float number) ∧
    number.toInt? = some port ∧ 1 ≤ port ∧ port ≤ 65535
  credentials : ∀ name ∈ requiredCredentials typ, ∃ text,
    Map.findIn (lit name) proxy = some (.str text) ∧ isBlank text = false

theorem sound_credentials {typ : GoString} {proxy : JsonObject}
    (checks : checkCredentials typ proxy = .ok ()) : ∀ name ∈ requiredCredentials typ, ∃ text,
      Map.findIn (lit name) proxy = some (.str text) ∧ isBlank text = false := by
  intro name required
  have filled := checkCredentials_eq_ok.mp checks name required
  unfold asString at filled
  split at filled
  · next text held => exact ⟨text, held, filled⟩
  · cases filled

/-- No credential is the port. -/
theorem credential_not_port {typ : GoString} {name : String} (required : name ∈ requiredCredentials typ) :
    lit "server_port" ≠ lit name := by
  have listed : name ∈ ["uuid", "flow", "password"] := by
    unfold requiredCredentials at required
    split_ifs at required <;> simp only [List.mem_cons, List.not_mem_nil, or_false] at required ⊢ <;>
      tauto
  have each : ∀ name ∈ ["uuid", "flow", "password"], lit "server_port" ≠ lit name := by decide
  exact each name listed

/-- What has passed the checks is read back as a sound outbound, which passes them unchanged. -/
theorem reread_outbound {obj outbound : JsonObject} (read : (Any.obj obj).Read)
    (checked : checkOutbound obj = .ok outbound) : ∃ typ proxy,
      Any.ofValue (Any.obj outbound).toValue = some (.obj proxy) ∧
        (Any.obj outbound).toValue.Wire ∧ SoundOutbound typ proxy ∧ checkOutbound proxy = .ok outbound := by
  obtain ⟨typ, known, clean, cleans, checks⟩ := checkOutbound_eq_ok.mp checked
  have fixed : trimSpace (toLower typ) = typ := by
    rw [clean]
    exact cleanHost_cleanHost _
  have named (name : String) (ascii : (lit name).all (·.toNat < 0x80) = true) : Valid (lit name) :=
    Ascii.valid (forall_mem_of_all ascii)
  have base : (Any.obj (Map.insertIn (lit "tag") (.str (lit "proxy"))
      (Map.insertIn (lit "type") (.str typ) obj))).Read := by
    refine read_insertIn (read_insertIn read (named _ (by decide)) (.str ?_)) (named _ (by decide))
      (.str (named _ (by decide)))
    rw [clean]
    exact (valid_toLower _).trimSpace
  rcases cleanServer_eq_ok.mp cleans with ⟨direct, rfl⟩ | ⟨proxied, host, port, held, safe, sound, rfl⟩
  · refine ⟨typ, _, ofValue_toValue base, base.wire, ⟨known, ?_, Map.findIn_insertIn_self .., ?_, ?_,
      sound_credentials checks⟩, checkOutbound_eq_ok.mpr ⟨typ, known, ?_,
        cleanServer_eq_ok.mpr (.inl ⟨direct, ?_⟩), checks⟩⟩
    · rw [Map.findIn_insertIn_of_ne (by decide), Map.findIn_insertIn_self]
    · exact fun proxied => absurd direct proxied
    · exact fun proxied => absurd direct proxied
    · rw [Map.findIn_insertIn_of_ne (by decide), Map.findIn_insertIn_self]
      exact fixed.symm
    · cases base with
      | obj sorted =>
        apply Map.entries_ext sorted (Map.sorted_insertIn (Map.sorted_insertIn sorted))
        intro key
        simp only [Map.findIn_insertIn]
        split_ifs <;> rfl
  · have range := toSafePort_range sound
    obtain ⟨reads, safePort⟩ := reread_port range
    have server := read_insertIn base (named "server" (by decide)) (.str (valid_cleanHost host))
    obtain ⟨reread, wire⟩ := reread_insertIn server (named "server_port" (by decide))
      (show (Any.int port).toValue.Wire from isNumber_itoa port.toInt) reads
    refine ⟨typ, _, reread, wire, ⟨known, ?_, ?_, fun _ => ?_, fun _ => ?_, fun name required => ?_⟩, ?_⟩
    · rw [Map.findIn_insertIn_of_ne (by decide), Map.findIn_insertIn_of_ne (by decide),
        Map.findIn_insertIn_of_ne (by decide), Map.findIn_insertIn_self]
    · rw [Map.findIn_insertIn_of_ne (by decide), Map.findIn_insertIn_of_ne (by decide),
        Map.findIn_insertIn_self]
    · refine ⟨cleanHost host, ?_, safe, toLower_cleanHost host⟩
      rw [Map.findIn_insertIn_of_ne (by decide), Map.findIn_insertIn_self]
    · refine ⟨_, port.toInt, Map.findIn_insertIn_self .., ?_, range⟩
      rw [Float64.toInt?_whole (by omega), Int.toNat_of_nonneg (by omega)]
    · obtain ⟨text, held, filled⟩ := sound_credentials checks name required
      refine ⟨text, ?_, filled⟩
      rw [Map.findIn_insertIn_of_ne (credential_not_port required)] at held ⊢
      exact held
    · refine checkOutbound_eq_ok.mpr ⟨typ, known, ?_, cleanServer_eq_ok.mpr (.inr ⟨proxied, cleanHost host,
        port, ?_, ?_, ?_, ?_⟩), checks⟩
      · rw [Map.findIn_insertIn_of_ne (by decide), Map.findIn_insertIn_of_ne (by decide),
          Map.findIn_insertIn_of_ne (by decide), Map.findIn_insertIn_self]
        exact fixed.symm
      · rw [Map.findIn_insertIn_of_ne (by decide), Map.findIn_insertIn_of_ne (by decide),
          Map.findIn_insertIn_of_ne (by decide), Map.findIn_insertIn_self]
      · rw [cleanHost_cleanHost]
        exact safe
      · rw [Map.findIn_insertIn_of_ne (by decide), Map.findIn_insertIn_of_ne (by decide),
          Map.findIn_insertIn_self]
        exact safePort
      · rw [cleanHost_cleanHost]
        cases server with
        | obj sorted =>
          refine Map.entries_ext (Map.sorted_insertIn sorted) (Map.sorted_insertIn (Map.sorted_insertIn
            (Map.sorted_insertIn (Map.sorted_insertIn (Map.sorted_insertIn sorted))))) fun key => ?_
          simp only [Map.findIn_insertIn]
          split_ifs <;> rfl

/-! ## Written and checked again -/

theorem depth_entry {entries : JsonObject} {entry : GoString × Any} (member : entry ∈ entries) :
    entry.2.toValue.depth + 1 ≤ (Any.obj entries).toValue.depth := by
  rw [Any.toValue.eq_7, toMembers_eq]
  have inside : (entry.1, entry.2.toValue) ∈
      entries.map fun entry : GoString × Any => (entry.1, entry.2.toValue) :=
    List.mem_map.mpr ⟨entry, member, rfl⟩
  exact Nat.succ_le_succ (depth_le_members inside)

theorem depth_obj_le {entries : JsonObject} {bound : ℕ}
    (each : ∀ entry ∈ entries, entry.2.toValue.depth + 1 ≤ bound + 1) :
    (Any.obj entries).toValue.depth ≤ bound + 1 := by
  rw [Any.toValue, toMembers_eq]
  refine Nat.succ_le_succ (depthMembers_le fun member inside => ?_)
  obtain ⟨entry, listed, rfl⟩ := List.mem_map.mp inside
  exact Nat.le_of_succ_le_succ (each entry listed)

theorem depth_insertIn {key : GoString} {value : Any} {entries : JsonObject}
    (flat : value.toValue.depth = 0) :
    (Any.obj (Map.insertIn key value entries)).toValue.depth ≤ (Any.obj entries).toValue.depth := by
  obtain ⟨bound, same⟩ : ∃ bound, (Any.obj entries).toValue.depth = bound + 1 := ⟨_, rfl⟩
  rw [same]
  apply depth_obj_le
  intro entry member
  rcases Map.mem_insertIn member with rfl | old
  · rw [flat]
    omega
  · exact same ▸ depth_entry old

/-- The checks put in no containers. -/
theorem depth_checkOutbound {obj outbound : JsonObject} (checked : checkOutbound obj = .ok outbound) :
    (Any.obj outbound).toValue.depth ≤ (Any.obj obj).toValue.depth := by
  obtain ⟨typ, -, -, cleans, -⟩ := checkOutbound_eq_ok.mp checked
  have base : (Any.obj (Map.insertIn (lit "tag") (.str (lit "proxy"))
      (Map.insertIn (lit "type") (.str typ) obj))).toValue.depth ≤ (Any.obj obj).toValue.depth :=
    (depth_insertIn rfl).trans (depth_insertIn rfl)
  rcases cleanServer_eq_ok.mp cleans with ⟨-, rfl⟩ | ⟨-, host, port, -, -, -, rfl⟩
  · exact base
  · exact ((depth_insertIn rfl).trans (depth_insertIn rfl)).trans base

/-- The outbound that is taken out of a value is that value or stands inside it. -/
theorem extractOutboundObject_read {raw : Any} {obj : JsonObject}
    (extracted : extractOutboundObject raw = .ok obj) (read : raw.Read) :
    (Any.obj obj).Read ∧ (Any.obj obj).toValue.depth ≤ raw.toValue.depth := by
  unfold extractOutboundObject at extracted
  split at extracted
  · next entries =>
    split_ifs at extracted
    · cases extracted
      exact ⟨read, le_rfl⟩
    · split at extracted
      · next item held =>
        cases extracted
        cases read with
        | obj sorted named each =>
          have member := Map.mem_of_findIn held
          constructor
          · cases each _ member with
            | arr items => exact items _ (List.mem_singleton_self _)
          · have item : (Any.obj obj).toValue.depth ≤ (Any.arr [.obj obj]).toValue.depth := by
              rw [Any.toValue.eq_6, Any.toItems, Any.toItems]
              exact Nat.le_succ_of_le (depth_le_items (List.mem_singleton_self _))
            exact item.trans (Nat.le_of_succ_le (depth_entry member))
      · cases extracted
      · cases extracted
  · cases extracted

theorem validateRenderedOutbound_eq_ok {out : Bytes} {outbound : JsonObject}
    (passed : validateRenderedOutbound out = .ok outbound) : ∃ obj, (Any.obj obj).Read ∧
      (Any.obj obj).toValue.depth ≤ maxNestingDepth ∧ checkOutbound obj = .ok outbound := by
  unfold validateRenderedOutbound at passed
  split at passed
  · cases passed
  · next raw unmarshals =>
    obtain ⟨value, parsed, reads⟩ := Option.bind_eq_some_iff.mp unmarshals
    obtain ⟨obj, extracted, checked⟩ := bind_eq_ok.mp passed
    obtain ⟨read, shallower⟩ :=
      extractOutboundObject_read extracted (ofValue_read value (parse_wire parsed) raw reads)
    have room : (Any.obj obj).toValue.depth ≤ maxNestingDepth :=
      calc (Any.obj obj).toValue.depth
        _ ≤ raw.toValue.depth := shallower
        _ ≤ value.depth := depth_ofValue value raw reads
        _ ≤ maxNestingDepth := parse_depth parsed
    exact ⟨obj, read, room, checked⟩

/-- The checks find nothing to change in what they have let through. -/
theorem validateRenderedOutbound_again {out : Bytes} {outbound : JsonObject}
    (passed : validateRenderedOutbound out = .ok outbound) :
    validateRenderedOutbound (marshalAny (.obj outbound)) = .ok outbound := by
  obtain ⟨obj, read, room, checked⟩ := validateRenderedOutbound_eq_ok passed
  obtain ⟨typ, proxy, rereads, wire, sound, again⟩ := reread_outbound read checked
  have unmarshals : unmarshalAny (marshalAny (.obj outbound)) = some (.obj proxy) := by
    rw [unmarshalAny, marshalAny, wire.parse ((depth_checkOutbound checked).trans room),
      Option.bind_some, rereads]
  rw [validateRenderedOutbound, unmarshals]
  refine bind_eq_ok.mpr ⟨proxy, ?_, again⟩
  rw [extractOutboundObject, if_pos (by rw [sound.typed, Option.isSome_some])]

/-! ## The configuration around it -/

/-- What is written and read again. -/
def ReadsAs (value : Value) (read : Any) : Prop :=
  value.Numeric ∧ Any.ofValue value.sanitize = some read

theorem ReadsAs.of_wire {value : Value} {read : Any} (wire : value.Wire)
    (reads : Any.ofValue value = some read) : ReadsAs value read := by
  refine ⟨Value.Wire.numeric value wire, ?_⟩
  rw [Value.Wire.sanitize value wire]
  exact reads

theorem ReadsAs.items {items : List Value} {list : List Any} (each : List.Forall₂ ReadsAs items list) :
    ReadsAs (.arr items) (.arr list) := by
  suffices both : NumericItems items ∧ Any.ofItems (sanitizeItems items) = some list by
    refine ⟨both.1, ?_⟩
    rw [Value.sanitize, Any.ofValue, both.2, Option.map_some]
  induction each with
  | nil => exact ⟨trivial, rfl⟩
  | cons own _ ih =>
    refine ⟨⟨own.1, ih.1⟩, ?_⟩
    rw [sanitizeItems, Any.ofItems, own.2, ih.2]
    rfl

/-- The same for a member of an object. -/
def MemberReadsAs (member : GoString × Value) (entry : GoString × Any) : Prop :=
  Valid member.1 ∧ member.1 = entry.1 ∧ ReadsAs member.2 entry.2

theorem ReadsAs.under {value : Value} {read : Any} (reads : ReadsAs value read) {key : GoString}
    (named : Valid key) : MemberReadsAs (key, value) (key, read) := ⟨named, rfl, reads⟩

theorem ReadsAs.str {text : GoString} : ReadsAs (.str text) (.str (toValid text)) := ⟨trivial, rfl⟩

/-- The members go into a map in the order that they are written in. -/
theorem ReadsAs.members {members : List (GoString × Value)} {entries : JsonObject}
    (each : List.Forall₂ MemberReadsAs members entries) :
    ReadsAs (.obj members) (.obj (entries.foldl (fun held entry => Map.insertIn entry.1 entry.2 held) [])) := by
  suffices both : NumericMembers members ∧ ∀ start, Any.ofMembers start (sanitizeMembers members) =
      some (entries.foldl (fun held entry => Map.insertIn entry.1 entry.2 held) start) by
    refine ⟨both.1, ?_⟩
    rw [Value.sanitize, Any.ofValue, both.2, Option.map_some]
  induction each with
  | nil => exact ⟨trivial, fun _ => rfl⟩
  | @cons member entry members entries own _ ih =>
    obtain ⟨key, value⟩ := member
    obtain ⟨entryKey, read⟩ := entry
    obtain ⟨named, same, reads⟩ := own
    obtain rfl : key = entryKey := same
    refine ⟨⟨reads.1, ih.1⟩, fun start => ?_⟩
    have valid : toValid key = key := named
    rw [sanitizeMembers, Any.ofMembers, reads.2, Option.bind_some, valid, ih.2]
    rfl

def fixedOutbound (name : String) : JsonObject :=
  [(lit "tag", .str (lit name)), (lit "type", .str (lit name))]

def dnsServer : Any :=
  .obj [(lit "address", .str (lit "https://1.1.1.1/dns-query")), (lit "detour", .str (lit "proxy")),
    (lit "tag", .str (lit "remote"))]

def dnsSection : Any :=
  .obj [(lit "rules", .arr [.obj [(lit "outbound", .str (lit "any")), (lit "server", .str (lit "remote"))]]),
    (lit "servers", .arr [dnsServer])]

def routeSection (isAndroid allowPrivateBypass : Bool) : Any :=
  .obj ([(lit "final", .str (lit "proxy"))] ++
    (if isAndroid then [(lit "override_android_vpn", .bool true)] else []) ++
    [(lit "rules", .arr (if allowPrivateBypass then
      [.obj [(lit "ip_is_private", .bool true), (lit "outbound", .str (lit "direct"))]] else []))])

/-- The sections of a configuration in the order that they are written in. -/
def sections (proxy : JsonObject) (inbounds : List Any) (route : Any) : JsonObject :=
  [(lit "log", .obj [(lit "level", .str (lit "error")), (lit "timestamp", .bool true)]),
    (lit "dns", dnsSection),
    (lit "inbounds", .arr inbounds),
    (lit "outbounds", .arr [.obj proxy, .obj (fixedOutbound "direct"), .obj (fixedOutbound "block")]),
    (lit "route", route)]

def sectionMap (proxy : JsonObject) (inbounds : List Any) (route : Any) : JsonObject :=
  (sections proxy inbounds route).foldl (fun held entry => Map.insertIn entry.1 entry.2 held) []

theorem reads_route (isAndroid allowPrivateBypass : Bool) :
    ReadsAs (routeConfig isAndroid allowPrivateBypass) (routeSection isAndroid allowPrivateBypass) := by
  constructor
  · cases isAndroid <;> cases allowPrivateBypass <;>
      simp [routeConfig, jsonText, Value.Numeric, NumericMembers, NumericItems]
  · cases isAndroid <;> cases allowPrivateBypass <;> rfl

theorem reads_tun (isAndroid : Bool) : ∃ read, ReadsAs (tunInbound isAndroid) read := by
  refine ⟨_, ?_, show _ = some _ from rfl⟩
  simp [tunInbound, jsonText, Value.Numeric, NumericMembers]

theorem reads_probe (host : GoString) {port : Int64} (range : 1 ≤ port.toInt ∧ port.toInt ≤ 65535) :
    ∃ read, ReadsAs (probeInbound host port) read := by
  obtain ⟨reads, -⟩ := reread_port range
  have own : ReadsAs (Any.int port).toValue (.float (Float64.whole port.toInt.toNat)) :=
    .of_wire (isNumber_itoa port.toInt) reads
  exact ⟨_, .members (.cons (ReadsAs.str.under (by decide)) (.cons (own.under (by decide))
    (.cons (ReadsAs.str.under (by decide)) (.cons (ReadsAs.str.under (by decide)) .nil))))⟩

theorem reads_config {outbound proxy : JsonObject} {inbounds : List Value} {list : List Any}
    {route : Value} {routes : Any} (wire : (Any.obj outbound).toValue.Wire)
    (reads : Any.ofValue (Any.obj outbound).toValue = some (.obj proxy))
    (inbound : List.Forall₂ ReadsAs inbounds list) (readsRoute : ReadsAs route routes) :
    ReadsAs (configValue outbound inbounds route) (.obj (sectionMap proxy list routes)) := by
  refine .members (.cons (ReadsAs.under ⟨?_, rfl⟩ (by decide)) (.cons (ReadsAs.under ⟨?_, rfl⟩
    (by decide)) (.cons ((ReadsAs.items inbound).under (by decide)) (.cons (ReadsAs.under (.items
      (.cons (.of_wire wire reads) (.cons ⟨?_, rfl⟩ (.cons ⟨?_, rfl⟩ .nil)))) (by decide))
        (.cons (readsRoute.under (by decide)) .nil)))))
  all_goals simp [jsonText, Value.Numeric, NumericMembers, NumericItems]

/-! ## Rendered configurations -/

theorem parseListenAddr_eq_ok {addr host : GoString} {port : Int64}
    (parsed : parseListenAddr addr = .ok (host, port)) : 1 ≤ port.toInt ∧ port.toInt ≤ 65535 := by
  unfold parseListenAddr at parsed
  split at parsed
  · cases parsed
  · split at parsed
    · next read sound =>
      by_cases range : 1 ≤ read ∧ read ≤ 65535
      · rw [if_pos range] at parsed
        cases parsed
        exact portRange range
      · rw [if_neg range] at parsed
        cases parsed
    · cases parsed

def probeInbounds (opts : RenderOptions) : Except Message (List Value) :=
  if opts.probeListenAddr = [] then .ok []
  else (parseListenAddr opts.probeListenAddr).map fun (host, port) => [probeInbound host port]

theorem buildBaseConfig_eq_ok {onAndroid : Bool} {outbound : JsonObject} {opts : RenderOptions}
    {cfgBytes : Bytes} : buildBaseConfig onAndroid outbound opts = .ok cfgBytes ↔
      ∃ probe, probeInbounds opts = .ok probe ∧ layOut (lit "  ") (encode (configValue outbound
        ((if opts.disableTun then [] else [tunInbound (opts.android || onAndroid)]) ++ probe)
        (routeConfig (opts.android || onAndroid) opts.allowPrivateBypass))) = some cfgBytes := by
  -- With `lay` in its place nothing is tempted to run the layout of the base configuration.
  obtain ⟨lay, same⟩ : ∃ lay, layOut (lit "  ") = lay := ⟨_, rfl⟩
  rw [buildBaseConfig, probeInbounds, same]
  split_ifs <;> simp only [bind_eq_ok] <;> refine exists_congr fun probe => and_congr_right fun _ => ?_
  all_goals split <;> simp_all

theorem probeInbounds_read {opts : RenderOptions} {probe : List Value}
    (listens : probeInbounds opts = .ok probe) : ∀ inbound ∈ probe, ∃ read, ReadsAs inbound read := by
  intro inbound member
  unfold probeInbounds at listens
  split_ifs at listens
  · cases listens
    cases member
  · obtain ⟨⟨host, port⟩, parsed, rfl⟩ := map_eq_ok.mp listens
    rw [List.mem_singleton.mp member]
    exact reads_probe host (parseListenAddr_eq_ok parsed)

/-- What is built around an outbound that reads as `proxy`. -/
theorem buildBaseConfig_read {onAndroid : Bool} {outbound proxy : JsonObject} {opts : RenderOptions}
    {cfgBytes : Bytes} (wire : (Any.obj outbound).toValue.Wire)
    (reads : Any.ofValue (Any.obj outbound).toValue = some (.obj proxy))
    (builds : buildBaseConfig onAndroid outbound opts = .ok cfgBytes) :
    ∃ inbounds isAndroid, unmarshalAny cfgBytes =
      some (.obj (sectionMap proxy inbounds (routeSection isAndroid opts.allowPrivateBypass))) := by
  obtain ⟨probe, listens, laid⟩ := buildBaseConfig_eq_ok.mp builds
  have readable : ∀ inbound ∈ (if opts.disableTun then [] else
      [tunInbound (opts.android || onAndroid)]) ++ probe, ∃ read, ReadsAs inbound read := by
    intro inbound member
    rcases List.mem_append.mp member with tun | probed
    · split_ifs at tun
      · cases tun
      · rw [List.mem_singleton.mp tun]
        exact reads_tun _
    · exact probeInbounds_read listens inbound probed
  choose! made own using readable
  obtain ⟨numeric, config⟩ := reads_config wire reads
    (List.forall₂_map_right_iff.mpr (List.forall₂_same.mpr own))
    (reads_route (opts.android || onAndroid) opts.allowPrivateBypass)
  have parsed := parse_encode_of_valid numeric (valid_of_layOut laid)
  rw [unmarshalAny, parse_layOut (forall_mem_of_all (by decide)) laid, parsed, Option.bind_some]
  exact ⟨_, _, config⟩

/-- What sing-box reads in a configuration that has been rendered. -/
structure SoundConfig (allowPrivateBypass : Bool) (cfg : Any) : Prop where
  /-- The outbounds are the proxy and the two fixed ones, and no other. -/
  outbounds : ∃ typ proxy direct block, SoundOutbound typ proxy ∧
    cfg.lookup [lit "outbounds"] = some (.arr [.obj proxy, .obj direct, .obj block]) ∧
      Map.findIn (lit "tag") direct = some (.str (lit "direct")) ∧
        Map.findIn (lit "tag") block = some (.str (lit "block"))
  final : cfg.lookup [lit "route", lit "final"] = some (.str (lit "proxy"))
  detours : ∃ server servers, cfg.lookup [lit "dns", lit "servers"] = some (.arr (server :: servers)) ∧
    ∀ each ∈ server :: servers, each.lookup [lit "detour"] = some (.str (lit "proxy"))
  /-- Without the option the route has no rule at all, one for private addresses included. -/
  bypass : allowPrivateBypass = false → cfg.lookup [lit "route", lit "rules"] = some (.arr [])

theorem findIn_sectionMap (key : GoString) (proxy : JsonObject) (inbounds : List Any) (route : Any) :
    Map.findIn key (sectionMap proxy inbounds route) =
      if lit "route" = key then some route
      else if lit "outbounds" = key then
        some (.arr [.obj proxy, .obj (fixedOutbound "direct"), .obj (fixedOutbound "block")])
      else if lit "inbounds" = key then some (.arr inbounds)
      else if lit "dns" = key then some dnsSection
      else if lit "log" = key then
        some (.obj [(lit "level", .str (lit "error")), (lit "timestamp", .bool true)])
      else none := by
  simp only [sectionMap, sections, List.foldl_cons, List.foldl_nil, Map.findIn_insertIn, Map.findIn]
  split_ifs <;> rfl

theorem sectionMap_sound {typ : GoString} {proxy : JsonObject} (sound : SoundOutbound typ proxy)
    (inbounds : List Any) (isAndroid allowPrivateBypass : Bool) : SoundConfig allowPrivateBypass
      (.obj (sectionMap proxy inbounds (routeSection isAndroid allowPrivateBypass))) := by
  refine ⟨⟨typ, proxy, fixedOutbound "direct", fixedOutbound "block", sound, ?_, rfl, rfl⟩, ?_,
    ⟨dnsServer, [], ?_, fun server member => ?_⟩, fun kept => ?_⟩
  · rw [Any.lookup, findIn_sectionMap, if_neg (by decide), if_pos rfl]
    rfl
  · rw [Any.lookup, findIn_sectionMap, if_pos rfl]
    rfl
  · rw [Any.lookup, findIn_sectionMap, if_neg (by decide), if_neg (by decide), if_neg (by decide),
      if_pos rfl]
    rfl
  · rw [List.mem_singleton.mp member]
    rfl
  · rw [Any.lookup, findIn_sectionMap, if_pos rfl, kept]
    cases isAndroid <;> rfl

/-- A configuration that is rendered is sound, and the checks find nothing to change in an outbound
that has passed them. -/
theorem renderConfigToFile_sound (engine : TextTemplate.Engine Profile) (onAndroid : Bool)
    (prof : Profile) (templateText : Bytes) (opts : RenderOptions) (writes : Bool) :
    (∀ cfgBytes, renderConfigToFile engine onAndroid prof templateText opts writes = .ok cfgBytes →
        ∃ cfg, unmarshalAny cfgBytes = some cfg ∧ SoundConfig opts.allowPrivateBypass cfg) ∧
      ∀ out outbound, validateRenderedOutbound out = .ok outbound →
        validateRenderedOutbound (marshalAny (.obj outbound)) = .ok outbound := by
  refine ⟨fun cfgBytes rendered => ?_, fun _ _ => validateRenderedOutbound_again⟩
  obtain ⟨outbound, renders, rendered⟩ := bind_eq_ok.mp rendered
  obtain ⟨pretty, builds, rendered⟩ := bind_eq_ok.mp rendered
  obtain ⟨-, rendered⟩ := require_bind_eq_ok.mp rendered
  cases rendered
  obtain ⟨-, text, -, passed⟩ := renderOutbound_eq_ok.mp renders
  obtain ⟨obj, read, -, checked⟩ := validateRenderedOutbound_eq_ok passed
  obtain ⟨typ, proxy, rereads, wire, sound, -⟩ := reread_outbound read checked
  obtain ⟨inbounds, isAndroid, config⟩ := buildBaseConfig_read wire rereads builds
  exact ⟨_, config, sectionMap_sound sound _ _ _⟩

/-- An outbound as a template may write it, with a type and a server in mixed case. -/
def tuicText : GoString :=
  lit "\x7b\"type\":\"TUIC\",\"server\":\"Example.com\",\"server_port\":443,\"uuid\":\"u\",\"password\":\"p\"\x7d"

def tuicUser : Profile where
  id := lit "p1"
  family := familyTUIC
  endpoint := { host := lit "h", port := 443 }

theorem tuicText_passes : (validateRenderedOutbound tuicText).toOption.isSome = true := by
  decide +kernel

theorem tuicText_renders : (renderConfigToFile (profileEngine fun _ _ => .error .parse) false tuicUser
    tuicText {} true).toOption.isSome = true := by
  decide +kernel

theorem renderConfigToFile_sound_tuic : ∃ cfgBytes cfg outbound,
    renderConfigToFile (profileEngine fun _ _ => .error .parse) false tuicUser tuicText {} true =
        .ok cfgBytes ∧
      unmarshalAny cfgBytes = some cfg ∧ SoundConfig false cfg ∧
      validateRenderedOutbound tuicText = .ok outbound ∧
      validateRenderedOutbound (marshalAny (.obj outbound)) = .ok outbound := by
  obtain ⟨cfgBytes, rendered⟩ := exists_ok tuicText_renders
  obtain ⟨outbound, passed⟩ := exists_ok tuicText_passes
  obtain ⟨sound, again⟩ :=
    renderConfigToFile_sound (profileEngine fun _ _ => .error .parse) false tuicUser tuicText {} true
  obtain ⟨cfg, read, config⟩ := sound cfgBytes rendered
  exact ⟨cfgBytes, cfg, outbound, rendered, read, config, passed, again _ _ passed⟩

end ShadowNet
