import Mathlib
import ShadowNet.Sing.Templates

/-! # Injection through spliced strings

An outbound has the host, the port and the credentials of its profile where the template puts them, if
no spliced string has a quote or a backslash. If one has, the heaviest such string is lost on the way,
so the outbound is not the one that the profile asks for.
-/

namespace ShadowNet

open Go Go.Json

/-! ## Credentials -/

inductive Credential where
  | uuid | password | publicKey | shortID | sni | utlsFingerprint | obfsPassword
deriving DecidableEq, Repr

def Credentials.get (c : Credentials) : Credential → GoString
  | .uuid => c.uuid
  | .password => c.password
  | .publicKey => c.publicKey
  | .shortID => c.shortID
  | .sni => c.sni
  | .utlsFingerprint => c.utlsFingerprint
  | .obfsPassword => c.obfsPassword

def Credentials.set (c : Credentials) (value : GoString) : Credential → Credentials
  | .uuid => { c with uuid := value }
  | .password => { c with password := value }
  | .publicKey => { c with publicKey := value }
  | .shortID => { c with shortID := value }
  | .sni => { c with sni := value }
  | .utlsFingerprint => { c with utlsFingerprint := value }
  | .obfsPassword => { c with obfsPassword := value }

/-- The profile with another value for one credential. -/
def Profile.withCredential (p : Profile) (credential : Credential) (value : GoString) : Profile :=
  { p with credentials := p.credentials.set value credential }

/-- Where the template of a family puts which credential. -/
def filled (family : Family) : List (List GoString × Credential) :=
  if family = familyReality then
    [([lit "uuid"], .uuid), ([lit "tls", lit "server_name"], .sni),
      ([lit "tls", lit "utls", lit "fingerprint"], .utlsFingerprint),
      ([lit "tls", lit "reality", lit "public_key"], .publicKey),
      ([lit "tls", lit "reality", lit "short_id"], .shortID)]
  else if family = familyHysteria2 then
    [([lit "password"], .password), ([lit "obfs", lit "password"], .obfsPassword),
      ([lit "tls", lit "server_name"], .sni)]
  else if family = familyTUIC then
    [([lit "uuid"], .uuid), ([lit "password"], .password), ([lit "tls", lit "server_name"], .sni)]
  else []

/-- The strings of a profile that the template of its family puts between quotes. -/
def Profile.spliced (p : Profile) : List GoString :=
  p.endpoint.host :: (filled p.family).map fun slot => p.credentials.get slot.2

def Profile.SplicesInert (p : Profile) : Prop := ∀ s ∈ p.spliced, Inert s

/-- The outbound has exactly the server, the port and the credentials of the profile. -/
structure Faithful (p : Profile) (outbound : JsonObject) : Prop where
  server : (Any.obj outbound).lookup [lit "server"] = some (.str (cleanHost p.endpoint.host))
  port : (Any.obj outbound).lookup [lit "server_port"] = some (.int p.endpoint.port)
  credentials : ∀ slot ∈ filled p.family,
    (Any.obj outbound).lookup slot.1 = some (.str (p.credentials.get slot.2))

/-- The outbound without what the template fills from a credential. -/
def withoutCredential (family : Family) (credential : Credential) (outbound : JsonObject) : Any :=
  (((filled family).filter fun slot => slot.2 = credential).map (·.1)).foldl
    (fun value path => value.blank path) (.obj outbound)

/-! ## Strings that are not inert -/

theorem below_cleanHost {bound : ℕ} (host : GoString) :
    Below bound (cleanHost host) ↔ Below bound host := by
  have light : Json.weight (cleanHost host) = Json.weight host := by
    rw [Json.weight, cleanHost, countP_trimSpace (fun _ own => own), countP_toLower (fun _ own => own)]
    rfl
  have inert : Inert (cleanHost host) ↔ Inert host := by
    rw [inert_iff, inert_iff, cleanHost, countP_trimSpace solid_of_special,
      countP_toLower solid_of_special]
  rw [Below, Below, light, inert]

theorem all_extracted {good : GoString → Prop} {raw : Any} {obj : JsonObject}
    (all : raw.toValue.All good) (extracted : extractOutboundObject raw = .ok obj) :
    (Any.obj obj).toValue.All good := by
  unfold extractOutboundObject at extracted
  split at extracted
  · next entries =>
    split at extracted
    · cases extracted
      exact all
    · split at extracted
      · next item held =>
        cases extracted
        exact (allItems_iff.mp (all_findIn all held)) _ (List.mem_singleton_self _)
      · cases extracted
      · cases extracted
  · cases extracted

/-- The checks of an outbound add inert strings only. -/
theorem all_checked {bound : ℕ} {obj outbound : JsonObject}
    (all : (Any.obj obj).toValue.All (Below bound)) (checked : checkOutbound obj = .ok outbound) :
    (Any.obj outbound).toValue.All (Below bound) := by
  obtain ⟨typ, known, -, cleans, -⟩ := checkOutbound_eq_ok.mp checked
  have inert : ∀ name ∈ outboundTypeAllowlist, Inert name := by decide
  have tagged : (Any.obj (Map.insertIn (lit "tag") (.str (lit "proxy"))
      (Map.insertIn (lit "type") (.str typ) obj))).toValue.All (Below bound) :=
    all_insertIn (all_insertIn all (.inr (inert typ known))) (.inr (by decide))
  rcases cleanServer_eq_ok.mp cleans with ⟨-, rfl⟩ | ⟨-, host, port, held, -, -, rfl⟩
  · exact tagged
  · exact all_insertIn (all_insertIn tagged ((below_cleanHost host).mpr (all_findIn tagged held)))
      trivial

/-! ## What the templates have in common -/

theorem framed_hostHole (p : Profile) {later : Bytes}
    (unescaped : ∀ byte ∈ later, byte.toNat < 0x80 ∧ byte ≠ 0x5C) : (hostHole p later).Framed := by
  have digits : ∀ byte ∈ itoa p.endpoint.port.toInt, byte.toNat < 0x80 ∧ byte ≠ 0x5C := by
    intro byte member
    refine ⟨ascii_of_visible (visible_itoa _) byte member, ?_⟩
    rintro rfl
    rcases mem_itoa member with sign | digit
    · exact absurd sign (by decide)
    · exact absurd digit (by decide)
  have comma : ∀ byte ∈ lit ",", byte.toNat < 0x80 ∧ byte ≠ 0x22 := forall_mem_of_all (by decide)
  refine Hole.framed comma (List.forall_mem_append.mpr ⟨forall_mem_of_all (by decide), ?_⟩)
  exact List.forall_mem_append.mpr
    ⟨digits, List.forall_mem_append.mpr ⟨forall_mem_of_all (by decide), unescaped⟩⟩

theorem framed_closed {field line later : Bytes}
    (quiet : line.all (fun byte => decide (byte.toNat < 0x80 ∧ byte ≠ 0x22)) = true)
    (unescaped : later.all (fun byte => decide (byte.toNat < 0x80 ∧ byte ≠ 0x5C)) = true) :
    Hole.Framed ⟨field, line, later⟩ :=
  Hole.framed (forall_mem_of_all quiet) (forall_mem_of_all unescaped)

/-- How the template of a family renders, and which outbound it yields if the spliced strings are
inert. -/
structure Shipped (family : Family) (typ : String) (holes : Profile → List Hole)
    (outbound : Profile → JsonObject) : Prop where
  renders : ∀ other p, (profileEngine other).render (shippedTemplate family) p =
    .ok (templateFront typ ++ ((holes p).flatMap Hole.text ++ [0x0A]))
  front : ∀ byte ∈ templateFront typ, byte.toNat < 0x80 ∧ byte ≠ 0x5C
  framed : ∀ p, ∀ hole ∈ holes p, hole.Framed
  fields : ∀ p, p.family = family → (holes p).map Hole.field = p.spliced
  closes : ∀ p, ∃ front last, holes p = front ++ [last] ∧ last.later.getLast? = some 0x7D
  yields : ∀ p result, p.family = family → p.Utf8 → p.SplicesInert → 1 ≤ p.endpoint.port →
    p.endpoint.port ≤ 65535 →
    validateRenderedOutbound (templateFront typ ++ (holes p).flatMap Hole.text) = .ok result →
    result = outbound p
  faithful : ∀ p, p.family = family → Faithful p (outbound p)
  apart : ∀ p credential value, p.family = family →
    withoutCredential family credential (outbound (p.withCredential credential value)) =
      withoutCredential family credential (outbound p)

theorem Credentials.Utf8.get {c : Credentials} (utf8 : c.Utf8) (credential : Credential) :
    Valid (c.get credential) := by
  cases credential with
  | uuid => exact utf8.uuid
  | password => exact utf8.password
  | publicKey => exact utf8.publicKey
  | shortID => exact utf8.shortID
  | sni => exact utf8.sni
  | utlsFingerprint => exact utf8.utlsFingerprint
  | obfsPassword => exact utf8.obfsPassword

theorem Profile.Utf8.spliced {p : Profile} (utf8 : p.Utf8) : ∀ s ∈ p.spliced, Valid s := by
  refine List.forall_mem_cons.mpr ⟨utf8.endpoint.host, fun s member => ?_⟩
  obtain ⟨slot, -, rfl⟩ := List.mem_map.mp member
  exact utf8.credentials.get slot.2

section

variable {family : Family} {typ : String} {holes : Profile → List Hole}
  {outbound : Profile → JsonObject} (shipped : Shipped family typ holes outbound)

include shipped

theorem Shipped.field_mem {p : Profile} (own : p.family = family) {hole : Hole}
    (member : hole ∈ holes p) : hole.field ∈ p.spliced :=
  shipped.fields p own ▸ List.mem_map_of_mem member

/-- Trimming takes the newline at the end of the template away. -/
theorem Shipped.trims {p : Profile} (own : p.family = family) (utf8 : p.Utf8) :
    trimSpace (templateFront typ ++ ((holes p).flatMap Hole.text ++ [0x0A])) =
      templateFront typ ++ (holes p).flatMap Hole.text := by
  have filled : ∀ some : List Hole, (∀ hole ∈ some, hole ∈ holes p) →
      Valid (some.flatMap Hole.text) := by
    intro some inside
    induction some with
    | nil => exact Ascii.valid nofun
    | cons hole rest ih =>
      obtain ⟨here, there⟩ := List.forall_mem_cons.mp inside
      exact ((shipped.framed p hole here).valid
        (utf8.spliced _ (shipped.field_mem own here))).append (ih there)
  have front : Valid (templateFront typ) :=
    Ascii.valid fun byte member => (shipped.front byte member).1
  obtain ⟨before, last, shape, closes⟩ := shipped.closes p
  rw [← List.append_assoc]
  have ends : (templateFront typ ++ (holes p).flatMap Hole.text).getLast? = some 0x7D := by
    rw [shape, List.flatMap_append, List.flatMap_cons, List.flatMap_nil, List.append_nil, Hole.text]
    simp [List.getLast?_append, List.getLast?_cons, closes]
  exact trimSpace_padded (show isBlank [] = true from rfl) (show isBlank [0x0A] = true by decide)
    (front.append (filled _ fun _ own => own)) rfl rfl ends rfl

theorem Shipped.rendered {other : Bytes → Profile → Except TextTemplate.Failure Bytes} {p : Profile}
    {result : JsonObject} (own : p.family = family) (utf8 : p.Utf8)
    (rendered : renderOutbound (profileEngine other) p (shippedTemplate family) = .ok result) :
    (1 ≤ p.endpoint.port ∧ p.endpoint.port ≤ 65535) ∧
      validateRenderedOutbound (templateFront typ ++ (holes p).flatMap Hole.text) = .ok result := by
  obtain ⟨checked, text, executed, passed⟩ := renderOutbound_eq_ok.mp rendered
  obtain rfl := Except.ok.inj ((shipped.renders other p).symm.trans executed)
  rw [shipped.trims own utf8] at passed
  exact ⟨(validateProfileForRender_eq_ok.mp checked).2.2, passed⟩

/-- The outbound has no string that weighs as much as the heaviest spliced one that is not inert. -/
theorem Shipped.all_below {p : Profile} {result : JsonObject} {bound : ℕ} (own : p.family = family)
    (heaviest : ∀ s ∈ p.spliced, ¬ Inert s → Json.weight s ≤ bound)
    (passed : validateRenderedOutbound (templateFront typ ++ (holes p).flatMap Hole.text) =
      .ok result) : (Any.obj result).toValue.All (Below bound) := by
  unfold validateRenderedOutbound at passed
  split at passed
  · cases passed
  · next raw read =>
    obtain ⟨value, parsed, reads⟩ := Option.bind_eq_some_iff.mp read
    obtain ⟨obj, extracted, checked⟩ := bind_eq_ok.mp passed
    have unescaped : 0x5C ∉ templateFront typ := fun member => (shipped.front _ member).2 rfl
    have all : value.All (Below bound) := parse_holes unescaped
      (fun hole member => (shipped.framed p hole member).fits
        (heaviest _ (shipped.field_mem own member))) parsed
    exact all_checked (all_extracted (all_ofValue all reads) extracted) checked

theorem Shipped.inert_of_faithful {p : Profile} {result : JsonObject} (own : p.family = family)
    (passed : validateRenderedOutbound (templateFront typ ++ (holes p).flatMap Hole.text) =
      .ok result) (faithful : Faithful p result) : p.SplicesInert := by
  by_contra rough
  have some : (p.spliced.toFinset.filter fun s => ¬ Inert s).Nonempty := by
    simp only [Profile.SplicesInert, not_forall] at rough
    obtain ⟨s, member, other⟩ := rough
    exact ⟨s, Finset.mem_filter.mpr ⟨List.mem_toFinset.mpr member, other⟩⟩
  obtain ⟨heavy, member, most⟩ := Finset.exists_max_image _ Json.weight some
  obtain ⟨inside, other⟩ := Finset.mem_filter.mp member
  have all := shipped.all_below own (fun s held rough =>
    most s (Finset.mem_filter.mpr ⟨List.mem_toFinset.mpr held, rough⟩)) passed
  -- The outbound has the string itself, or its trimmed and lower-case form.
  have below : Below (Json.weight heavy) heavy := by
    rcases List.mem_cons.mp (List.mem_toFinset.mp inside) with rfl | credential
    · exact (below_cleanHost _).mp (all_lookup all faithful.server)
    · obtain ⟨slot, held, rfl⟩ := List.mem_map.mp credential
      exact all_lookup all (faithful.credentials slot held)
  rcases below with lighter | inert
  · exact absurd lighter (lt_irrefl _)
  · exact other inert

/-- A shipped template renders a profile faithfully exactly where what is spliced in is inert. -/
theorem Shipped.faithful_iff {p : Profile} {result : JsonObject} (own : p.family = family)
    (utf8 : p.Utf8) (port : 1 ≤ p.endpoint.port ∧ p.endpoint.port ≤ 65535)
    (passed : validateRenderedOutbound (templateFront typ ++ (holes p).flatMap Hole.text) =
      .ok result) : Faithful p result ↔ p.SplicesInert := by
  constructor
  · exact shipped.inert_of_faithful own passed
  · intro inert
    rw [shipped.yields p result own utf8 inert port.1 port.2 passed]
    exact shipped.faithful p own

end

/-! ## The outbounds of the templates -/

def wholeNumber (value : ℕ) : Any := .float (Float64.whole value)

def anyText (value : String) : Any := .str (lit value)

def realityOutbound (p : Profile) : JsonObject :=
  [(lit "flow", anyText "xtls-rprx-vision"),
    (lit "multiplex", .obj [(lit "brutal_capacity", wholeNumber 100), (lit "enabled", .bool true),
      (lit "padding", .bool true), (lit "protocol", anyText "smux")]),
    (lit "packet_encoding", anyText "xudp"),
    (lit "server", .str (cleanHost p.endpoint.host)), (lit "server_port", .int p.endpoint.port),
    (lit "tag", anyText "proxy"),
    (lit "tls", .obj [(lit "enabled", .bool true),
      (lit "reality", .obj [(lit "enabled", .bool true),
        (lit "public_key", .str p.credentials.publicKey),
        (lit "short_id", .str p.credentials.shortID)]),
      (lit "server_name", .str p.credentials.sni),
      (lit "utls", .obj [(lit "enabled", .bool true),
        (lit "fingerprint", .str p.credentials.utlsFingerprint)])]),
    (lit "type", anyText "vless"), (lit "uuid", .str p.credentials.uuid)]

def hysteria2Outbound (p : Profile) : JsonObject :=
  [(lit "down_mbps", wholeNumber 100),
    (lit "obfs", .obj [(lit "password", .str p.credentials.obfsPassword),
      (lit "type", anyText "salamander")]),
    (lit "password", .str p.credentials.password),
    (lit "server", .str (cleanHost p.endpoint.host)), (lit "server_port", .int p.endpoint.port),
    (lit "tag", anyText "proxy"),
    (lit "tls", .obj [(lit "enabled", .bool true), (lit "insecure", .bool false),
      (lit "server_name", .str p.credentials.sni)]),
    (lit "type", anyText "hysteria2"), (lit "up_mbps", wholeNumber 50)]

def tuicOutbound (p : Profile) : JsonObject :=
  [(lit "congestion_control", anyText "bbr"), (lit "password", .str p.credentials.password),
    (lit "server", .str (cleanHost p.endpoint.host)), (lit "server_port", .int p.endpoint.port),
    (lit "tag", anyText "proxy"),
    (lit "tls", .obj [(lit "alpn", .arr [anyText "h3", anyText "spdy/3.1"]),
      (lit "enabled", .bool true), (lit "server_name", .str p.credentials.sni)]),
    (lit "type", anyText "tuic"), (lit "udp_relay_mode", anyText "native"),
    (lit "uuid", .str p.credentials.uuid)]

/-! ## Scans of the templates -/

/-- The members that all templates begin with. -/
def headMembers (typ : String) (p : Profile) : List (GoString × Value) :=
  [(lit "type", jsonText typ), (lit "tag", jsonText "proxy"), (lit "server", .str p.endpoint.host),
    (lit "server_port", .num (itoa p.endpoint.port.toInt))]

/-- The object whose first members are there, at the value of the next one. -/
def atMember (members : List (GoString × Value)) (count : ℕ) (name : String) : Frame :=
  .objectValue (members.take count).reverse (lit name)

theorem run_hostHole (next : State) {p : Profile} {done : List (GoString × Value)}
    {later rest : Bytes} {last : State} (inert : Inert p.endpoint.host) (valid : Valid p.endpoint.host)
    (goes : run ⟨[.objectKey ((lit "server_port", .num (itoa p.endpoint.port.toInt)) ::
      (lit "server", .str p.endpoint.host) :: done)], .endValue⟩ (0x2C :: 0x0A :: later) = some next)
    (ran : run ⟨[.objectValue done (lit "server")], .beginValue⟩ ((hostHole p later).text ++ rest) =
      some last) : run next rest = some last := by
  have port : run ⟨[.objectKey ((lit "server", .str p.endpoint.host) :: done)], .endValue⟩
      (lit ",\n  \"server_port\": " ++ (itoa p.endpoint.port.toInt ++ 0x2C :: 0x0A :: later)) =
      some next := by
    rw [run_append, ← goes]
    exact run_int p.endpoint.port.toInt (0x0A :: later)
  exact run_hole next inert valid port ran

def realityTls (p : Profile) : List (GoString × Value) :=
  [(lit "enabled", .bool true), (lit "server_name", .str p.credentials.sni),
    (lit "utls", .obj [(lit "enabled", .bool true),
      (lit "fingerprint", .str p.credentials.utlsFingerprint)]),
    (lit "reality", .obj [(lit "enabled", .bool true),
      (lit "public_key", .str p.credentials.publicKey),
      (lit "short_id", .str p.credentials.shortID)])]

def realityMembers (p : Profile) : List (GoString × Value) :=
  headMembers "vless" p ++ [(lit "uuid", .str p.credentials.uuid),
    (lit "flow", jsonText "xtls-rprx-vision"), (lit "packet_encoding", jsonText "xudp"),
    (lit "tls", .obj (realityTls p)),
    (lit "multiplex", .obj [(lit "enabled", .bool true), (lit "protocol", jsonText "smux"),
      (lit "padding", .bool true), (lit "brutal_capacity", .num (natDigits 100))])]

theorem spliced_reality {p : Profile} (own : p.family = familyReality) :
    p.spliced = (realityHoles p).map Hole.field := by
  rw [Profile.spliced, own]
  rfl

set_option maxRecDepth 10000 in
theorem parse_reality {p : Profile} {value : Value} (own : p.family = familyReality) (utf8 : p.Utf8)
    (inert : p.SplicesInert)
    (parsed : parse (templateFront "vless" ++ (realityHoles p).flatMap Hole.text) = some value) :
    value = .obj (realityMembers p) := by
  obtain ⟨last, ran, final⟩ := Option.bind_eq_some_iff.mp parsed
  simp only [realityHoles, hostHole, lit_append, List.flatMap_cons, List.flatMap_nil,
    List.append_assoc, List.nil_append] at ran
  repeat rw [lit_ofList] at ran
  rw [Profile.SplicesInert, spliced_reality own] at inert
  simp only [realityHoles, hostHole, List.map_cons, List.forall_mem_cons] at inert
  obtain ⟨host, uuid, sni, fingerprint, key, shortID, -⟩ := inert
  have atHost := run_front ⟨[atMember (realityMembers p) 2 "server"], .beginValue⟩ (by rfl) ran
  have atUuid := run_hostHole ⟨[atMember (realityMembers p) 4 "uuid"], .beginValue⟩ host
    utf8.endpoint.host (by rfl) atHost
  have atSni := run_hole ⟨[atMember (realityTls p) 1 "server_name",
    atMember (realityMembers p) 7 "tls"], .beginValue⟩ uuid utf8.credentials.uuid (by rfl) atUuid
  have atFingerprint := run_hole ⟨[.objectValue [(lit "enabled", .bool true)] (lit "fingerprint"),
    atMember (realityTls p) 2 "utls", atMember (realityMembers p) 7 "tls"], .beginValue⟩ sni
    utf8.credentials.sni (by rfl) atSni
  have atKey := run_hole ⟨[.objectValue [(lit "enabled", .bool true)] (lit "public_key"),
    atMember (realityTls p) 3 "reality", atMember (realityMembers p) 7 "tls"], .beginValue⟩
    fingerprint utf8.credentials.utlsFingerprint (by rfl) atFingerprint
  have atShortID := run_hole ⟨[.objectValue [(lit "public_key", .str p.credentials.publicKey),
    (lit "enabled", .bool true)] (lit "short_id"), atMember (realityTls p) 3 "reality",
    atMember (realityMembers p) 7 "tls"], .beginValue⟩ key utf8.credentials.publicKey (by rfl) atKey
  have atEnd := run_hole ⟨[], .endTop (.obj (realityMembers p))⟩ shortID utf8.credentials.shortID
    (by rfl) atShortID
  obtain rfl : ⟨[], .endTop (.obj (realityMembers p))⟩ = last := Option.some.inj atEnd
  exact (Option.some.inj final).symm

def hysteria2Tls (p : Profile) : List (GoString × Value) :=
  [(lit "enabled", .bool true), (lit "server_name", .str p.credentials.sni),
    (lit "insecure", .bool false)]

def hysteria2Members (p : Profile) : List (GoString × Value) :=
  headMembers "hysteria2" p ++ [(lit "up_mbps", .num (natDigits 50)),
    (lit "down_mbps", .num (natDigits 100)), (lit "password", .str p.credentials.password),
    (lit "obfs", .obj [(lit "type", jsonText "salamander"),
      (lit "password", .str p.credentials.obfsPassword)]),
    (lit "tls", .obj (hysteria2Tls p))]

theorem spliced_hysteria2 {p : Profile} (own : p.family = familyHysteria2) :
    p.spliced = (hysteria2Holes p).map Hole.field := by
  rw [Profile.spliced, own]
  rfl

set_option maxRecDepth 10000 in
theorem parse_hysteria2 {p : Profile} {value : Value} (own : p.family = familyHysteria2)
    (utf8 : p.Utf8) (inert : p.SplicesInert)
    (parsed : parse (templateFront "hysteria2" ++ (hysteria2Holes p).flatMap Hole.text) = some value) :
    value = .obj (hysteria2Members p) := by
  obtain ⟨last, ran, final⟩ := Option.bind_eq_some_iff.mp parsed
  simp only [hysteria2Holes, hostHole, List.flatMap_cons, List.flatMap_nil,
    List.append_assoc, List.nil_append] at ran
  repeat rw [lit_ofList] at ran
  rw [Profile.SplicesInert, spliced_hysteria2 own] at inert
  simp only [hysteria2Holes, hostHole, List.map_cons, List.forall_mem_cons] at inert
  obtain ⟨host, password, obfs, sni, -⟩ := inert
  have atHost := run_front ⟨[atMember (hysteria2Members p) 2 "server"], .beginValue⟩ (by rfl) ran
  have atPassword := run_hostHole ⟨[atMember (hysteria2Members p) 6 "password"], .beginValue⟩ host
    utf8.endpoint.host (by rfl) atHost
  have atObfs := run_hole ⟨[.objectValue [(lit "type", jsonText "salamander")] (lit "password"),
    atMember (hysteria2Members p) 7 "obfs"], .beginValue⟩ password utf8.credentials.password
    (by rfl) atPassword
  have atSni := run_hole ⟨[atMember (hysteria2Tls p) 1 "server_name",
    atMember (hysteria2Members p) 8 "tls"], .beginValue⟩ obfs utf8.credentials.obfsPassword
    (by rfl) atObfs
  have atEnd := run_hole ⟨[], .endTop (.obj (hysteria2Members p))⟩ sni utf8.credentials.sni
    (by rfl) atSni
  obtain rfl : ⟨[], .endTop (.obj (hysteria2Members p))⟩ = last := Option.some.inj atEnd
  exact (Option.some.inj final).symm

def tuicTls (p : Profile) : List (GoString × Value) :=
  [(lit "enabled", .bool true), (lit "server_name", .str p.credentials.sni),
    (lit "alpn", .arr [jsonText "h3", jsonText "spdy/3.1"])]

def tuicMembers (p : Profile) : List (GoString × Value) :=
  headMembers "tuic" p ++ [(lit "uuid", .str p.credentials.uuid),
    (lit "password", .str p.credentials.password), (lit "congestion_control", jsonText "bbr"),
    (lit "udp_relay_mode", jsonText "native"), (lit "tls", .obj (tuicTls p))]

theorem spliced_tuic {p : Profile} (own : p.family = familyTUIC) :
    p.spliced = (tuicHoles p).map Hole.field := by
  rw [Profile.spliced, own]
  rfl

set_option maxRecDepth 10000 in
theorem parse_tuic {p : Profile} {value : Value} (own : p.family = familyTUIC) (utf8 : p.Utf8)
    (inert : p.SplicesInert)
    (parsed : parse (templateFront "tuic" ++ (tuicHoles p).flatMap Hole.text) = some value) :
    value = .obj (tuicMembers p) := by
  obtain ⟨last, ran, final⟩ := Option.bind_eq_some_iff.mp parsed
  simp only [tuicHoles, hostHole, lit_append, List.flatMap_cons, List.flatMap_nil,
    List.append_assoc, List.nil_append] at ran
  repeat rw [lit_ofList] at ran
  rw [Profile.SplicesInert, spliced_tuic own] at inert
  simp only [tuicHoles, hostHole, List.map_cons, List.forall_mem_cons] at inert
  obtain ⟨host, uuid, password, sni, -⟩ := inert
  have atHost := run_front ⟨[atMember (tuicMembers p) 2 "server"], .beginValue⟩ (by rfl) ran
  have atUuid := run_hostHole ⟨[atMember (tuicMembers p) 4 "uuid"], .beginValue⟩ host
    utf8.endpoint.host (by rfl) atHost
  have atPassword := run_hole ⟨[atMember (tuicMembers p) 5 "password"], .beginValue⟩ uuid
    utf8.credentials.uuid (by rfl) atUuid
  have atSni := run_hole ⟨[atMember (tuicTls p) 1 "server_name", atMember (tuicMembers p) 8 "tls"],
    .beginValue⟩ password utf8.credentials.password (by rfl) atPassword
  have atEnd := run_hole ⟨[], .endTop (.obj (tuicMembers p))⟩ sni utf8.credentials.sni
    (by rfl) atSni
  obtain rfl : ⟨[], .endTop (.obj (tuicMembers p))⟩ = last := Option.some.inj atEnd
  exact (Option.some.inj final).symm

/-! ## What the checks make of them -/

/-- The outbound before the checks, which clean the host and turn the port into an int. -/
def unchecked (p : Profile) (outbound : JsonObject) : JsonObject :=
  Map.insertIn (lit "server") (.str p.endpoint.host)
    (Map.insertIn (lit "server_port") (wholeNumber p.endpoint.port.toInt.toNat) outbound)

theorem parse_port {p : Profile} (port : 1 ≤ p.endpoint.port ∧ p.endpoint.port ≤ 65535) :
    Float64.parse (itoa p.endpoint.port.toInt) =
      some (Float64.whole p.endpoint.port.toInt.toNat) := by
  obtain ⟨positive, small⟩ := portRange port
  exact Float64.parse_itoa (by omega) (by omega)

theorem checked_unchecked {typ : GoString} {p : Profile} {outbound result : JsonObject}
    (port : 1 ≤ p.endpoint.port ∧ p.endpoint.port ≤ 65535)
    (kind : Map.findIn (lit "type") (unchecked p outbound) = some (.str typ))
    (plain : trimSpace (toLower typ) = typ) (proxied : typ ≠ lit "direct")
    (checked : checkOutbound (unchecked p outbound) = .ok result) :
    result = Map.insertIn (lit "server_port") (.int p.endpoint.port)
      (Map.insertIn (lit "server") (.str (cleanHost p.endpoint.host))
        (Map.insertIn (lit "tag") (.str (lit "proxy"))
          (Map.insertIn (lit "type") (.str typ) (unchecked p outbound)))) := by
  obtain ⟨positive, small⟩ := portRange port
  have held (key : GoString) (tag : lit "tag" ≠ key) (type : lit "type" ≠ key) (obj : JsonObject) :
      Map.findIn key (Map.insertIn (lit "tag") (.str (lit "proxy"))
        (Map.insertIn (lit "type") (.str typ) obj)) = Map.findIn key obj := by
    rw [Map.findIn_insertIn, if_neg tag, Map.findIn_insertIn, if_neg type]
  obtain ⟨same, -, named, cleans, -⟩ := checkOutbound_eq_ok.mp checked
  rw [kind, asString, plain] at named
  rw [named] at cleans
  rcases cleanServer_eq_ok.mp cleans with ⟨direct, -⟩ | ⟨-, host, number, server, -, sound, rfl⟩
  · exact absurd direct proxied
  · rw [held _ (by decide) (by decide), unchecked, Map.findIn_insertIn, if_pos rfl] at server
    obtain rfl := Any.str.inj (Option.some.inj server)
    rw [held _ (by decide) (by decide), unchecked, Map.findIn_insertIn, if_neg (by decide),
      Map.findIn_insertIn, if_pos rfl, wholeNumber, toSafePort,
      Float64.toInt?_whole (by omega), Option.bind_some, if_pos (by omega)] at sound
    have cleaned : Int64.ofInt (p.endpoint.port.toInt.toNat : ℤ) = p.endpoint.port := by
      rw [Int.toNat_of_nonneg (by omega), Int64.ofInt_toInt]
    rw [← Option.some.inj sound, cleaned]

theorem read_reality {p : Profile} {raw : Any}
    (port : 1 ≤ p.endpoint.port ∧ p.endpoint.port ≤ 65535)
    (reads : Any.ofValue (.obj (realityMembers p)) = some raw) :
    raw = .obj (unchecked p (realityOutbound p)) := by
  have hundred := Float64.parse_whole (show 100 < 2 ^ 53 by decide)
  simp only [realityMembers, headMembers, realityTls, List.cons_append, List.nil_append, jsonText,
    Any.ofValue, Any.ofMembers, parse_port port, hundred, Option.map_some, Option.bind_some,
    Option.some.injEq] at reads
  rw [← reads]
  rfl

theorem read_hysteria2 {p : Profile} {raw : Any}
    (port : 1 ≤ p.endpoint.port ∧ p.endpoint.port ≤ 65535)
    (reads : Any.ofValue (.obj (hysteria2Members p)) = some raw) :
    raw = .obj (unchecked p (hysteria2Outbound p)) := by
  have fifty := Float64.parse_whole (show 50 < 2 ^ 53 by decide)
  have hundred := Float64.parse_whole (show 100 < 2 ^ 53 by decide)
  simp only [hysteria2Members, headMembers, hysteria2Tls, List.cons_append, List.nil_append, jsonText,
    Any.ofValue, Any.ofMembers, parse_port port, fifty, hundred, Option.map_some, Option.bind_some,
    Option.some.injEq] at reads
  rw [← reads]
  rfl

theorem read_tuic {p : Profile} {raw : Any}
    (port : 1 ≤ p.endpoint.port ∧ p.endpoint.port ≤ 65535)
    (reads : Any.ofValue (.obj (tuicMembers p)) = some raw) :
    raw = .obj (unchecked p (tuicOutbound p)) := by
  simp only [tuicMembers, headMembers, tuicTls, List.cons_append, List.nil_append, jsonText,
    Any.ofValue, Any.ofItems, Any.ofMembers, parse_port port, Option.map_some, Option.bind_some,
    Option.some.injEq] at reads
  rw [← reads]
  rfl

/-- The checks of a text that parses to an unchecked outbound. -/
theorem checked_of_parse {text : Bytes} {members : List (GoString × Value)} {obj result : JsonObject}
    (parses : ∀ value, parse text = some value → value = .obj members)
    (reads : ∀ raw, Any.ofValue (.obj members) = some raw → raw = .obj obj)
    (kind : (Map.findIn (lit "type") obj).isSome = true)
    (passed : validateRenderedOutbound text = .ok result) : checkOutbound obj = .ok result := by
  unfold validateRenderedOutbound at passed
  split at passed
  · cases passed
  · next raw read =>
    obtain ⟨value, parsed, own⟩ := Option.bind_eq_some_iff.mp read
    obtain rfl := parses value parsed
    obtain rfl := reads raw own
    obtain ⟨object, extracted, checked⟩ := bind_eq_ok.mp passed
    rw [extractOutboundObject, if_pos kind] at extracted
    obtain rfl := Except.ok.inj extracted
    exact checked

theorem shipped_reality : Shipped familyReality "vless" realityHoles realityOutbound where
  renders := render_reality
  front := forall_mem_of_all (by decide)
  framed p := by
    simp only [realityHoles, lit_append, List.forall_mem_cons]
    repeat rw [lit_ofList]
    exact ⟨framed_hostHole p (forall_mem_of_all (by decide)),
      framed_closed (by decide) (by decide), framed_closed (by decide) (by decide),
      framed_closed (by decide) (by decide), framed_closed (by decide) (by decide),
      framed_closed (by decide) (by decide), List.forall_mem_nil _⟩
  fields p own := (spliced_reality own).symm
  closes p := ⟨(realityHoles p).dropLast, _, rfl, by rfl⟩
  yields p result own utf8 inert low high passed :=
    checked_unchecked ⟨low, high⟩ rfl (by decide) (by decide) (checked_of_parse
      (fun _ => parse_reality own utf8 inert) (fun _ => read_reality ⟨low, high⟩) rfl passed)
  faithful p own := ⟨rfl, rfl, by
    rw [own]
    exact List.forall_mem_cons.mpr ⟨rfl, List.forall_mem_cons.mpr ⟨rfl, List.forall_mem_cons.mpr
      ⟨rfl, List.forall_mem_cons.mpr ⟨rfl, List.forall_mem_cons.mpr ⟨rfl, List.forall_mem_nil _⟩⟩⟩⟩⟩⟩
  apart p credential value own := by cases credential <;> rfl

theorem shipped_hysteria2 :
    Shipped familyHysteria2 "hysteria2" hysteria2Holes hysteria2Outbound where
  renders := render_hysteria2
  front := forall_mem_of_all (by decide)
  framed p := by
    simp only [hysteria2Holes, List.forall_mem_cons]
    repeat rw [lit_ofList]
    exact ⟨framed_hostHole p (forall_mem_of_all (by decide)),
      framed_closed (by decide) (by decide), framed_closed (by decide) (by decide),
      framed_closed (by decide) (by decide), List.forall_mem_nil _⟩
  fields p own := (spliced_hysteria2 own).symm
  closes p := ⟨(hysteria2Holes p).dropLast, _, rfl, by rfl⟩
  yields p result own utf8 inert low high passed :=
    checked_unchecked ⟨low, high⟩ rfl (by decide) (by decide) (checked_of_parse
      (fun _ => parse_hysteria2 own utf8 inert) (fun _ => read_hysteria2 ⟨low, high⟩) rfl passed)
  faithful p own := ⟨rfl, rfl, by
    rw [own]
    exact List.forall_mem_cons.mpr ⟨rfl, List.forall_mem_cons.mpr ⟨rfl, List.forall_mem_cons.mpr
      ⟨rfl, List.forall_mem_nil _⟩⟩⟩⟩
  apart p credential value own := by cases credential <;> rfl

theorem shipped_tuic : Shipped familyTUIC "tuic" tuicHoles tuicOutbound where
  renders := render_tuic
  front := forall_mem_of_all (by decide)
  framed p := by
    simp only [tuicHoles, lit_append, List.forall_mem_cons]
    repeat rw [lit_ofList]
    exact ⟨framed_hostHole p (forall_mem_of_all (by decide)),
      framed_closed (by decide) (by decide), framed_closed (by decide) (by decide),
      framed_closed (by decide) (by decide), List.forall_mem_nil _⟩
  fields p own := (spliced_tuic own).symm
  closes p := ⟨(tuicHoles p).dropLast, _, rfl, by rfl⟩
  yields p result own utf8 inert low high passed :=
    checked_unchecked ⟨low, high⟩ rfl (by decide) (by decide) (checked_of_parse
      (fun _ => parse_tuic own utf8 inert) (fun _ => read_tuic ⟨low, high⟩) rfl passed)
  faithful p own := ⟨rfl, rfl, by
    rw [own]
    exact List.forall_mem_cons.mpr ⟨rfl, List.forall_mem_cons.mpr ⟨rfl, List.forall_mem_cons.mpr
      ⟨rfl, List.forall_mem_nil _⟩⟩⟩⟩
  apart p credential value own := by cases credential <;> rfl

theorem exists_shipped {family : Family}
    (known : family ∈ [familyReality, familyHysteria2, familyTUIC]) :
    ∃ typ holes outbound, Shipped family typ holes outbound := by
  simp only [List.mem_cons, List.not_mem_nil, or_false] at known
  rcases known with rfl | rfl | rfl
  · exact ⟨_, _, _, shipped_reality⟩
  · exact ⟨_, _, _, shipped_hysteria2⟩
  · exact ⟨_, _, _, shipped_tuic⟩

/-- An outbound is faithful exactly if the spliced strings of the profile are inert; and outbounds of
two profiles that differ in one credential are both faithful and agree outside of what it fills exactly
if the spliced strings of both are. -/
theorem faithful_iff_inert {other : Bytes → Profile → Except TextTemplate.Failure Bytes} {p : Profile}
    {outbound : JsonObject} (utf8 : p.Utf8)
    (rendered : renderOutbound (profileEngine other) p (shippedTemplate p.family) = .ok outbound) :
    (Faithful p outbound ↔ p.SplicesInert) ∧
      ∀ credential value varied, (p.withCredential credential value).Utf8 →
        renderOutbound (profileEngine other) (p.withCredential credential value)
          (shippedTemplate p.family) = .ok varied →
        ((Faithful p outbound ∧ Faithful (p.withCredential credential value) varied ∧
            withoutCredential p.family credential varied =
              withoutCredential p.family credential outbound) ↔
          p.SplicesInert ∧ (p.withCredential credential value).SplicesInert) := by
  obtain ⟨typ, holes, expected, shipped⟩ := exists_shipped
    (validateProfileForRender_eq_ok.mp (renderOutbound_eq_ok.mp rendered).1).1
  obtain ⟨port, passed⟩ := shipped.rendered rfl utf8 rendered
  have own := shipped.faithful_iff rfl utf8 port passed
  refine ⟨own, fun credential value varied utf8' rendered' => ?_⟩
  have same : (p.withCredential credential value).family = p.family := rfl
  obtain ⟨port', passed'⟩ := shipped.rendered same utf8' rendered'
  have others := shipped.faithful_iff same utf8' port' passed'
  constructor
  · rintro ⟨first, second, -⟩
    exact ⟨own.mp first, others.mp second⟩
  · rintro ⟨first, second⟩
    refine ⟨own.mpr first, others.mpr second, ?_⟩
    rw [shipped.yields p outbound rfl utf8 first port.1 port.2 passed,
      shipped.yields _ varied same utf8' second port'.1 port'.2 passed']
    exact shipped.apart p credential value rfl

def directProfile : Profile where
  id := lit "tuic-1"
  family := familyTUIC
  enabled := true
  createdAt := 1
  endpoint := ⟨lit "good.example", 443, lit "dual"⟩
  capabilities := { transport := lit "quic" }
  credentials := { uuid := lit "u", password := lit "secret", sni := lit "good.example" }
  source := { source := lit "file", trustLevel := 50, importedAt := 1 }

theorem directProfile_renders (other : Bytes → Profile → Except TextTemplate.Failure Bytes)
    (value : GoString) (passes : (validateRenderedOutbound (trimSpace (templateFront "tuic" ++
      ((tuicHoles (directProfile.withCredential .uuid value)).flatMap Hole.text ++ [0x0A])))).isOk =
        true) :
    ∃ outbound, renderOutbound (profileEngine other) (directProfile.withCredential .uuid value)
      (shippedTemplate directProfile.family) = .ok outbound := by
  have checked : validateProfileForRender (directProfile.withCredential .uuid value) = .ok () :=
    validateProfileForRender_eq_ok.mpr
      (show directProfile.family ∈ _ ∧ isSafeHost (cleanHost directProfile.endpoint.host) = true ∧
        1 ≤ directProfile.endpoint.port ∧ directProfile.endpoint.port ≤ 65535 by decide)
  have rendered := render_tuic other (directProfile.withCredential .uuid value)
  cases passed : validateRenderedOutbound (trimSpace (templateFront "tuic" ++
      ((tuicHoles (directProfile.withCredential .uuid value)).flatMap Hole.text ++ [0x0A]))) with
  | error text =>
    rw [passed] at passes
    cases passes
  | ok outbound => exact ⟨outbound, renderOutbound_eq_ok.mpr ⟨checked, _, rendered, passed⟩⟩

theorem directProfile_faithful : ∃ outbound varied, Faithful directProfile outbound ∧
    Faithful (directProfile.withCredential .uuid (lit "v")) varied ∧
    withoutCredential familyTUIC .uuid varied = withoutCredential familyTUIC .uuid outbound := by
  have passes (value : GoString) (short : value = [0x75] ∨ value = [0x76]) :
      (validateRenderedOutbound (trimSpace (templateFront "tuic" ++
        ((tuicHoles (directProfile.withCredential .uuid value)).flatMap Hole.text ++
          [0x0A])))).isOk = true := by
    simp only [templateFront, tuicHoles, hostHole, lit_append]
    repeat rw [lit_ofList]
    rcases short with rfl | rfl <;> decide +kernel
  obtain ⟨outbound, rendered⟩ :=
    directProfile_renders (fun _ _ => .error .parse) (lit "u") (passes _ (.inl rfl))
  obtain ⟨varied, rendered'⟩ :=
    directProfile_renders (fun _ _ => .error .parse) (lit "v") (passes _ (.inr rfl))
  have inert : directProfile.SplicesInert ∧
      (directProfile.withCredential .uuid (lit "v")).SplicesInert := by
    unfold Profile.SplicesInert
    decide
  have utf8 : (directProfile.withCredential .uuid (lit "u")).Utf8 := by decide
  exact ⟨outbound, varied, ((faithful_iff_inert utf8 rendered).2 .uuid (lit "v") varied
    (by decide) rendered').mpr inert⟩

/-- A profile whose UUID closes its string and names another server. -/
def divertedProfile : Profile :=
  directProfile.withCredential .uuid (lit "u\",\"server\":\"evil.example")

theorem divertedProfile_diverts : ∃ outbound, divertedProfile.Utf8 ∧
    (normalizeForWire divertedProfile 1).2 = .ok divertedProfile ∧
    (∀ other, renderOutbound (profileEngine other) divertedProfile
      (shippedTemplate divertedProfile.family) = .ok outbound) ∧
    asString ((Any.obj outbound).lookup [lit "server"]) = lit "evil.example" ∧
    ¬ Faithful divertedProfile outbound := by
  have passes : (validateRenderedOutbound (trimSpace (templateFront "tuic" ++
      ((tuicHoles divertedProfile).flatMap Hole.text ++ [0x0A])))).map (fun outbound =>
        asString ((Any.obj outbound).lookup [lit "server"])) = .ok (lit "evil.example") := by
    simp only [templateFront, tuicHoles, hostHole, lit_append]
    repeat rw [lit_ofList]
    decide +kernel
  obtain ⟨outbound, passed, server⟩ := map_eq_ok.mp passes
  refine ⟨outbound, by decide, by decide, fun other => ?_, server, fun faithful => ?_⟩
  · exact renderOutbound_eq_ok.mpr
      ⟨validateProfileForRender_eq_ok.mpr (by decide), _, render_tuic other _, passed⟩
  · rw [faithful.server] at server
    exact absurd server (by decide)

end ShadowNet
