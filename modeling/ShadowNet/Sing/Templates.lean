import ShadowNet.Go.Json.Splice
import ShadowNet.Sing.Render

/-! # The shipped templates

The templates that come with the agent put the host, the port and the credentials of a profile
between quotes as they are. Where these strings have no quote and no backslash, the outbound has
exactly them in the places that the template gives them.
-/

namespace ShadowNet

open Go Go.Json

def realityTemplate : Bytes := lit (
  "\x7b\n  \"type\": \"vless\",\n  \"tag\": \"proxy\",\n  \"server\": \"\x7b\x7b.Endpoint.Host\x7d\x7d\",\n" ++
  "  \"server_port\": \x7b\x7b.Endpoint.Port\x7d\x7d,\n  \"uuid\": \"\x7b\x7b.Credentials.UUID\x7d\x7d\",\n" ++
  "  \"flow\": \"xtls-rprx-vision\",\n  \"packet_encoding\": \"xudp\",\n  \"tls\": \x7b\n" ++
  "    \"enabled\": true,\n    \"server_name\": \"\x7b\x7b.Credentials.SNI\x7d\x7d\",\n    \"utls\": \x7b\n" ++
  "      \"enabled\": true,\n      \"fingerprint\": \"\x7b\x7b.Credentials.UTLSFingerprint\x7d\x7d\"\n" ++
  "    \x7d,\n    \"reality\": \x7b\n      \"enabled\": true,\n" ++
  "      \"public_key\": \"\x7b\x7b.Credentials.PublicKey\x7d\x7d\",\n" ++
  "      \"short_id\": \"\x7b\x7b.Credentials.ShortID\x7d\x7d\"\n    \x7d\n  \x7d,\n" ++
  "  \"multiplex\": \x7b\n    \"enabled\": true,\n    \"protocol\": \"smux\",\n" ++
  "    \"padding\": true,\n    \"brutal_capacity\": 100\n  \x7d\n\x7d\n")

def hysteria2Template : Bytes := lit (
  "\x7b\n  \"type\": \"hysteria2\",\n  \"tag\": \"proxy\",\n  \"server\": \"\x7b\x7b.Endpoint.Host\x7d\x7d\",\n" ++
  "  \"server_port\": \x7b\x7b.Endpoint.Port\x7d\x7d,\n  \"up_mbps\": 50,\n  \"down_mbps\": 100,\n" ++
  "  \"password\": \"\x7b\x7b.Credentials.Password\x7d\x7d\",\n  \"obfs\": \x7b\n" ++
  "    \"type\": \"salamander\",\n    \"password\": \"\x7b\x7b.Credentials.ObfsPassword\x7d\x7d\"\n" ++
  "  \x7d,\n  \"tls\": \x7b\n    \"enabled\": true,\n" ++
  "    \"server_name\": \"\x7b\x7b.Credentials.SNI\x7d\x7d\",\n    \"insecure\": false\n  \x7d\n\x7d\n")

def tuicTemplate : Bytes := lit (
  "\x7b\n  \"type\": \"tuic\",\n  \"tag\": \"proxy\",\n  \"server\": \"\x7b\x7b.Endpoint.Host\x7d\x7d\",\n" ++
  "  \"server_port\": \x7b\x7b.Endpoint.Port\x7d\x7d,\n  \"uuid\": \"\x7b\x7b.Credentials.UUID\x7d\x7d\",\n" ++
  "  \"password\": \"\x7b\x7b.Credentials.Password\x7d\x7d\",\n  \"congestion_control\": \"bbr\",\n" ++
  "  \"udp_relay_mode\": \"native\",\n  \"tls\": \x7b\n    \"enabled\": true,\n" ++
  "    \"server_name\": \"\x7b\x7b.Credentials.SNI\x7d\x7d\",\n    \"alpn\": [\"h3\", \"spdy/3.1\"]\n" ++
  "  \x7d\n\x7d\n")

/-- The template that is shipped for a family. -/
def shippedTemplate (family : Family) : Bytes :=
  if family = familyReality then realityTemplate
  else if family = familyHysteria2 then hysteria2Template
  else if family = familyTUIC then tuicTemplate
  else []

/-! ## Rendered templates -/

def templateFront (typ : String) : Bytes :=
  lit ("\x7b\n  \"type\": \"" ++ typ ++ "\",\n  \"tag\": \"proxy\",\n  \"server\": ")

/-- The host, with the port on the next line and what comes before the next string. -/
def hostHole (p : Profile) (later : Bytes) : Hole :=
  ⟨p.endpoint.host, lit ",",
    lit "  \"server_port\": " ++ (itoa p.endpoint.port.toInt ++ (lit ",\n" ++ later))⟩

def realityHoles (p : Profile) : List Hole :=
  [hostHole p (lit "  \"uuid\": "),
    ⟨p.credentials.uuid, lit ",", lit
      ("  \"flow\": \"xtls-rprx-vision\",\n  \"packet_encoding\": \"xudp\",\n  \"tls\": \x7b\n" ++
        "    \"enabled\": true,\n    \"server_name\": ")⟩,
    ⟨p.credentials.sni, lit ",",
      lit "    \"utls\": \x7b\n      \"enabled\": true,\n      \"fingerprint\": "⟩,
    ⟨p.credentials.utlsFingerprint, [],
      lit "    \x7d,\n    \"reality\": \x7b\n      \"enabled\": true,\n      \"public_key\": "⟩,
    ⟨p.credentials.publicKey, lit ",", lit "      \"short_id\": "⟩,
    ⟨p.credentials.shortID, [], lit
      ("    \x7d\n  \x7d,\n  \"multiplex\": \x7b\n    \"enabled\": true,\n    \"protocol\": \"smux\",\n" ++
        "    \"padding\": true,\n    \"brutal_capacity\": 100\n  \x7d\n\x7d")⟩]

def hysteria2Holes (p : Profile) : List Hole :=
  [hostHole p (lit "  \"up_mbps\": 50,\n  \"down_mbps\": 100,\n  \"password\": "),
    ⟨p.credentials.password, lit ",",
      lit "  \"obfs\": \x7b\n    \"type\": \"salamander\",\n    \"password\": "⟩,
    ⟨p.credentials.obfsPassword, [],
      lit "  \x7d,\n  \"tls\": \x7b\n    \"enabled\": true,\n    \"server_name\": "⟩,
    ⟨p.credentials.sni, lit ",", lit "    \"insecure\": false\n  \x7d\n\x7d"⟩]

def tuicHoles (p : Profile) : List Hole :=
  [hostHole p (lit "  \"uuid\": "), ⟨p.credentials.uuid, lit ",", lit "  \"password\": "⟩,
    ⟨p.credentials.password, lit ",", lit
      ("  \"congestion_control\": \"bbr\",\n  \"udp_relay_mode\": \"native\",\n  \"tls\": \x7b\n" ++
        "    \"enabled\": true,\n    \"server_name\": ")⟩,
    ⟨p.credentials.sni, lit ",", lit "    \"alpn\": [\"h3\", \"spdy/3.1\"]\n  \x7d\n\x7d"⟩]

theorem profileField_endpoint (p : Profile) :
    profileField [lit "Endpoint", lit "Host"] p = some p.endpoint.host ∧
      profileField [lit "Endpoint", lit "Port"] p = some (itoa p.endpoint.port.toInt) := ⟨rfl, rfl⟩

theorem profileField_credentials (p : Profile) :
    profileField [lit "Credentials", lit "UUID"] p = some p.credentials.uuid ∧
      profileField [lit "Credentials", lit "Password"] p = some p.credentials.password ∧
      profileField [lit "Credentials", lit "PublicKey"] p = some p.credentials.publicKey ∧
      profileField [lit "Credentials", lit "ShortID"] p = some p.credentials.shortID ∧
      profileField [lit "Credentials", lit "SNI"] p = some p.credentials.sni ∧
      profileField [lit "Credentials", lit "UTLSFingerprint"] p =
        some p.credentials.utlsFingerprint ∧
      profileField [lit "Credentials", lit "ObfsPassword"] p = some p.credentials.obfsPassword :=
  ⟨rfl, rfl, rfl, rfl, rfl, rfl, rfl⟩

set_option maxRecDepth 10000 in
theorem render_reality (other : Bytes → Profile → Except TextTemplate.Failure Bytes) (p : Profile) :
    (profileEngine other).render realityTemplate p =
      .ok (templateFront "vless" ++ ((realityHoles p).flatMap Hole.text ++ [0x0A])) := by
  have lexed : TextTemplate.pieces realityTemplate = some
      [.text (templateFront "vless" ++ [0x22]), .field [lit "Endpoint", lit "Host"],
        .text (0x22 :: (lit "," ++ 0x0A :: lit "  \"server_port\": ")),
        .field [lit "Endpoint", lit "Port"],
        .text (lit ",\n" ++ (lit "  \"uuid\": " ++ [0x22])), .field [lit "Credentials", lit "UUID"],
        .text (0x22 :: (lit "," ++ 0x0A :: (lit
          ("  \"flow\": \"xtls-rprx-vision\",\n  \"packet_encoding\": \"xudp\",\n  \"tls\": \x7b\n" ++
            "    \"enabled\": true,\n    \"server_name\": ") ++ [0x22]))),
        .field [lit "Credentials", lit "SNI"],
        .text (0x22 :: (lit "," ++ 0x0A :: (lit
          "    \"utls\": \x7b\n      \"enabled\": true,\n      \"fingerprint\": " ++ [0x22]))),
        .field [lit "Credentials", lit "UTLSFingerprint"],
        .text (0x22 :: 0x0A :: (lit
          "    \x7d,\n    \"reality\": \x7b\n      \"enabled\": true,\n      \"public_key\": " ++ [0x22])),
        .field [lit "Credentials", lit "PublicKey"],
        .text (0x22 :: (lit "," ++ 0x0A :: (lit "      \"short_id\": " ++ [0x22]))),
        .field [lit "Credentials", lit "ShortID"],
        .text (0x22 :: 0x0A :: (lit
          ("    \x7d\n  \x7d,\n  \"multiplex\": \x7b\n    \"enabled\": true,\n    \"protocol\": \"smux\",\n" ++
            "    \"padding\": true,\n    \"brutal_capacity\": 100\n  \x7d\n\x7d") ++ [0x0A]))] := by
    simp only [realityTemplate, templateFront, lit_append]
    repeat rw [lit_ofList]
    decide
  rw [TextTemplate.Engine.render, lexed]
  simp only [Option.bind_some, List.mapM_cons, List.mapM_nil, TextTemplate.Engine.piece,
    profileEngine, profileField_endpoint, profileField_credentials, Option.pure_def,
    Option.bind_eq_bind, List.flatten_cons, List.flatten_nil]
  simp only [realityHoles, hostHole, Hole.text, List.flatMap_cons, List.flatMap_nil,
    List.append_assoc, List.cons_append, List.append_nil, List.nil_append]

set_option maxRecDepth 10000 in
theorem render_hysteria2 (other : Bytes → Profile → Except TextTemplate.Failure Bytes) (p : Profile) :
    (profileEngine other).render hysteria2Template p =
      .ok (templateFront "hysteria2" ++ ((hysteria2Holes p).flatMap Hole.text ++ [0x0A])) := by
  have lexed : TextTemplate.pieces hysteria2Template = some
      [.text (templateFront "hysteria2" ++ [0x22]), .field [lit "Endpoint", lit "Host"],
        .text (0x22 :: (lit "," ++ 0x0A :: lit "  \"server_port\": ")),
        .field [lit "Endpoint", lit "Port"],
        .text (lit ",\n" ++
          (lit "  \"up_mbps\": 50,\n  \"down_mbps\": 100,\n  \"password\": " ++ [0x22])),
        .field [lit "Credentials", lit "Password"],
        .text (0x22 :: (lit "," ++ 0x0A ::
          (lit "  \"obfs\": \x7b\n    \"type\": \"salamander\",\n    \"password\": " ++ [0x22]))),
        .field [lit "Credentials", lit "ObfsPassword"],
        .text (0x22 :: 0x0A ::
          (lit "  \x7d,\n  \"tls\": \x7b\n    \"enabled\": true,\n    \"server_name\": " ++ [0x22])),
        .field [lit "Credentials", lit "SNI"],
        .text (0x22 :: (lit "," ++ 0x0A :: (lit "    \"insecure\": false\n  \x7d\n\x7d" ++ [0x0A])))] := by
    simp only [hysteria2Template, templateFront, lit_append]
    repeat rw [lit_ofList]
    decide
  rw [TextTemplate.Engine.render, lexed]
  simp only [Option.bind_some, List.mapM_cons, List.mapM_nil, TextTemplate.Engine.piece,
    profileEngine, profileField_endpoint, profileField_credentials, Option.pure_def,
    Option.bind_eq_bind, List.flatten_cons, List.flatten_nil]
  simp only [hysteria2Holes, hostHole, Hole.text, List.flatMap_cons, List.flatMap_nil,
    List.append_assoc, List.cons_append, List.append_nil, List.nil_append]

set_option maxRecDepth 10000 in
theorem render_tuic (other : Bytes → Profile → Except TextTemplate.Failure Bytes) (p : Profile) :
    (profileEngine other).render tuicTemplate p =
      .ok (templateFront "tuic" ++ ((tuicHoles p).flatMap Hole.text ++ [0x0A])) := by
  have lexed : TextTemplate.pieces tuicTemplate = some
      [.text (templateFront "tuic" ++ [0x22]), .field [lit "Endpoint", lit "Host"],
        .text (0x22 :: (lit "," ++ 0x0A :: lit "  \"server_port\": ")),
        .field [lit "Endpoint", lit "Port"],
        .text (lit ",\n" ++ (lit "  \"uuid\": " ++ [0x22])), .field [lit "Credentials", lit "UUID"],
        .text (0x22 :: (lit "," ++ 0x0A :: (lit "  \"password\": " ++ [0x22]))),
        .field [lit "Credentials", lit "Password"],
        .text (0x22 :: (lit "," ++ 0x0A :: (lit
          ("  \"congestion_control\": \"bbr\",\n  \"udp_relay_mode\": \"native\",\n  \"tls\": \x7b\n" ++
            "    \"enabled\": true,\n    \"server_name\": ") ++ [0x22]))),
        .field [lit "Credentials", lit "SNI"],
        .text (0x22 :: (lit "," ++ 0x0A ::
          (lit "    \"alpn\": [\"h3\", \"spdy/3.1\"]\n  \x7d\n\x7d" ++ [0x0A])))] := by
    simp only [tuicTemplate, templateFront, lit_append]
    repeat rw [lit_ofList]
    decide
  rw [TextTemplate.Engine.render, lexed]
  simp only [Option.bind_some, List.mapM_cons, List.mapM_nil, TextTemplate.Engine.piece,
    profileEngine, profileField_endpoint, profileField_credentials, Option.pure_def,
    Option.bind_eq_bind, List.flatten_cons, List.flatten_nil]
  simp only [tuicHoles, hostHole, Hole.text, List.flatMap_cons, List.flatMap_nil,
    List.append_assoc, List.cons_append, List.append_nil, List.nil_append]

end ShadowNet
