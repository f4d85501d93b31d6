import ShadowNet.Go.Json.Encode
import ShadowNet.Go.Json.Indent
import ShadowNet.Go.Path
import ShadowNet.Bundle.Verify

/-! # The configuration generator

`ConfigGenerator.Generate` renders the template of a decision's protocol with a profile made up from
the decision, and puts the result into a fixed configuration. The template file and the random bytes
that it reads are arguments.
-/

namespace ShadowNet

open Go Go.Json

structure DecisionParameters where
  sni : GoString := []
  utls : GoString := []
  port : Int64 := 0
deriving DecidableEq

structure LLMDecision where
  protocol : GoString := []
  parameters : DecisionParameters := {}
  rotationIntervalSec : Int64 := 0
  enableBTMesh : Bool := false
  explanation : GoString := []
deriving DecidableEq

/-- The template package and the template directory. -/
structure ConfigGenerator where
  engine : TextTemplate.Engine Profile
  templateDir : GoString

/-- The base configuration before its first outbound. -/
def baseConfigHead : GoString :=
  lit "\x7b
\t\t\"log\": \x7b \"level\": \"error\", \"timestamp\": true \x7d,
\t\t\"dns\": \x7b
\t\t\t\"servers\": [
\t\t\t\t\x7b \"tag\": \"remote\", \"address\": \"https://1.1.1.1/dns-query\", \"detour\": \"proxy\" \x7d,
\t\t\t\t\x7b \"tag\": \"local\", \"address\": \"local\", \"detour\": \"direct\" \x7d
\t\t\t],
\t\t\t\"rules\": [ \x7b \"outbound\": \"any\", \"server\": \"local\" \x7d ]
\t\t\x7d,
\t\t\"inbounds\": [
\t\t\t\x7b
\t\t\t\t\"type\": \"tun\",
\t\t\t\t\"tag\": \"tun-in\",
\t\t\t\t\"interface_name\": \"tun0\",
\t\t\t\t\"inet4_address\": \"172.19.0.1/30\",
\t\t\t\t\"auto_route\": true,
\t\t\t\t\"strict_route\": true,
\t\t\t\t\"stack\": \"system\",
\t\t\t\t\"sniff\": true
\t\t\t\x7d
\t\t],
\t\t\"outbounds\": [
\t\t\t"

def baseConfigTail : GoString :=
  lit ",
\t\t\t\x7b \"type\": \"direct\", \"tag\": \"direct\" \x7d,
\t\t\t\x7b \"type\": \"block\", \"tag\": \"block\" \x7d
\t\t],
\t\t\"route\": \x7b
\t\t\t\"rules\": [
\t\t\t\t\x7b \"ip_is_private\": true, \"outbound\": \"direct\" \x7d
\t\t\t],
\t\t\t\"final\": \"proxy\"
\t\t\x7d
\t\x7d"

/-- `generateRandomHex` on the bytes that it drew. -/
def randomHex (drawn : Bytes) : GoString :=
  drawn.flatMap fun byte => [hexDigit (byte.toNat / 16), hexDigit (byte.toNat % 16)]

/-- What `Generate` reads. -/
structure GeneratorAnswers where
  readFile : GoString → Option Bytes
  drawn : Bytes

/-- The profile that the template is executed on. -/
def decisionProfile (decision : LLMDecision) (serverIP uuid pubKey shortID : GoString) : Profile where
  family := decision.protocol
  enabled := true
  endpoint := { host := serverIP, port := decision.parameters.port }
  credentials :=
    { uuid
      password := uuid
      publicKey := pubKey
      shortID
      sni := decision.parameters.sni
      utlsFingerprint := decision.parameters.utls
      obfsPassword := shortID }

/-- `ConfigGenerator.Generate`. -/
def ConfigGenerator.generate (g : ConfigGenerator) (answers : GeneratorAnswers)
    (decision : LLMDecision) (serverIP uuid pubKey : GoString) : Except Message Bytes :=
  match answers.readFile (pathJoin g.templateDir (decision.protocol ++ lit ".json")) with
  | none =>
      .error ⟨"failed to read protocol template %s: %w", [.str decision.protocol, .foreign]⟩
  | some text =>
      let data := decisionProfile decision serverIP uuid pubKey (randomHex answers.drawn)
      match g.engine.render text data with
      | .error .parse => .error ⟨"failed to parse template: %w", [.foreign]⟩
      | .error .execute => .error ⟨"failed to execute template: %w", [.foreign]⟩
      | .ok outbound =>
          let fullConfig := baseConfigHead ++ outbound ++ baseConfigTail
          match layOut (lit "  ") fullConfig with
          | none => .error ⟨"generated invalid JSON: %w\n%s", [.foreign, .str fullConfig]⟩
          | some pretty => .ok pretty

end ShadowNet
