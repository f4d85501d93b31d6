import ShadowNet.Go.TextTemplate
import ShadowNet.Go.Unicode
import ShadowNet.Profile.Types

/-! # Profiles in templates

The template key of a profile and the profile fields that a template may splice in. Fields that do
not print as a plain string, integer or boolean are left to the template package.
-/

namespace ShadowNet

open Go

/-- The template a profile is rendered with: its own, or the one of its family. -/
def templateKey (p : Profile) : GoString := if isBlank p.templateRef then p.family else p.templateRef

def printBool (value : Bool) : Bytes := if value then lit "true" else lit "false"

/-- What `{{.A.B}}` prints for a profile. -/
def profileFields : List (List GoString × (Profile → Bytes)) :=
  [([lit "ID"], (·.id)), ([lit "Family"], (·.family)),
    ([lit "Enabled"], fun p => printBool p.enabled),
    ([lit "ManualDisabled"], fun p => printBool p.manualDisabled),
    ([lit "CreatedAt"], fun p => itoa p.createdAt.toInt),
    ([lit "ExpiresAt"], fun p => itoa p.expiresAt.toInt),
    ([lit "Priority"], fun p => itoa p.priority.toInt), ([lit "TemplateRef"], (·.templateRef)),
    ([lit "Endpoint", lit "Host"], (·.endpoint.host)),
    ([lit "Endpoint", lit "Port"], fun p => itoa p.endpoint.port.toInt),
    ([lit "Endpoint", lit "IPVersion"], (·.endpoint.ipVersion)),
    ([lit "Capabilities", lit "Transport"], (·.capabilities.transport)),
    ([lit "Capabilities", lit "BandwidthClass"], (·.capabilities.bandwidthClass)),
    ([lit "Credentials", lit "UUID"], (·.credentials.uuid)),
    ([lit "Credentials", lit "Password"], (·.credentials.password)),
    ([lit "Credentials", lit "PublicKey"], (·.credentials.publicKey)),
    ([lit "Credentials", lit "ShortID"], (·.credentials.shortID)),
    ([lit "Credentials", lit "SNI"], (·.credentials.sni)),
    ([lit "Credentials", lit "UTLSFingerprint"], (·.credentials.utlsFingerprint)),
    ([lit "Credentials", lit "ObfsPassword"], (·.credentials.obfsPassword)),
    ([lit "Source", lit "Source"], (·.source.source)),
    ([lit "Source", lit "TrustLevel"], fun p => itoa p.source.trustLevel.toInt),
    ([lit "Source", lit "ImportedAt"], fun p => itoa p.source.importedAt.toInt),
    ([lit "Source", lit "PublisherKey"], (·.source.publisherKey)), ([lit "Notes"], (·.notes)),
    ([lit "MutationPolicy", lit "MaxMutationsPerHour"],
      fun p => itoa p.mutationPolicy.maxMutationsPerHour.toInt),
    ([lit "Health", lit "MedianHandshakeMs"], fun p => itoa p.health.medianHandshakeMs.toInt),
    ([lit "Health", lit "LastOkAt"], fun p => itoa p.health.lastOkAt.toInt),
    ([lit "Health", lit "LastFailAt"], fun p => itoa p.health.lastFailAt.toInt),
    ([lit "Health", lit "LastFailReason"], (·.health.lastFailReason)),
    ([lit "Health", lit "CooldownUntil"], fun p => itoa p.health.cooldownUntil.toInt),
    ([lit "Health", lit "FailureCount"], fun p => itoa p.health.failureCount.toInt),
    ([lit "Health", lit "ConsecutiveFails"], fun p => itoa p.health.consecutiveFails.toInt)]

def profileField (path : List GoString) (p : Profile) : Option Bytes :=
  (profileFields.find? fun field => field.1 = path).map fun field => field.2 p

/-- `text/template` on profiles, up to the templates that do more than splice fields. -/
def profileEngine (other : Bytes → Profile → Except TextTemplate.Failure Bytes) :
    TextTemplate.Engine Profile :=
  ⟨profileField, other⟩

end ShadowNet
