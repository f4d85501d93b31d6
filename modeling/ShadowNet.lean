import ShadowNet.Android.Connection
import ShadowNet.Android.Restarts
import ShadowNet.Android.SecureStore
import ShadowNet.Android.SingBoxController
import ShadowNet.Bundle.Canonical
import ShadowNet.Bundle.Received
import ShadowNet.Bundle.VerifyAndDecrypt
import ShadowNet.Comms.Store
import ShadowNet.Import.Concurrent
import ShadowNet.Import.TemplateKeys
import ShadowNet.Inside.Daemon
import ShadowNet.Inside.EventStream
import ShadowNet.Inside.Redaction
import ShadowNet.Inside.Report
import ShadowNet.Inside.StateFile
import ShadowNet.Inside.Status
import ShadowNet.Installer.Verifier
import ShadowNet.Llm.LlamaCpp
import ShadowNet.Mesh.Network
import ShadowNet.Mesh.Queue
import ShadowNet.Mobile.Learning
import ShadowNet.Mobile.Provenance
import ShadowNet.Outside.ChunkLines
import ShadowNet.Outside.ChunkMix
import ShadowNet.Outside.Delivery
import ShadowNet.Outside.Generate
import ShadowNet.Outside.Reproducible
import ShadowNet.Outside.VerifyCommand
import ShadowNet.Policy.AdaptiveMemory
import ShadowNet.Policy.Failures
import ShadowNet.Policy.OrchestratorClient
import ShadowNet.Policy.Ranking
import ShadowNet.Policy.Rotation
import ShadowNet.Profile.MasterKey
import ShadowNet.Sing.Injection
import ShadowNet.Sing.Sound
import ShadowNet.Sing.Usable
import ShadowNet.Stores.Wipe
import ShadowNet.Website.DocLinks
import ShadowNet.Website.HeadingIds
import ShadowNet.Website.PrivacyFilter
import ShadowNet.Website.RuntimeDashboard
