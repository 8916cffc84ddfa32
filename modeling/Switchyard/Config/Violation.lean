/-
  Switchyard.Config.Violation
  ────────────────────────────
  What a configuration must satisfy before a server takes it.  All violations
  are reported, in a fixed order.
-/
import Switchyard.Config.Basic
import Switchyard.Net.Address
import Switchyard.Text.Blank

namespace Switchyard

/-- The two files that TLS needs. -/
inductive TlsFile where
  | certificate
  | key
  deriving DecidableEq, Repr, Inhabited

def TlsFile.field : TlsFile → String
  | .certificate => "cert_path"
  | .key => "key_path"

/-- A violated rule. -/
inductive Violation where
  | noWorkers
  | noQueueCapacity
  | noPortAttempts
  | tlsPortCollision (port : UInt16)
  | missingTlsPath (file : TlsFile)
  | invalidMetricsAddress (address : String)
  | missingApiKey
  deriving DecidableEq, Repr, Inhabited

def Violation.message : Violation → String
  | .noWorkers => "workers.count must be at least 1"
  | .noQueueCapacity => "workers.queue_capacity must be at least 1"
  | .noPortAttempts => "listener.port_retry_attempts must be at least 1"
  | .tlsPortCollision port =>
      s!"listener.tls.port {port} is already used by the plain listener"
  | .missingTlsPath file => "listener.tls." ++ file.field ++ " must not be empty"
  | .invalidMetricsAddress address =>
      s!"observability.metrics_address `{address}` is not a socket address"
  | .missingApiKey => "admin.api_key must be set when admin routes are enabled"

namespace Config

/-- The violation, if the condition holds. -/
def violates (condition : Prop) [Decidable condition] (v : Violation) : List Violation :=
  if condition then [v] else []

def tlsViolations (plainPort : UInt16) (tls : TlsConfig) : List Violation :=
  violates (tls.port ≠ 0 ∧ tls.port = plainPort) (.tlsPortCollision tls.port)
    ++ violates (tls.certPath = "") (.missingTlsPath .certificate)
    ++ violates (tls.keyPath = "") (.missingTlsPath .key)

/-- The rules that a configuration violates, in order. -/
def violations (c : Config) : List Violation :=
  violates (c.workers.count = .exactly 0) .noWorkers
    ++ violates (c.workers.queueCapacity = 0) .noQueueCapacity
    ++ violates (c.listener.portRetryAttempts = 0) .noPortAttempts
    ++ (match c.listener.tls with
        | some tls => tlsViolations c.listener.port tls
        | none => [])
    ++ violates (c.observability.metricsEnabled ∧
          SocketAddress.parse? c.observability.metricsAddress = none)
        (.invalidMetricsAddress c.observability.metricsAddress)
    ++ violates (c.admin.enabled ∧ Text.isBlankText c.admin.apiKey) .missingApiKey

/-- A configuration that violates no rule. -/
def IsValid (c : Config) : Prop := c.violations = []

instance (c : Config) : Decidable c.IsValid := inferInstanceAs (Decidable (_ = _))

end Config

end Switchyard
