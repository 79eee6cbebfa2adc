import ChatRelay.Config.Basic
import ChatRelay.Rag.Sessions

/-!
A relay as it runs: what its handlers need of the configuration.
-/

namespace ChatRelay

/-- What the handlers of a relay share. -/
structure Relay where
  allowlist : Gate.Allowlist
  socketPath : List Char
  endpoints : Endpoint.Paths
  chat : Chat.Defaults
  corsOrigin : String
  idleSeconds : Nat
  backend : List Char
  backendSocketPath : List Char
  deriving DecidableEq, Repr

namespace Relay

/-- The relay of a configuration; the slashes at the end of the backend's URL are dropped. -/
def ofConfig (c : Config) : Relay where
  allowlist := c.allowlist
  socketPath := c.routes.socketPath.toList
  endpoints := c.routes.endpoints
  chat := c.chat
  corsOrigin := c.routes.corsOrigin
  idleSeconds := c.timeouts.streamIdle
  backend := Gate.trimSlashes c.backend.url.toList
  backendSocketPath := c.backend.socketPath.toList

end Relay

end ChatRelay
