import ChatRelay.CommandLine.Arguments
import ChatRelay.CommandLine.Load
import ChatRelay.Http.Status
import ChatRelay.Relay.Basic

/-!
What the commands do: check a path, show the state of things, or run the relay until it is told
to stop.
-/

namespace ChatRelay.CommandLine

/-- What a run leaves behind: its exit code, its output, its complaint, and its log. -/
structure Outcome where
  code : Nat
  output : String := ""
  complaint : Option String := none
  log : List Line := []
  deriving DecidableEq, Repr

def Outcome.failed (reason : String) (log : List Line) : Outcome :=
  { code := 1, complaint := some ("Error: " ++ reason), log }

def unlines (lines : List String) : String :=
  String.join (lines.map (· ++ "\n"))

/-! ### Checking a path -/

/-- What is said about an allowed path, or about one that is turned away. -/
def verdict (path : String) : Except String String → String
  | .ok target => "ALLOWED  " ++ path ++ " -> " ++ target ++ "\n"
  | .error reason => "REJECTED " ++ path ++ " (" ++ reason ++ ")\n"

def socketTarget (c : Config) : String := c.backend.url ++ c.backend.socketPath

def checkSocket (c : Config) (path : String) : String :=
  verdict path <|
    ((Gate.checkUpgrade c.routes.socketPath.toList path.toList).mapError (·.message)).map
      fun () => socketTarget c

/-- How a backend path is served: by the name of its endpoint, or passed on. -/
def handling (c : Config) (backendPath : List Char) : String :=
  ((c.routes.endpoints.resolve? (String.ofList backendPath)).map (·.name)).getD "passthrough"

def checkPath (c : Config) (path : String) : String :=
  verdict path <| (c.allowlist.resolve path.toList).mapError (·.message) |>.map fun target =>
    String.ofList (target.url c.backend.url.toList) ++ " [" ++ handling c target.backendPath ++ "]"

/-! ### Showing the state of things -/

def relayState (h : Host) (c : Config) : String :=
  match h.get ("http://" ++ c.server.host ++ ":" ++ toString c.server.port ++ "/healthz") with
  | some status => if Http.isSuccess status then "Relay: RUNNING ✓" else "Relay: NOT RUNNING"
  | none => "Relay: NOT RUNNING"

def statusText (status : Nat) : String :=
  toString status ++ " " ++ (Http.reasons.lookup status).getD "<unknown status code>"

def backendState (h : Host) (c : Config) : String :=
  match h.get c.backend.url with
  | some status => "Backend: REACHABLE (" ++ statusText status ++ ")"
  | none => "Backend: UNREACHABLE"

def statusReport (h : Host) (c : Config) (path : Option String) : String :=
  unlines <| [
    "Agent Relay Status", "==================", "", "Configuration:",
    "  Config file: " ++ Text.quoted (path.getD h.defaultFile), "", "Server settings:",
    "  Host: " ++ c.server.host, "  Port: " ++ toString c.server.port,
    "  HTTP root: " ++ c.routes.httpRoot, "  WebSocket path: " ++ c.routes.socketPath, "",
    "Backend:", "  URL: " ++ c.backend.url, "  WebSocket path: " ++ c.backend.socketPath,
    "  Allowed paths:"] ++
    c.routes.allowedPaths.map (fun path => "    " ++ c.routes.httpRoot ++ path) ++
    ["", relayState h c, backendState h c]

/-! ### Running the relay -/

/-- Whether a URL can be a proxy's: it has a host, perhaps only once a scheme is put before it. -/
def isProxyUrl (s : String) : Bool :=
  let hasHost (cs : List Char) : Bool :=
    match Url.parse cs with
    | .ok url => url.host?.isSome
    | .error _ => false
  match Url.parse s.toList with
  | .ok url => url.host?.isSome || hasHost ("http://".toList ++ s.toList)
  | .error .relativeWithoutBase => hasHost ("http://".toList ++ s.toList)
  | .error _ => false

def proxyLines (c : Config) : List Line :=
  match c.backend.proxy with
  | none => []
  | some proxy =>
    if proxy = "" then []
    else if isProxyUrl proxy then [.info ("Using upstream proxy: " ++ proxy)]
    else [⟨.warn, "Ignoring invalid upstream proxy " ++ proxy ++ ": builder error"⟩]

/-- The configuration with the port and the backend of the command line. A new backend is
checked. -/
def override (c : Config) (port : Option Nat) (backend : Option String) :
    Except String Config := do
  let c := { c with server := { c.server with port := port.getD c.server.port } }
  match backend with
  | none => .ok c
  | some url =>
    let c := { c with backend := { c.backend with url } }
    c.check.mapError (·.message)
    .ok c

def startLines (c : Config) : List Line :=
  [.info "Starting Agent Relay...", .info ("  Host: " ++ c.server.host),
    .info ("  Port: " ++ toString c.server.port), .info ("  Backend: " ++ c.backend.url),
    .info ("  Allowed paths: " ++ String.intercalate ", " c.routes.allowedPaths)] ++
    proxyLines c ++ [
    .info ("Relay starting on http://" ++ c.server.host ++ ":" ++ toString c.server.port),
    .info "Press Ctrl+C to stop"]

/-- What is logged while the relay listens, until it is told to stop. -/
def runLines (c : Config) : List Line :=
  [.info ("Relay listening on " ++ c.server.host ++ ":" ++ toString c.server.port),
    .info ("Forwarding " ++ c.routes.httpRoot ++ "/* and " ++ c.routes.socketPath ++ " to " ++
      String.ofList (Relay.ofConfig c).backend),
    .info "Shutdown signal received", .info "Relay stopped"]

def start (h : Host) (c : Config) (lines : List Line) (port : Option Nat)
    (backend : Option String) : Outcome :=
  match override c port backend with
  | .error reason => Outcome.failed reason lines
  | .ok c =>
    let lines := lines ++ startLines c
    match h.listen c.server.host c.server.port with
    | .error reason => Outcome.failed reason lines
    | .ok () => { code := 0, log := lines ++ runLines c }

/-! ### The whole program -/

def perform (h : Host) (i : Invocation) (c : Config) (lines : List Line) : Outcome :=
  match i.command with
  | .start port backend => start h c lines port backend
  | .status => { code := 0, output := statusReport h c i.config, log := lines }
  | .checkPath path isSocket =>
    { code := 0, output := if isSocket then checkSocket c path else checkPath c path,
      log := lines }

/-- Runs an invocation; only the lines up to its level are logged. -/
def invoke (h : Host) (i : Invocation) : Outcome :=
  match rankOf i.logLevel with
  | .error fault => Outcome.failed fault.message []
  | .ok rank =>
    let outcome : Outcome := match h.load i.config with
      | .error reason => Outcome.failed reason []
      | .ok (c, lines) => perform h i c lines
    { outcome with log := shown rank outcome.log }

def versionText : String := "agent-relay 0.1.0\n"

def helpText : String := unlines [
  "Usage: agent-relay [OPTIONS] <COMMAND>", "", "Commands:",
  "  start       Start the relay server",
  "  status      Show configuration and whether the relay and backend respond",
  "  check-path  Check a path against the configured allowlist", "", "Options:",
  "  -c, --config <CONFIG>        Path to config file",
  "      --log-level <LOG_LEVEL>  Log level (error, warn, info, debug, trace)",
  "  -h, --help                   Print help",
  "  -V, --version                Print version"]

def run (h : Host) (args : List String) : Outcome :=
  match parse args with
  | .ok invocation => invoke h invocation
  | .error .version => { code := 0, output := versionText }
  | .error .help => { code := 0, output := helpText }
  | .error .usage => { code := 2 }

end ChatRelay.CommandLine
