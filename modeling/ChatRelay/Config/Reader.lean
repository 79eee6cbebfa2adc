import ChatRelay.Config.Basic
import ChatRelay.Toml.Reader

/-!
Reading a configuration from a TOML document. What the document leaves out has its default, and
what the configuration does not know is passed over.
-/

namespace ChatRelay.Config

/-- How an entry of a section is read: its name, and the change that its value makes. -/
structure Entry (σ : Type) where
  name : String
  set : Toml → σ → Option σ

def entry (name : String) (read : Toml → Option α) (set : α → σ → σ) : Entry σ :=
  ⟨name, fun value s => (read value).map (set · s)⟩

/-- Changes a section entry by entry, as far as there are values. -/
def setAll : List (Entry σ × Toml) → σ → Option σ
  | [], s => some s
  | (e, value) :: rest, s => (e.set value s).bind (setAll rest)

/-- A section: a table by the names of its entries, or a list by their order. -/
def readSection (entries : List (Entry σ)) (start : σ) : Toml → Option σ
  | .table _ values =>
    setAll (entries.filterMap fun e => (values.lookup e.name).map fun v => (e, v)) start
  | .array items => setAll (entries.zip items) start
  | .tables elements => setAll (entries.zip (elements.map (.table .header))) start
  | _ => none

def readText : Toml → Option String
  | .string s => some s
  | _ => none

def readNatBelow (bound : Nat) : Toml → Option Nat
  | .integer n => if 0 ≤ n ∧ n < bound then some n.toNat else none
  | _ => none

/-- A double; a whole number is rounded to one. -/
def readDouble : Toml → Option Number.Extended
  | .float x => some x
  | .integer n => (Number.Double.ofQuotient (n < 0) n.natAbs 1).map .finite
  | _ => none

def readTexts : Toml → Option (List String)
  | .array items => items.mapM readText
  | _ => none

def serverEntries : List (Entry Server) := [
  entry "port" (readNatBelow UInt16.size) fun x s => { s with port := x },
  entry "host" readText fun x s => { s with host := x }]

def backendEntries : List (Entry Backend) := [
  entry "url" readText fun x s => { s with url := x },
  entry "websocket_path" readText fun x s => { s with socketPath := x },
  entry "proxy" readText fun x s => { s with proxy := some x }]

def endpointEntries : List (Entry Endpoint.Paths) := [
  entry "generate" readText fun x s => { s with generate := x },
  entry "generate_stream" readText fun x s => { s with generateStream := x },
  entry "chat" readText fun x s => { s with chat := x },
  entry "chat_stream" readText fun x s => { s with chatStream := x },
  entry "context_aware_rag" readText fun x s => { s with rag := x }]

def routesEntries : List (Entry Routes) := [
  entry "http_root" readText fun x s => { s with httpRoot := x },
  entry "websocket_path" readText fun x s => { s with socketPath := x },
  entry "allowed_paths" readTexts fun x s => { s with allowedPaths := x },
  entry "cors_origin" readText fun x s => { s with corsOrigin := x },
  entry "endpoints" (readSection endpointEntries {}) fun x s => { s with endpoints := x }]

def chatEntries : List (Entry Chat.Defaults) := [
  entry "model" readText fun x s => { s with model := x },
  entry "temperature" readDouble fun x s => { s with temperature := x }]

def timeoutEntries : List (Entry Timeouts) := [
  entry "request_timeout" (readNatBelow UInt64.size) fun x s => { s with request := x },
  entry "connect_timeout" (readNatBelow UInt64.size) fun x s => { s with connect := x },
  entry "stream_idle_timeout" (readNatBelow UInt64.size) fun x s => { s with streamIdle := x }]

def sections : List (Entry Config) := [
  entry "server" (readSection serverEntries {}) fun x c => { c with server := x },
  entry "backend" (readSection backendEntries {}) fun x c => { c with backend := x },
  entry "routes" (readSection routesEntries {}) fun x c => { c with routes := x },
  entry "chat" (readSection chatEntries {}) fun x c => { c with chat := x },
  entry "rag" (readSection [entry "uuid" readText fun x _ => x] ({} : Config).ragUuid)
    fun x c => { c with ragUuid := x },
  entry "timeouts" (readSection timeoutEntries {}) fun x c => { c with timeouts := x }]

def ofToml? (value : Toml) : Option Config :=
  readSection sections {} value

def parse? (document : String) : Option Config :=
  (Toml.parse? document).bind ofToml?

end ChatRelay.Config
