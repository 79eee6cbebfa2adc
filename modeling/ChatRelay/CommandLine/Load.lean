import ChatRelay.CommandLine.Log
import ChatRelay.Config.Reader

/-!
Finding the configuration: the file that is named, else the one in the working directory, else
the one under the home directory, else the defaults.
-/

namespace ChatRelay.CommandLine

inductive File where
  | missing
  | unreadable (reason : String)
  | text (contents : String)
  deriving DecidableEq, Repr

/-- What a command sees of the machine: files, the home directory, whether an address can be
listened on, and the status with which a URL answers if it does. -/
structure Host where
  file : String → File
  home : String
  listen : (host : String) → (port : Nat) → Except String Unit
  get : (url : String) → Option Nat

def localFile : String := "config.toml"

def Host.defaultFile (h : Host) : String :=
  h.home ++ "/.config/agent-relay/config.toml"

/-- The files that a command looks at, in their order: the one that is named, or else the two
usual ones. -/
def Host.sources (h : Host) (path : Option String) : List String :=
  match path with
  | some path => [path]
  | none => [localFile, h.defaultFile]

def notToml : String := "TOML parse error"

def readFile (contents : File) (path : String) : Except String Config :=
  match contents with
  | .missing => .error ("Specified config file not found: " ++ Text.quoted path)
  | .unreadable reason => .error reason
  | .text document =>
    match Config.parse? document with
    | some c => .ok c
    | none => .error notToml

/-- The configuration in the file under the home directory, or the defaults, with what is logged
about it. -/
def Host.readDefault (h : Host) : Except String (Config × List Line) :=
  match h.file h.defaultFile with
  | .missing => .ok ({}, [.info "No config file found, using defaults"])
  | contents => do
    let c ← readFile contents h.defaultFile
    .ok (c, [.info ("Loaded config from default path " ++ Text.quoted h.defaultFile)])

/-- Goes on with the file under the home directory after a failure that is only logged. -/
def Host.fallBack (h : Host) (failure : String) : Except String (Config × List Line) := do
  let (c, lines) ← h.readDefault
  .ok (c, ⟨.error, failure ++ ". Falling back to default path."⟩ :: lines)

def Host.read (h : Host) (path : Option String) : Except String (Config × List Line) :=
  match path with
  | some path => do
    let c ← readFile (h.file path) path
    .ok (c, [.info ("Loaded config from specified path " ++ Text.quoted path)])
  | none =>
    match h.file localFile with
    | .missing => h.readDefault
    | .unreadable reason => h.fallBack ("Failed to read ./config.toml: " ++ reason)
    | .text document =>
      match Config.parse? document with
      | some c =>
        .ok (c, [.info ("Loaded config from current directory " ++ Text.quoted localFile)])
      | none => h.fallBack ("Failed to parse ./config.toml: " ++ notToml)

def Host.load (h : Host) (path : Option String) : Except String (Config × List Line) := do
  let (c, lines) ← h.read path
  c.check.mapError (·.message)
  .ok (c, lines)

end ChatRelay.CommandLine
