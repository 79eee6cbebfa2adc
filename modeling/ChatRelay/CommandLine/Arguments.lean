import ChatRelay.Number.Numeral
import ChatRelay.Text.Blank

/-!
The arguments of the command line: options of the program, a command, and options of the command.
The words are read from left to right by a machine that remembers which option still waits for
its value.
-/

namespace ChatRelay.CommandLine

/-- What the program is asked to do. -/
inductive Command where
  | start (port : Option Nat) (backend : Option String)
  | status
  | checkPath (path : String) (isSocket : Bool)
  deriving DecidableEq, Repr

/-- A call of the program: its command, the configuration file it names, and how much it logs. -/
structure Invocation where
  command : Command
  config : Option String
  logLevel : String
  deriving DecidableEq, Repr

/-- Why there is nothing to run: the arguments are wrong, or ask for the version or for help. -/
inductive Stop where
  | usage
  | version
  | help
  deriving DecidableEq, Repr

/-- The names of the commands. -/
inductive Name where
  | start
  | status
  | checkPath
  deriving DecidableEq, Repr

def Name.ofText? : String → Option Name
  | "start" => some .start
  | "status" => some .status
  | "check-path" => some .checkPath
  | _ => none

inductive Key where
  | config
  | logLevel
  | port
  | backend
  | socket
  | version
  | help
  deriving DecidableEq, Repr

/-- How an option is written, and whether a value follows it. -/
structure Flag where
  key : Key
  short : Option Char
  long : String
  hasValue : Bool
  deriving DecidableEq, Repr

def everywhere : List Flag :=
  [⟨.config, some 'c', "config", true⟩, ⟨.logLevel, none, "log-level", true⟩,
    ⟨.help, some 'h', "help", false⟩]

def flags : Option Name → List Flag
  | none => everywhere ++ [⟨.version, some 'V', "version", false⟩]
  | some .start =>
    everywhere ++ [⟨.port, some 'p', "port", true⟩, ⟨.backend, some 'b', "backend", true⟩]
  | some .status => everywhere
  | some .checkPath => everywhere ++ [⟨.socket, none, "websocket", false⟩]

def wordLimit : Name → Nat
  | .checkPath => 1
  | .start | .status => 0

/-- The words read so far: the command, the values of options before and after it, the other
words, the option that waits for its value, and whether all further words are plain. -/
structure Progress where
  name : Option Name := none
  before : List (Key × String) := []
  after : List (Key × String) := []
  words : List String := []
  pending : Option Key := none
  isPlain : Bool := false
  deriving Repr

def port? (s : String) : Option Nat := do
  let n ← Number.readInt64? s.toList
  if 0 ≤ n ∧ n < UInt16.size then some n.toNat else none

def accepts (key : Key) (value : String) : Bool :=
  match key with
  | .config => value != ""
  | .port => (port? value).isSome
  | _ => true

namespace Progress

/-- Takes in an option with its value, once before the command and once after it. -/
def record (p : Progress) (key : Key) (value : String) : Except Stop Progress :=
  let seen := if p.name.isNone then p.before else p.after
  if key = .version then .error .version
  else if key = .help then .error .help
  else if (seen.lookup key).isSome || !accepts key value then .error .usage
  else if p.name.isNone then .ok { p with before := (key, value) :: p.before, pending := none }
  else .ok { p with after := (key, value) :: p.after, pending := none }

def long (p : Progress) (cs : List Char) : Except Stop Progress :=
  let (name, value) := cs.span (· != '=')
  match (flags p.name).find? (·.long == String.ofList name) with
  | none => .error .usage
  | some flag =>
    match flag.hasValue, value with
    | true, [] => .ok { p with pending := some flag.key }
    | true, _ :: value => p.record flag.key (String.ofList value)
    | false, [] => p.record flag.key ""
    | false, _ :: _ => .error .usage

/-- Options in their short form, after one dash; the rest after one with a value is the value. -/
def short (p : Progress) : List Char → Except Stop Progress
  | [] => .ok p
  | c :: cs =>
    match (flags p.name).find? (·.short == some c) with
    | none => .error .usage
    | some flag =>
      match flag.hasValue, cs with
      | false, cs => (p.record flag.key "").bind (short · cs)
      | true, [] => .ok { p with pending := some flag.key }
      | true, '=' :: value => p.record flag.key (String.ofList value)
      | true, value => p.record flag.key (String.ofList value)

/-- A word that is no option: the command, or one of its words. -/
def word (p : Progress) (s : String) : Except Stop Progress :=
  match p.name with
  | none =>
    if p.isPlain then .error .usage
    else if s = "help" then .error .help
    else match Name.ofText? s with
      | some name => .ok { p with name := some name }
      | none => .error .usage
  | some name =>
    if p.words.length < wordLimit name then .ok { p with words := p.words ++ [s] }
    else .error .usage

def take (p : Progress) (s : String) : Except Stop Progress :=
  if p.isPlain then p.word s
  else
    let cs := s.toList
    let isOption := cs.head? == some '-' && cs != ['-']
    match p.pending with
    | some key => if isOption then .error .usage else p.record key s
    | none =>
      if !isOption then p.word s
      else match cs with
        | '-' :: '-' :: [] => .ok { p with isPlain := true }
        | '-' :: '-' :: cs => p.long cs
        | _ :: cs => p.short cs
        | [] => p.word s

/-- The value of an option; one after the command counts more than one before it. -/
def value? (p : Progress) (key : Key) : Option String :=
  p.after.lookup key <|> p.before.lookup key

def command? (p : Progress) : Option Command := do
  match ← p.name with
  | .start => some (.start ((p.value? .port).bind port?) (p.value? .backend))
  | .status => some .status
  | .checkPath =>
    let path ← p.words.head?
    some (.checkPath path (p.value? .socket).isSome)

def finish (p : Progress) : Except Stop Invocation :=
  match p.pending, p.command? with
  | none, some command =>
    .ok ⟨command, p.value? .config, (p.value? .logLevel).getD "info"⟩
  | _, _ => .error .usage

end Progress

def parse (args : List String) : Except Stop Invocation :=
  (args.foldlM Progress.take {}).bind Progress.finish

end ChatRelay.CommandLine
