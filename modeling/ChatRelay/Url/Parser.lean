import ChatRelay.Url.Basic
import ChatRelay.Text.Blank

/-!
Reading URLs, alone or relative to a special one, by the rules that browsers and HTTP clients
share: blanks around a text and tabs and line ends in it do not count, special URLs may use
backslashes, and dot segments are resolved.
-/

namespace ChatRelay.Url

def isUnseen (c : Char) : Bool := c == '\t' || c == '\n' || c == '\r'

def isEdge (c : Char) : Bool := c.toNat ≤ 0x20

def clean (cs : List Char) : List Char :=
  (Text.dropEnd isEdge (cs.dropWhile isEdge)).filter (!isUnseen ·)

/-! ### Scheme -/

def lower (c : Char) : Char := c.toLower

def isSchemeChar (c : Char) : Bool :=
  c.isAlpha || c.isDigit || c == '+' || c == '-' || c == '.'

def splitScheme? (cs : List Char) : Option (List Char × List Char) :=
  if cs.head?.any Char.isAlpha then
    match cs.span isSchemeChar with
    | (scheme, ':' :: rest) => some (scheme.map lower, rest)
    | _ => none
  else none

/-! ### Authority -/

def isSlash (kind : Kind) (c : Char) : Bool :=
  c == '/' || c == '\\' && kind != .general

def endsAuthority (kind : Kind) (c : Char) : Bool :=
  isSlash kind c || c == '?' || c == '#'

/-- The parts before and after the last occurrence of a character. -/
def splitLast (sep : Char) (cs : List Char) : Option (List Char × List Char) :=
  -- Read from the back, the last occurrence is the first.
  match cs.reverse.span (· != sep) with
  | (after, _ :: before) => some (before.reverse, after.reverse)
  | (_, []) => none

def credentials (cs : List Char) : List Char × Option (List Char) :=
  match Text.splitOnce ':' cs with
  | none => (percentEncode userSet cs, none)
  -- An empty password is none.
  | some (user, []) => (percentEncode userSet user, none)
  | some (user, password) => (percentEncode userSet user, some (percentEncode userSet password))

def splitHost (kind : Kind) : (inBrackets : Bool) → List Char → List Char × List Char
  | _, [] => ([], [])
  | inBrackets, c :: rest =>
    -- The colons of an IPv6 address stand between brackets and begin no port.
    if endsAuthority kind c || c == ':' && !inBrackets then ([], c :: rest)
    else
      let (host, after) := splitHost kind (c == '[' || inBrackets && c != ']') rest
      (c :: host, after)

def splitPort (scheme : List Char) (cs : List Char) :
    Except Fault (Option Nat × List Char) := do
  let (digits, rest) := cs.span Char.isDigit
  let port := digitsValue 10 digits
  if 65535 < port then .error .invalidPort
  else if rest.head?.any (fun c => !endsAuthority .special c) then .error .invalidPort
  -- A port that is empty or the default one of the scheme is not kept.
  else .ok (if digits.isEmpty || defaultPort? scheme = some port then none else some port, rest)

/-- The host that a text names; a URL that is not special may have an empty one. -/
def readHost (kind : Kind) (cs : List Char) : Except Fault (Option Host) :=
  match kind with
  | .general => if cs.isEmpty then .ok none else (Host.parseGeneral cs).map some
  | _ => if cs.isEmpty then .error .emptyHost else (Host.parse cs).map some

/-- The port behind a host, if there is a colon; only a host has one. -/
def readPort (scheme : List Char) (host : Option Host) :
    List Char → Except Fault (Option Nat × List Char)
  | ':' :: rest => if host.isNone then .error .emptyHost else splitPort scheme rest
  | rest => .ok (none, rest)

/-- The host and the port behind the user of an authority, and what stands behind them. -/
def readHostPort (scheme username : List Char) (password : Option (List Char)) (cs : List Char) :
    Except Fault (Authority × List Char) := do
  let (name, rest) := splitHost (kindOf scheme) false cs
  let host ← readHost (kindOf scheme) name
  let (port, rest) ← readPort scheme host rest
  if host.isNone && (!username.isEmpty || password.isSome) then .error .emptyHost
  else .ok (⟨username, password, host, port⟩, rest)

def readAuthority (scheme : List Char) (cs : List Char) :
    Except Fault (Authority × List Char) :=
  let (whole, tail) := cs.span (!endsAuthority (kindOf scheme) ·)
  -- The last at sign counts: all before it is the user, other at signs included.
  match splitLast '@' whole with
  | none => readHostPort scheme [] none cs
  | some ([], after) =>
    if after.isEmpty && !tail.isEmpty then .error .emptyHost
    else readHostPort scheme [] none (after ++ tail)
  | some (user, after) =>
    readHostPort scheme (credentials user).1 (credentials user).2 (after ++ tail)

/-! ### Path -/

def dotForms : List (List Char) := [".", "%2e", "%2E"].map String.toList

def isSingleDot (segment : List Char) : Bool := dotForms.contains segment

def isDoubleDot (segment : List Char) : Bool :=
  (dotForms.flatMap fun a => dotForms.map (a ++ ·)).contains segment

/-- A drive: a letter and a colon or bar. -/
def isDrive : List Char → Bool
  | [c, d] => c.isAlpha && (d == ':' || d == '|')
  | _ => false

/-- One place up from a reversed list of segments. -/
def goUp : List (List Char) → List (List Char)
  | [] => []
  -- A drive is not left.
  | segment :: rest => if isDrive segment then segment :: rest else rest

def place (isLast : Bool) (done : List (List Char)) (segment : List Char) : List (List Char) :=
  -- A path that ends with dots ends with a slash, and so with an empty segment.
  if isDoubleDot segment then if isLast then [] :: goUp done else goUp done
  else if isSingleDot segment then if isLast then [] :: done else done
  else segment :: done

/-- Puts segments onto a reversed list, the last of them knowing that it is. -/
def placeAll (done : List (List Char)) : List (List Char) → List (List Char)
  | [] => done
  | [segment] => place true done segment
  | segment :: rest => placeAll (place false done segment) rest

def splitSlashes (kind : Kind) (cs : List Char) : List (List Char) :=
  cs.splitOnP (isSlash kind)

/-- The segments of a text that follows a slash, after segments already there. -/
def readSegments (kind : Kind) (before : List (List Char)) (cs : List Char) :
    List (List Char) :=
  (placeAll before.reverse ((splitSlashes kind cs).map (percentEncode pathSet))).reverse

def dropSlash (kind : Kind) : List Char → List Char
  | c :: rest => if isSlash kind c then rest else c :: rest
  | [] => []

/-- The path after an authority. Only a URL that is not special may have none. -/
def readPath (kind : Kind) (cs : List Char) : Path :=
  if kind = .general && cs.isEmpty then .segments []
  else .segments (readSegments kind [] (dropSlash kind cs))

/-! ### Query and fragment -/

def querySetOf (kind : Kind) : EncodeSet :=
  if kind = .general then querySet else specialQuerySet

def readQuery (kind : Kind) (cs : List Char) : List Char :=
  percentEncode (querySetOf kind) cs

def cutFragment (cs : List Char) : List Char × Option (List Char) :=
  match Text.splitOnce '#' cs with
  | some (before, after) => (before, some (percentEncode fragmentSet after))
  | none => (cs, none)

def cutQuery (kind : Kind) (cs : List Char) : List Char × Option (List Char) :=
  match Text.splitOnce '?' cs with
  | some (before, after) => (before, some (readQuery kind after))
  | none => (cs, none)

def cutTail (kind : Kind) (cs : List Char) :
    List Char × Option (List Char) × Option (List Char) :=
  let (cs, fragment) := cutFragment cs
  let (cs, query) := cutQuery kind cs
  (cs, query, fragment)

/-! ### Whole URLs -/

def afterSlashes (scheme : List Char) (cs : List Char) : Except Fault Url := do
  let (authority, rest) ← readAuthority scheme cs
  let (path, query, fragment) := cutTail (kindOf scheme) rest
  .ok ⟨scheme, some authority, readPath (kindOf scheme) path, query, fragment⟩

/-- The segments of a file's path: a drive is written with a colon, and empty segments do not
begin it. Says also whether there is a drive. -/
def readFileSegments (cs : List Char) : List (List Char) × Bool :=
  let encoded := (splitSlashes .file cs).map (percentEncode pathSet)
  let (done, hasDrive) := go [] false encoded
  let kept := done.reverse.dropWhile List.isEmpty
  (if kept.isEmpty then [[]] else kept, hasDrive)
where
  /-- Places segments; one that begins the path and is a drive is put in its standard form. -/
  go (done : List (List Char)) (hasDrive : Bool) :
      List (List Char) → List (List Char) × Bool
    | [] => (done, hasDrive)
    | segment :: rest =>
      match done, segment with
      | [], [c, d] =>
        if isDrive [c, d] then go [[c, ':']] true rest
        else go (place rest.isEmpty done segment) hasDrive rest
      | _, _ => go (place rest.isEmpty done segment) hasDrive rest

/-- The host of a file: none if it is empty or this machine. -/
def readFileHost (cs : List Char) : Except Fault (Option Host) := do
  if cs.isEmpty then .ok none
  else
    let host ← Host.parse cs
    .ok (if host = .domain "localhost".toList then none else some host)

/-- A file URL from what follows its scheme. A path with a drive has no host. -/
def readFile (cs : List Char) : Except Fault Url := do
  let build (host : Option Host) (cs : List Char) : Url :=
    let (path, query, fragment) := cutTail .file cs
    let (segments, hasDrive) := readFileSegments (dropSlash .file path)
    ⟨"file".toList, some ⟨[], none, if hasDrive then none else host, none⟩, .segments segments,
      query, fragment⟩
  match cs with
  | a :: b :: rest =>
    if isSlash .file a && isSlash .file b then
      let (name, after) := rest.span (!endsAuthority .file ·)
      if isDrive name then .ok (build none rest)
      else do .ok (build (← readFileHost name) after)
    else .ok (build none cs)
  | _ => .ok (build none cs)

def readGeneral (scheme : List Char) (cs : List Char) : Except Fault Url :=
  match cs with
  | '/' :: '/' :: rest => afterSlashes scheme rest
  | '/' :: rest =>
    let (path, query, fragment) := cutTail .general rest
    .ok ⟨scheme, none, .segments (readSegments .general [] path), query, fragment⟩
  | _ =>
    let (path, query, fragment) := cutTail .general cs
    .ok ⟨scheme, none, .text (percentEncode controlSet path), query, fragment⟩

def afterScheme (scheme : List Char) (cs : List Char) : Except Fault Url :=
  match kindOf scheme with
  | .file => readFile cs
  | .special => afterSlashes scheme (cs.dropWhile (isSlash .special))
  | .general => readGeneral scheme cs

def parse (cs : List Char) : Except Fault Url :=
  match splitScheme? (clean cs) with
  | some (scheme, rest) => afterScheme scheme rest
  | none => .error .relativeWithoutBase

def parse? (cs : List Char) : Option Url := (parse cs).toOption

/-- The segments of a path; text has none. -/
def Path.parts : Path → List (List Char)
  | .segments parts => parts
  | .text _ => []

/-- A reference relative to a special URL. Two slashes begin an authority, one a path; a query
or a fragment alone keeps the path. -/
def relative (base : Url) (cs : List Char) : Except Fault Url :=
  let (rest, query, fragment) := cutTail .special cs
  match rest with
  | [] =>
    .ok { base with query := if query.isSome then query else base.query, fragment }
  | c :: after =>
    if isSlash .special c then
      if after.head?.any (isSlash .special) then
        -- After two plain slashes a third one is part of the authority, which is then refused.
        match cs with
        | '/' :: '/' :: authority => afterSlashes base.scheme authority
        | _ => afterSlashes base.scheme (cs.dropWhile (isSlash .special))
      else .ok { base with path := .segments (readSegments .special [] after), query, fragment }
    else .ok { base with
      path := .segments (readSegments .special base.path.parts.dropLast rest), query, fragment }

/-- Reads a URL or a reference relative to a special URL. A reference may repeat the scheme. -/
def join (base : Url) (cs : List Char) : Except Fault Url :=
  let cs := clean cs
  match splitScheme? cs with
  | none => relative base cs
  | some (scheme, rest) =>
    if scheme = base.scheme && (rest.takeWhile (isSlash .special)).length < 2 then
      relative base rest
    else afterScheme scheme rest

end ChatRelay.Url
