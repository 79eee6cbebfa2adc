import ChatRelay.Text.Blank

/-!
Header fields: which names and values are allowed, how they are found, and which fields concern
one connection only.
-/

namespace ChatRelay.Http

structure Header where
  name : String
  value : String
  deriving DecidableEq, Repr, Inhabited

/-- The characters of a token: letters, digits and some marks. -/
def isTokenChar (c : Char) : Bool :=
  c.isAlphanum || c ∈ "!#$%&'*+-.^_`|~".toList

/-- Whether a text is a token: characters of its class, at least one. -/
def isToken (s : String) : Bool :=
  s != "" && s.toList.all isTokenChar

/-- The characters of a header value: all but controls, and the tab. -/
def isValueChar (c : Char) : Bool :=
  (0x20 ≤ c.toNat && c.toNat != 0x7F) || c == '\t'

def isValue (s : String) : Bool :=
  s.toList.all isValueChar

/-- The characters of a value that can be read as text: ASCII without the controls, and the
tab. -/
def isVisible (c : Char) : Bool :=
  (0x20 ≤ c.toNat && c.toNat < 0x7F) || c == '\t'

def lower (s : String) : String :=
  String.ofList (s.toList.map Char.toLower)

namespace Header

/-- A field with a valid name, which is kept in lower case, and a valid value. -/
def ofPair? (name value : String) : Option Header :=
  if isToken name && isValue value then some ⟨lower name, value⟩ else none

def find? (name : String) (headers : List Header) : Option String :=
  (headers.find? (·.name == name)).map (·.value)

def hasValue (name value : String) (headers : List Header) : Bool :=
  (find? name headers).any (lower · == value)

/-- Whether the value of the first field of a name has a part, in any case. -/
def hasPart (name part : String) (headers : List Header) : Bool :=
  (find? name headers).any fun value => Text.occursIn part.toList (lower value).toList

/-- The fields that concern one connection, or that the next one sets itself. -/
def connectionFields : List String :=
  ["connection", "keep-alive", "proxy-authenticate", "proxy-authorization", "te", "trailers",
    "transfer-encoding", "upgrade", "host", "content-length"]

def isForwarded (name : String) : Bool :=
  lower name ∉ connectionFields

def forwarded (headers : List Header) : List Header :=
  headers.filter (isForwarded ·.name)

end Header

end ChatRelay.Http
