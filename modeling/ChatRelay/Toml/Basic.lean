import ChatRelay.Number.Double

/-!
TOML values, and the tables that a document builds up statement by statement. A table remembers
how it came about, since that decides what may still be added to it.
-/

namespace ChatRelay

/-- How a table came about: by a header of its own, on the way of a longer header, on the way of
a dotted key, or as an inline value. -/
inductive Toml.Origin where
  | header
  | implied
  | dotted
  | inline
  deriving DecidableEq, Repr

/-- A TOML value. Of dates and times nothing is kept. -/
inductive Toml where
  | string (s : String)
  | integer (n : Int)
  | float (x : Number.Extended)
  | boolean (b : Bool)
  | moment
  | array (items : List Toml)
  | table (origin : Toml.Origin) (entries : List (String × Toml))
  | tables (elements : List (List (String × Toml)))
  deriving Repr, Inhabited

namespace Toml

abbrev Entries := List (String × Toml)

def Entries.replace (key : String) (value : Toml) (entries : Entries) : Entries :=
  entries.map fun (k, v) => if k = key then (k, value) else (k, v)

def changeLast (f : Entries → Option Entries) (elements : List Entries) :
    Option (List Entries) := do
  let last ← elements.getLast?
  let last ← f last
  some (elements.dropLast ++ [last])

/-- Puts a value under a dotted key. The tables on the way are made as needed; none of them may
have a header, and the one that takes the value must have been made by a dotted key. -/
def putDotted (value : Toml) (key : String) : (mayHold : Bool) → List String → Entries →
    Option Entries
  | mayHold, [], entries =>
    if mayHold && (entries.lookup key).isNone then some (entries ++ [(key, value)]) else none
  | _, step :: path, entries =>
    match entries.lookup step with
    | none => do
      let inner ← putDotted value key true path []
      some (entries ++ [(step, table .dotted inner)])
    | some (table .dotted inner) => do
      let inner ← putDotted value key true path inner
      some (entries.replace step (table .dotted inner))
    | some (table .implied inner) => do
      let inner ← putDotted value key false path inner
      some (entries.replace step (table .implied inner))
    | some (tables elements) => do
      let elements ← changeLast (putDotted value key false path) elements
      some (entries.replace step (tables elements))
    | some _ => none

def put (value : Toml) (key : List String) (entries : Entries) : Option Entries := do
  let last ← key.getLast?
  putDotted value last true key.dropLast entries

/-- Goes down a path, making tables as needed, and changes the table at its end. -/
def descend (f : Entries → Option Entries) : List String → Entries → Option Entries
  | [], entries => f entries
  | step :: path, entries =>
    match entries.lookup step with
    | none => do
      let inner ← descend f path []
      some (entries ++ [(step, table .implied inner)])
    | some (table .inline _) => none
    | some (table origin inner) => do
      let inner ← descend f path inner
      some (entries.replace step (table origin inner))
    | some (tables elements) => do
      let elements ← changeLast (descend f path) elements
      some (entries.replace step (tables elements))
    | some _ => none

/-- The header of a table: the table is new, or was implied so far. -/
def openTable (header : List String) (entries : Entries) : Option Entries := do
  let key ← header.getLast?
  descend (fun entries =>
    match entries.lookup key with
    | none => some (entries ++ [(key, table .header [])])
    | some (table .implied inner) => some (entries.replace key (table .header inner))
    | some _ => none) header.dropLast entries

/-- The header of an element: it begins a list of tables or goes on with one. -/
def openElement (header : List String) (entries : Entries) : Option Entries := do
  let key ← header.getLast?
  descend (fun entries =>
    match entries.lookup key with
    | none => some (entries ++ [(key, tables [[]])])
    | some (tables elements) => some (entries.replace key (tables (elements ++ [[]])))
    | some _ => none) header.dropLast entries

end Toml

end ChatRelay
