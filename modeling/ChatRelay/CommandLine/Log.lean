import ChatRelay.Number.Numeral

/-!
Log lines, and the level up to which they are shown.
-/

namespace ChatRelay.CommandLine

/-- The levels of a log line, the gravest first. -/
inductive Level where
  | error
  | warn
  | info
  | debug
  | trace
  deriving DecidableEq, Repr

def Level.rank : Level → Nat
  | error => 1
  | warn => 2
  | info => 3
  | debug => 4
  | trace => 5

def Level.name : Level → String
  | error => "ERROR"
  | warn => "WARN"
  | info => "INFO"
  | debug => "DEBUG"
  | trace => "TRACE"

structure Line where
  level : Level
  text : String
  deriving DecidableEq, Repr

def Line.info (text : String) : Line := ⟨.info, text⟩

/-- Why a text names no level: it is none of the known words, or goes on after a comma. -/
inductive LevelFault where
  | unknown
  | malformed
  deriving DecidableEq, Repr

def unknownLevel : String :=
  "error parsing level filter: expected one of \"off\", \"error\", \"warn\", \"info\", " ++
    "\"debug\", \"trace\", or a number 0-5"

/-- The wording of a fault; the unknown level is named as its own cause. -/
def LevelFault.message : LevelFault → String
  | unknown => unknownLevel ++ "\n\nCaused by:\n    " ++ unknownLevel
  | malformed => "invalid filter directive"

def rankWords : List (String × Nat) :=
  [("off", 0), ("error", 1), ("warn", 2), ("info", 3), ("debug", 4), ("trace", 5)]

/-- The rank that a text names, as a word in any case or as a number. -/
def rankOfWord? (cs : List Char) : Option Nat :=
  let digits := match cs with
    | '+' :: rest => rest
    | _ => cs
  match Number.readNat? digits with
  | some n => if n ≤ 5 then some n else none
  | none => rankWords.lookup (String.ofList (cs.map Char.toLower))

/-- The highest rank that is shown under a level as given; no level shows all. -/
def rankOf (s : String) : Except LevelFault Nat :=
  let (word, rest) := s.toList.span (· != ',')
  let rank := if word.isEmpty then some 5 else rankOfWord? word
  match rank, rest.drop 1 with
  | some rank, [] => .ok rank
  | some _, _ :: _ => .error .malformed
  | none, _ => .error .unknown

def shown (rank : Nat) (lines : List Line) : List Line :=
  lines.filter (·.level.rank ≤ rank)

end ChatRelay.CommandLine
