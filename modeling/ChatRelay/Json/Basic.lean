import ChatRelay.Number.Numeral

/-!
JSON values. An object holds its members in the order of their keys, each key once.
-/

namespace ChatRelay

/-- A JSON number: a whole number as it was written, or a double. -/
inductive Json.Number where
  | int (n : Int)
  | real (x : Number.Double)
  deriving DecidableEq, Repr, Inhabited

inductive Json where
  | null
  | bool (b : Bool)
  | number (n : Json.Number)
  | string (s : String)
  | array (items : List Json)
  | object (members : List (String × Json))
  deriving Repr, Inhabited

namespace Json

/-! ### Equality -/

mutual

/-- Whether two values are the same, one part after the other. -/
def same : Json → Json → Bool
  | null, null => true
  | bool b, bool c => b == c
  | number m, number n => m == n
  | string s, string t => s == t
  | array xs, array ys => sameItems xs ys
  | object ms, object ns => sameMembers ms ns
  | _, _ => false

def sameItems : List Json → List Json → Bool
  | [], [] => true
  | x :: xs, y :: ys => same x y && sameItems xs ys
  | _, _ => false

def sameMembers : List (String × Json) → List (String × Json) → Bool
  | [], [] => true
  | (k, x) :: ms, (l, y) :: ns => k == l && same x y && sameMembers ms ns
  | _, _ => false

end

mutual

theorem same_iff (v w : Json) : same v w = true ↔ v = w := by
  cases v <;> cases w <;> simp [same, sameItems_iff, sameMembers_iff]

theorem sameItems_iff : ∀ xs ys : List Json, sameItems xs ys = true ↔ xs = ys
  | [], [] => by simp [sameItems]
  | [], _ :: _ => by simp [sameItems]
  | _ :: _, [] => by simp [sameItems]
  | x :: xs, y :: ys => by simp [sameItems, same_iff x y, sameItems_iff xs ys]

theorem sameMembers_iff :
    ∀ ms ns : List (String × Json), sameMembers ms ns = true ↔ ms = ns
  | [], [] => by simp [sameMembers]
  | [], _ :: _ => by simp [sameMembers]
  | _ :: _, [] => by simp [sameMembers]
  | (k, x) :: ms, (l, y) :: ns => by
    simp [sameMembers, same_iff x y, sameMembers_iff ms ns, and_assoc]

end

instance : DecidableEq Json := fun v w => decidable_of_iff _ (same_iff v w)

/-! ### Members -/

abbrev Members := List (String × Json)

/-- Puts a member in its place, in the stead of one with the same key. -/
def Members.insert (key : String) (value : Json) : Members → Members
  | [] => [(key, value)]
  | (k, v) :: rest =>
    if key < k then (key, value) :: (k, v) :: rest
    else if key = k then (key, value) :: rest
    else (k, v) :: Members.insert key value rest

/-- Members written one after the other; the last one of a key stays. -/
def Members.ofList (pairs : List (String × Json)) : Members :=
  pairs.foldl (fun members (key, value) => members.insert key value) []

def Members.get? (key : String) (members : Members) : Option Json :=
  members.lookup key

def Members.keep (p : String → Bool) (members : Members) : Members :=
  members.filter fun (key, _) => p key

def ofMembers (pairs : List (String × Json)) : Json :=
  object (Members.ofList pairs)

/-- The member of an object; other values have none. -/
def get? (key : String) : Json → Option Json
  | object members => members.lookup key
  | _ => none

/-- A position in a list: a decimal numeral without leading zeros. -/
def position? (step : String) : Option Nat :=
  match step.toList with
  | '0' :: _ :: _ => none
  | digits => ChatRelay.Number.readNat? digits

/-- One step into a value: a member by its key, or an item by its position. -/
def child? (step : String) : Json → Option Json
  | object members => members.lookup step
  | array items => (position? step).bind (items[·]?)
  | _ => none

def at? : List String → Json → Option Json
  | [], value => some value
  | step :: path, value => (value.child? step).bind (at? path)

def text? : Json → Option String
  | string s => some s
  | _ => none

/-- Whether a value says something: not null, false, zero or the empty string. -/
def isTruthy : Json → Bool
  | null => false
  | bool b => b
  | number (.int n) => n != 0
  | number (.real x) => !x.isZero
  | string s => s != ""
  | array _ => true
  | object _ => true

end Json

end ChatRelay
