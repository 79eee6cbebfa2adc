import ChatRelay.Http.Target

/-!
Requests of the client.
-/

namespace ChatRelay.Http

/-- A request. Reading its body may fail with a reason, and its connection may be one that can be
upgraded. -/
structure Request where
  method : String
  target : Target
  headers : List Header
  body : Except String (List UInt8)
  isUpgradable : Bool

namespace Request

/-- The parts of a request put together, if each is well formed. -/
def ofParts? (method target : String) (headers : List (String × String))
    (body : Except String (List UInt8)) (isUpgradable : Bool) : Option Request := do
  if !isToken method then none
  let target ← Target.parse? target.toList
  let headers ← headers.mapM fun (name, value) => Header.ofPair? name value
  some { method, target, headers, body, isUpgradable }

end Request

end ChatRelay.Http
