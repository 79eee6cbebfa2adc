import ChatRelay.Url.Parser

/-!
URLs with one part replaced. The new part is read by the same rules as the part of a whole URL.
-/

namespace ChatRelay.Url

/-- Another special scheme, for a special URL or a file URL with a host. The port is kept unless
the new scheme has it by default. -/
def withScheme? (u : Url) (scheme : List Char) : Option Url :=
  if u.kind = .general || u.host?.isNone then none
  else some { u with
    scheme
    authority := u.authority.map fun a =>
      { a with port := if a.port = defaultPort? scheme then none else a.port } }

/-- Another path, for a special URL. All of the text is path, and a slash is put before it unless
it has one. -/
def withPath (u : Url) (cs : List Char) : Url :=
  let cs := cs.filter (!isUnseen ·)
  { u with path := .segments (readSegments u.kind [] (dropSlash u.kind cs)) }

def withQuery (u : Url) (query : Option (List Char)) : Url :=
  { u with query := query.map fun cs => readQuery u.kind (cs.filter (!isUnseen ·)) }

end ChatRelay.Url
