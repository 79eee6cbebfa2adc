import ChatRelay.Proofs.Gate.Confinement
import ChatRelay.Proofs.Url.Replace

/-!
Where the socket of a client leads. Every backend that a relay starts with has a WebSocket URL,
which takes scheme, user, host and port from the backend, the path from the configuration, and
nothing but the query from the client.
-/

namespace ChatRelay.Gate

open Url (QueryText specialPath)

/-- The URL that is dialled at a backend for a path of the configuration and a query of a
client. -/
structure Dialled (base : Url) (path : List Char) (query : Option (List Char)) (u : Url) :
    Prop where
  scheme : u.scheme = if base.scheme = "https".toList then "wss".toList else "ws".toList
  username : u.username = base.username
  password : u.password? = base.password?
  host : u.host? = base.host?
  port : u.effectivePort? = base.effectivePort?
  path : u.path = specialPath path
  query_some : ∀ cs, query = some cs → ∃ text, u.query = some text ∧ QueryText cs text
  query_none : query = none → u.query = none

/-- A WebSocket scheme has the default port of the scheme that it stands beside. -/
theorem socketScheme_of_isHttp {scheme : List Char} (h : isHttp scheme = true) :
    socketScheme scheme =
        (if scheme = "https".toList then "wss".toList else "ws".toList) ∧
      Url.kindOf (socketScheme scheme) = .special ∧
      Url.defaultPort? (socketScheme scheme) = Url.defaultPort? scheme := by
  rcases Bool.or_eq_true_iff.mp h with h | h
  · rw [beq_iff_eq.mp h]
    decide
  · rw [beq_iff_eq.mp h]
    decide

theorem exists_withScheme? {backend : List Char} {base : Url} (h : Url.parse backend = .ok base)
    (hhttp : isHttp base.scheme = true) :
    ∃ socket, base.withScheme? (socketScheme base.scheme) = some socket := by
  have hspecial := kindOf_of_isHttp hhttp
  obtain ⟨host, hhost⟩ := Url.exists_host?_of_parse h hspecial
  exact ⟨_, Url.withScheme?_of_host hspecial hhost _⟩

theorem socketUrl_eq {backend : List Char} {base socket : Url} (h : Url.parse backend = .ok base)
    (hsocket : base.withScheme? (socketScheme base.scheme) = some socket) (path : List Char)
    (query : Option (List Char)) :
    socketUrl backend path query = .ok ((socket.withPath path).withQuery query) := by
  rw [socketUrl, h]
  dsimp only
  rw [hsocket]
  rfl

theorem dialled_socketUrl {base socket : Url} (hhttp : isHttp base.scheme = true)
    (hsocket : base.withScheme? (socketScheme base.scheme) = some socket) (path : List Char)
    (query : Option (List Char)) :
    Dialled base path query ((socket.withPath path).withQuery query) := by
  obtain ⟨hscheme, hspecial, hport⟩ := socketScheme_of_isHttp hhttp
  have hkind : socket.kind = .special := by
    rw [Url.kind, Url.scheme_withScheme? hsocket, hspecial]
  -- Path and query are no part of the place, so that it is settled by the scheme.
  have husername : socket.username = base.username := Url.username_withScheme? hsocket
  have hpassword : socket.password? = base.password? := Url.password?_withScheme? hsocket
  have hhost : socket.host? = base.host? := Url.host?_withScheme? hsocket
  have hkept : socket.effectivePort? = base.effectivePort? :=
    Url.effectivePort?_withScheme? hsocket hport
  exact {
    scheme := (Url.scheme_withScheme? hsocket).trans hscheme
    username := husername
    password := hpassword
    host := hhost
    port := hkept
    path := Url.path_withPath hkind path
    query_some := by
      rintro cs rfl
      exact Url.query_withQuery (u := socket.withPath path) hkind cs
    query_none := by
      rintro rfl
      rfl }

/-- A backend that has been accepted can be dialled for every path and every query. Scheme, user,
host and port are the backend's, the path is read from the configured one, the query is written
as the URL standard writes it, and another query makes no other difference. -/
theorem socketUrl_of_checkBackend {backend : List Char} (h : checkBackend backend = .ok ())
    (path : List Char) (query : Option (List Char)) :
    ∃ base u, Url.parse backend = .ok base ∧ socketUrl backend path query = .ok u ∧
      Dialled base path query u ∧
      ∀ query', ∃ query'', socketUrl backend path query' = .ok { u with query := query'' } := by
  obtain ⟨base, hparse, hhttp⟩ := checkBackend_eq_ok_iff.mp h
  obtain ⟨socket, hsocket⟩ := exists_withScheme? hparse hhttp
  refine ⟨base, _, hparse, socketUrl_eq hparse hsocket path query,
    dialled_socketUrl hhttp hsocket path query, fun query' => ?_⟩
  exact ⟨_, socketUrl_eq hparse hsocket path query'⟩

/-- A backend with a user, the port of another scheme, a path, a query and a fragment. -/
def crowdedBackend : List Char := "http://me:se%40cret@[::1]:443/base?x#part".toList

/-- The path of the configuration is resolved, and what would end it or the query is encoded. -/
theorem socketUrl_crowdedBackend :
    checkBackend crowdedBackend = .ok () ∧
      (socketUrl crowdedBackend "a/../socket?x".toList
        (some "q=\t\"é'#/../?".toList)).map Url.write =
        .ok "ws://me:se%40cret@[::1]:443/socket%3Fx?q=%22%C3%A9%27%23/../?#part".toList ∧
      ∃ base u, Url.parse crowdedBackend = .ok base ∧
        socketUrl crowdedBackend "a/../socket?x".toList (some "q=\t\"é'#/../?".toList) = .ok u ∧
        Dialled base "a/../socket?x".toList (some "q=\t\"é'#/../?".toList) u ∧
        ∀ query', ∃ query'', socketUrl crowdedBackend "a/../socket?x".toList query' =
          .ok { u with query := query'' } := by
  have hb : checkBackend crowdedBackend = .ok () := by decide +kernel
  exact ⟨hb, by decide +kernel, socketUrl_of_checkBackend hb _ _⟩

end ChatRelay.Gate
