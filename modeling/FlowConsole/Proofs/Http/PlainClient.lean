import FlowConsole.Proofs.Http.Exchange
import FlowConsole.Proofs.Url.HostName
/-!
Clients whose host is nothing but a host.

Such a client has a request for each path, and the path, query and fragment of its URL are read off
the path alone. Clients of the names in use are of this kind.
-/
namespace FlowConsole.Http

open Json Text

namespace Client

/-- A client whose host and port are nothing but that, and fit into a request. -/
structure IsPlain (c : Client) (host : Url.Host) : Prop where
  isHost : Url.IsPlainHost c.host.toList host
  isPort : c.port < 65536
  sendable : isRequestHost (Url.httpSite host c.port) = true

theorem parse_urlText {c : Client} {host : Url.Host} (hhost : Url.IsPlainHost c.host.toList host)
    (hport : c.port < 65536) {path : String} (hpath : IsAbsolute path) :
    Url.parse (c.urlText path) =
      .ok (Url.locate (Url.httpSite host c.port) true (Url.cleanEnd path.toList)) := by
  obtain ⟨rest, hrest⟩ := hpath
  have hclean : Url.cleanEnd path.toList = '/' :: Url.cleanEnd rest := by
    rw [hrest]
    exact Url.cleanEnd_append_slash [] rest
  rw [Url.parse, urlText_toList c hrest, hhost.parseChars_eq hport, hclean]

theorem url_pointedAt {c : Client} {host : Url.Host} (hhost : Url.IsPlainHost c.host.toList host)
    (hport : c.port < 65536) {path : String} (hpath : IsAbsolute path) :
    (c.pointedAt path).url =
      .ok (Url.locate (Url.httpSite host c.port) true (Url.cleanEnd path.toList)) := by
  rw [url_eq, parse_urlText hhost hport hpath]
  rfl

theorem urlCredentials?_eq_none {u : Url} (hname : u.username = "") (hpassword : u.password = none) :
    urlCredentials? u = none := by
  have hempty : Utf8.decode? (Url.percentDecode "".toList) = some "" := Utf8.decode?_nil
  unfold urlCredentials?
  rw [hname, hpassword]
  simp only [hempty, Option.bind_none]
  rfl

namespace IsPlain

variable {c : Client} {host : Url.Host}

theorem pointedAt (h : c.IsPlain host) (path : String) : (c.pointedAt path).IsPlain host :=
  ⟨h.isHost, h.isPort, h.sendable⟩

theorem prepare_eq (h : c.IsPlain host) (method : Method) {path : String} (hpath : IsAbsolute path)
    (payload : Option Value) :
    c.prepare method path payload =
      .ok (c.request method
        (Url.locate (Url.httpSite host c.port) true (Url.cleanEnd path.toList)) payload
        jsonType) := by
  apply prepare_ok _ _ method payload
  · exact parse_urlText h.isHost h.isPort hpath
  · rw [isRequestHost_locate]
    exact h.sendable

theorem request_url (c : Client) (method : Method) (port : Nat) (s : List Char)
    (payload : Option Value) (contentType : String) :
    (c.request method (Url.locate (Url.httpSite host port) true s) payload contentType).url =
      Url.locate (Url.httpSite host port) true s := by
  have hnone : urlCredentials? (Url.locate (Url.httpSite host port) true s) = none :=
    urlCredentials?_eq_none rfl rfl
  unfold request
  rw [hnone]
  rfl

end IsPlain

theorem isRequestHost_domain {s : List Char} (h : Url.IsHostName s) (port : Nat) :
    isRequestHost (Url.httpSite (.domain (String.ofList (Url.lowerName s))) port) = true := by
  have hall : ∀ n < 0x80, Url.isNameChar (Char.ofNat n) = true →
      (Char.ofNat n).toLower ∉ ['"', '\x60', '\x7b', '\x7d'] := by decide +kernel
  have hname : ((String.ofList (Url.lowerName s)).toList.all
      fun c => !(c ∈ ['"', '\x60', '\x7b', '\x7d'])) = true := by
    rw [String.toList_ofList]
    apply List.all_eq_true.mpr
    intro c hc
    obtain ⟨d, hd, rfl⟩ := List.mem_map.mp hc
    have hnot := of_forall_ascii (P := fun c => Url.isNameChar c = true →
      c.toLower ∉ ['"', '\x60', '\x7b', '\x7d']) hall (h.ascii d hd) (h.chars d hd)
    simpa using hnot
  exact hname

section

variable {c : Client}

theorem isPlain_domain (h : Url.IsHostName c.host.toList) (hne : c.host.toList ≠ [])
    (hnumber : Url.endsInNumber (Url.lowerName c.host.toList) = false) (hport : c.port < 65536) :
    c.IsPlain (.domain (String.ofList (Url.lowerName c.host.toList))) :=
  ⟨h.isPlainHost_domain hne hnumber, hport, isRequestHost_domain h c.port⟩

theorem isPlain_ipv4 (h : Url.IsHostName c.host.toList) (hne : c.host.toList ≠ [])
    (hnumber : Url.endsInNumber (Url.lowerName c.host.toList) = true) {address : Nat}
    (haddress : Url.ipv4OfText? (Url.lowerName c.host.toList) = some address)
    (hport : c.port < 65536) : c.IsPlain (.ipv4 address) :=
  ⟨h.isPlainHost_ipv4 hne hnumber haddress, hport, rfl⟩

end

def ofLocalhost : Client :=
  { host := "localhost", port := 8181, path := none, credentials := none, timeout := none }

theorem ofLocalhost_isPlain : ofLocalhost.IsPlain (.domain "localhost") := by
  have hname : Url.IsHostName "localhost".toList := by decide
  exact isPlain_domain (c := ofLocalhost) hname (by simp [ofLocalhost]) (by decide) (by decide)

end Client

end FlowConsole.Http
