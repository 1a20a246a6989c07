import FlowConsole.Proofs.Http.Exchange
import Mathlib.Order.Defs.Unbundled
/-!
What a client sends, and which of it carries credentials.

Credentials come from two places: the client's own, and the user information in the text of its
host. A client without credentials of its own sends a header for them exactly if its host brings
some.
-/
namespace FlowConsole.Http

open Json

theorem Controller.after_append (c : Controller) (first rest : List Request) :
    c.after (first ++ rest) = (c.after first).after rest :=
  List.foldl_append

def authorizationName : String := "authorization"

def Request.isAuthorized (r : Request) : Prop := ∃ value, (authorizationName, value) ∈ r.headers

def Request.authorizations (r : Request) : List String :=
  r.headers.filterMap fun header => if header.1 = authorizationName then some header.2 else none

theorem Request.isAuthorized_iff_authorizations (r : Request) :
    r.isAuthorized ↔ r.authorizations ≠ [] := by
  unfold authorizations isAuthorized
  rw [ne_eq, List.filterMap_eq_nil_iff]
  simp

namespace Client

/-- Whether a client may come to send a request: it is that of some call on some path. -/
def Prepares (c : Client) (request : Request) : Prop :=
  ∃ method path payload, IsAbsolute path ∧ c.prepare method path payload = .ok request

/-- Whether a controller got from one state to another by requests of a client. -/
def Sends (c : Client) (before after : Controller) : Prop :=
  ∃ requests, after = before.after requests ∧ ∀ r ∈ requests, c.Prepares r

instance (c : Client) : IsPreorder Controller c.Sends where
  refl k := ⟨[], rfl, by simp⟩
  trans := by
    rintro k _ _ ⟨first, rfl, hfirst⟩ ⟨rest, rfl, hrest⟩
    refine ⟨first ++ rest, (k.after_append first rest).symm, ?_⟩
    intro r hr
    exact (List.mem_append.mp hr).elim (hfirst r) (hrest r)

theorem sends_receive {c : Client} {request : Request} (h : c.Prepares request) (k : Controller) :
    c.Sends k (k.receive request).2 :=
  ⟨[request], rfl, by simpa using h⟩

theorem Sends.log {c : Client} {before after : Controller} (h : c.Sends before after) :
    ∃ sent, after.log = before.log ++ sent ∧ ∀ r ∈ sent, c.Prepares r := by
  obtain ⟨requests, rfl, hrequests⟩ := h
  cases hreachable : before.reachable with
  | true => exact ⟨requests, Controller.after_log hreachable requests, hrequests⟩
  | false =>
      refine ⟨[], ?_, by simp⟩
      rw [Controller.after_unreachable hreachable, List.append_nil]

/-! ## Credentials -/

/-- The credentials that the text of the host brings along, if a URL can be made of it. -/
def hostCredentials? (c : Client) : Option Credentials :=
  match Url.parse (c.urlText "/") with
  | .ok u => urlCredentials? u
  | .error _ => none

theorem authorizations_request (c : Client) (method : Method) (url : Url)
    (payload : Option Value) (contentType : String) :
    (c.request method url payload contentType).authorizations =
      ((urlCredentials? url).toList ++ c.usableCredentials?.toList).map Credentials.headerValue := by
  unfold Request.authorizations request authorizationName
  cases urlCredentials? url <;> cases c.usableCredentials? <;> rfl

theorem urlCredentials?_eq {c : Client} {path : String} (hpath : IsAbsolute path) {url : Url}
    (hurl : Url.parse (c.urlText path) = .ok url) : urlCredentials? url = c.hostCredentials? := by
  obtain ⟨rest, hpath⟩ := hpath
  have hroot : "/".toList = '/' :: [] := rfl
  unfold hostCredentials? Url.parse at *
  rw [urlText_toList c hpath, Url.parseChars_httpText_eq] at hurl
  rw [urlText_toList c hroot, Url.parseChars_httpText_eq]
  cases hsite : Url.siteOfFront (Url.front (Url.hostPortText c.host.toList c.port)) with
  | error e => simp [hsite, Except.map] at hurl
  | ok site =>
      rw [hsite] at hurl
      obtain rfl := Except.ok.inj hurl
      rfl

theorem Prepares.authorizations {c : Client} {request : Request} (h : c.Prepares request) :
    request.authorizations =
      (c.hostCredentials?.toList ++ c.usableCredentials?.toList).map Credentials.headerValue := by
  obtain ⟨method, path, payload, hpath, hprepare⟩ := h
  unfold prepare at hprepare
  cases hurl : Url.parse (c.urlText path) with
  | error e =>
      rw [hurl] at hprepare
      simp [Except.mapError, Except.bind] at hprepare
  | ok url =>
      rw [hurl] at hprepare
      simp only [Except.mapError, Except.bind] at hprepare
      split at hprepare
      · obtain rfl := Except.ok.inj hprepare
        rw [authorizations_request, urlCredentials?_eq hpath hurl]
      · simp at hprepare

theorem isAuthorized_iff {c : Client} {request : Request} (h : c.Prepares request) :
    request.isAuthorized ↔ c.hostCredentials?.isSome ∨ c.usesCredentials := by
  rw [Request.isAuthorized_iff_authorizations, h.authorizations]
  unfold usesCredentials
  cases c.hostCredentials? <;> cases c.usableCredentials? <;> simp

end Client

end FlowConsole.Http
