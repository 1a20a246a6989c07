import FlowConsole.Http.Client
import FlowConsole.Proofs.Url.PlainHost
/-!
Calls as exchanges: the request of a call is made from its own arguments, and what comes of it
depends on the controller only.

A client carries a path from call to call. No request and no answer depends on the one it carried
before.
-/
namespace FlowConsole.Http

open Json Text

/-- Paths that begin with a slash, so that nothing is put between them and the port. -/
def IsAbsolute (path : String) : Prop := ∃ rest, path.toList = '/' :: rest

namespace Controller

def after (c : Controller) (requests : List Request) : Controller :=
  requests.foldl (fun c request => (c.receive request).2) c

@[simp] theorem after_nil (c : Controller) : c.after [] = c := rfl

@[simp] theorem after_cons (c : Controller) (request : Request) (rest : List Request) :
    c.after (request :: rest) = (c.receive request).2.after rest := rfl

theorem receive_reachable (c : Controller) (request : Request) :
    (c.receive request).2.reachable = c.reachable := by
  unfold receive
  split <;> rfl

theorem after_log {c : Controller} (hc : c.reachable = true) (requests : List Request) :
    (c.after requests).log = c.log ++ requests := by
  induction requests generalizing c with
  | nil => simp
  | cons request rest ih =>
      have hreceive : (c.receive request).2.log = c.log ++ [request] := by
        unfold receive
        rw [if_pos hc]
      have hreachable : (c.receive request).2.reachable = true := by
        rw [receive_reachable, hc]
      rw [after_cons, ih hreachable, hreceive, List.append_assoc, List.singleton_append]

theorem after_unreachable {c : Controller} (hc : c.reachable = false) (requests : List Request) :
    c.after requests = c := by
  induction requests with
  | nil => rfl
  | cons request rest ih =>
      have hreceive : (c.receive request).2 = c := by
        unfold receive
        rw [if_neg (by simp [hc])]
      rw [after_cons, hreceive, ih]

def next (c : Controller) : Option Exchange :=
  if c.reachable then some (c.script.headD .drop) else none

@[simp] theorem receive_fst (c : Controller) (request : Request) :
    (c.receive request).1 = c.next := by
  unfold receive next
  split <;> rfl

def exchanges (c : Controller) : List Request → List (Option Exchange)
  | [] => []
  | request :: rest => c.next :: (c.receive request).2.exchanges rest

end Controller

def Response.ofReply (status : Nat) (body : List UInt8) : Response :=
  { status, reason := reasonPhrase status
    body := if hasNoBody status then "" else Utf8.decodeLossy body }

namespace Client

def pointedAt (c : Client) (path : String) : Client :=
  { c with path := some path }

/-- The request of a call on a path, or why there can be none. -/
@[irreducible] def prepare (c : Client) (method : Method) (path : String) (payload : Option Value) :
    Except Error Request :=
  ((Url.parse (c.urlText path)).mapError Error.invalidUrl).bind fun url =>
    let request := c.request method url payload jsonType
    if isRequestHost request.url then .ok request
    else .error (.transport (.unsendable (some request.url)))

theorem url_eq (c : Client) (path : String) :
    (c.pointedAt path).url = (Url.parse (c.urlText path)).mapError .invalidUrl := rfl

@[simp] theorem prepare_pointedAt (c : Client) (p : String) :
    (c.pointedAt p).prepare = c.prepare := by
  funext method path payload
  unfold prepare
  rfl

@[simp] theorem answer_pointedAt (c : Client) (p : String) : (c.pointedAt p).answer = c.answer := by
  funext request exchange
  cases exchange with
  | none => rfl
  | some exchange => cases exchange <;> rfl

theorem answer_eq_ok {c : Client} {request : Request} {exchange : Option Exchange} {r : Response}
    (h : c.answer request exchange = .ok r) :
    ∃ status body, exchange = some (.reply status body) ∧ r = .ofReply status body := by
  cases exchange with
  | none => cases h
  | some exchange =>
      cases exchange with
      | reply status body => exact ⟨status, body, rfl, (Except.ok.inj h).symm⟩
      | drop | truncate => cases h
      | hang =>
          rw [answer] at h
          split at h <;> cases h

theorem answer_eq_error {c : Client} {request : Request} {exchange : Option Exchange} {e : Error}
    (h : c.answer request exchange = .error e) :
    (∃ failure, e = .transport failure) ∨ ∃ seconds, e = .timeout seconds := by
  cases exchange with
  | none => exact .inl ⟨_, (Except.error.inj h).symm⟩
  | some exchange =>
      cases exchange with
      | reply status body => cases h
      | drop | truncate => exact .inl ⟨_, (Except.error.inj h).symm⟩
      | hang =>
          rw [answer] at h
          split at h
          · exact .inr ⟨_, (Except.error.inj h).symm⟩
          · exact .inl ⟨_, (Except.error.inj h).symm⟩

theorem call_pointedAt (c : Client) (method : Method) (path : String) (payload : Option Value)
    (controller : Controller) :
    (c.pointedAt path).call method payload jsonType controller =
      match c.prepare method path payload with
      | .error e => (.error e, controller)
      | .ok request =>
        (c.answer request (controller.receive request).1, (controller.receive request).2) := by
  have htype : isHeaderValue jsonType = true := by decide
  unfold call prepare
  rw [url_eq]
  cases (Url.parse (c.urlText path)).mapError Error.invalidUrl with
  | error e => rfl
  | ok url =>
      have hrequest : (c.pointedAt path).request method url payload jsonType =
          c.request method url payload jsonType := rfl
      simp only [hrequest, htype, Bool.not_true, Bool.false_eq_true, if_false, Except.bind]
      cases isRequestHost (c.request method url payload jsonType).url with
      | false => rfl
      | true =>
          simp only [Bool.not_true, Bool.false_eq_true, if_false, if_true, ← answer_pointedAt c path]
          rfl

/-- Whether a request asks for a path of a client and brings nothing along. User information in the
URL of the path is no part of the request's. -/
def AsksFor (c : Client) (method : Method) (path : String) (request : Request) : Prop :=
  request.method = method ∧ request.body = "" ∧
    ∃ url, (c.pointedAt path).url = .ok url ∧
      (request.url = url ∨ request.url = url.withoutUserInfo)

theorem asksFor_of_prepare {c : Client} {method : Method} {path : String} {request : Request}
    (h : c.prepare method path none = .ok request) : c.AsksFor method path request := by
  unfold AsksFor
  rw [url_eq]
  unfold prepare at h
  cases hurl : Url.parse (c.urlText path) with
  | error e =>
      rw [hurl] at h
      simp [Except.mapError, Except.bind] at h
  | ok url =>
      rw [hurl] at h
      simp only [Except.mapError, Except.bind] at h
      split at h
      · obtain rfl := Except.ok.inj h
        refine ⟨rfl, rfl, url, rfl, ?_⟩
        unfold request
        by_cases hinfo : (urlCredentials? url).isSome
        · exact .inr (if_pos hinfo)
        · exact .inl (if_neg hinfo)
      · simp at h

/-! ## Requests on several paths -/

theorem urlText_toList (c : Client) {path : String} {rest : List Char}
    (hpath : path.toList = '/' :: rest) :
    (c.urlText path).toList = Url.httpText c.host.toList c.port ++ '/' :: rest := by
  simp [urlText, hpath, Url.httpText, toString, Nat.repr]

theorem isRequestHost_request (c : Client) (method : Method) (url : Url) (payload : Option Value)
    (contentType : String) :
    isRequestHost (c.request method url payload contentType).url = isRequestHost url := by
  unfold request
  dsimp only
  split <;> rfl

theorem isRequestHost_locate (site : Url) (special : Bool) (s : List Char) :
    isRequestHost (Url.locate site special s) = isRequestHost site := rfl

theorem prepare_ok {c : Client} {path : String} {url : Url}
    (hurl : Url.parse (c.urlText path) = .ok url) (hhost : isRequestHost url = true)
    (method : Method) (payload : Option Value) :
    c.prepare method path payload = .ok (c.request method url payload jsonType) := by
  unfold prepare
  rw [hurl]
  simp only [Except.mapError, Except.bind, isRequestHost_request, hhost, if_true]

/-- Whether a request can be prepared is a matter of host and port alone. -/
theorem prepare_ok_of_prepare_ok {c : Client} {method method' : Method} {path path' : String}
    {payload payload' : Option Value} {request : Request} (hpath : IsAbsolute path)
    (hpath' : IsAbsolute path') (h : c.prepare method path payload = .ok request) :
    ∃ request', c.prepare method' path' payload' = .ok request' := by
  obtain ⟨rest, hpath⟩ := hpath
  obtain ⟨rest', hpath'⟩ := hpath'
  unfold prepare Url.parse at h ⊢
  rw [urlText_toList c hpath, Url.parseChars_httpText_eq] at h
  rw [urlText_toList c hpath', Url.parseChars_httpText_eq]
  cases hsite : Url.siteOfFront (Url.front (Url.hostPortText c.host.toList c.port)) with
  | error e =>
      rw [hsite] at h
      simp [Except.map, Except.mapError, Except.bind] at h
  | ok site =>
      rw [hsite] at h
      simp only [Except.map, Except.mapError, Except.bind, isRequestHost_request,
        isRequestHost_locate] at h ⊢
      by_cases hhost : isRequestHost site = true
      · exact ⟨_, if_pos hhost⟩
      · rw [if_neg hhost] at h
        exact absurd h (by simp)

/-! ## Answers in order -/

def answers (c : Client) (controller : Controller) : List Request → List (Except Error Response)
  | [] => []
  | request :: rest =>
    c.answer request (controller.receive request).1 ::
      c.answers (controller.receive request).2 rest

@[simp] theorem answers_pointedAt (c : Client) (p : String) :
    (c.pointedAt p).answers = c.answers := by
  funext controller requests
  induction requests generalizing controller with
  | nil => rfl
  | cons request rest ih => rw [answers, answers, ih, answer_pointedAt]

theorem answers_length (c : Client) (controller : Controller) (requests : List Request) :
    (c.answers controller requests).length = requests.length := by
  induction requests generalizing controller with
  | nil => rfl
  | cons request rest ih => rw [answers, List.length_cons, List.length_cons, ih]

theorem exists_replies_of_answers {c : Client} {controller : Controller} {requests : List Request}
    {answered : List Response} (h : c.answers controller requests = answered.map .ok) :
    ∃ replies : List (Nat × List UInt8),
      controller.exchanges requests = replies.map (fun r => some (.reply r.1 r.2)) ∧
      answered = replies.map fun r => .ofReply r.1 r.2 := by
  induction requests generalizing controller answered with
  | nil =>
      obtain rfl : answered = [] := List.map_eq_nil_iff.mp h.symm
      exact ⟨[], rfl, rfl⟩
  | cons request rest ih =>
      cases answered with
      | nil => cases h
      | cons first answered =>
          obtain ⟨hfirst, hrest⟩ := List.cons_eq_cons.mp h
          rw [Controller.receive_fst] at hfirst
          obtain ⟨status, body, hnext, rfl⟩ := answer_eq_ok hfirst
          obtain ⟨replies, hreplies, rfl⟩ := ih hrest
          exact ⟨(status, body) :: replies, by rw [Controller.exchanges, hnext, hreplies]; rfl, rfl⟩

end Client

end FlowConsole.Http
