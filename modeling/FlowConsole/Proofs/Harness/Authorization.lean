import FlowConsole.Proofs.Command.Traffic
import FlowConsole.Proofs.Restconf.AcceptedHost
import FlowConsole.Proofs.Text.Base64
/-!
Which credentials a session carries.

The operations of a harness are done one after the other, each of them whatever became of those
before it. From the first to the last the session uses credentials exactly if its settings have a
login with a user name, and every request carries those and no others.
-/
namespace FlowConsole

open Http (Client Controller Credentials)
open Restconf (Session)
open Restconf.Session (Issues)
open Text (Base64.IsStandard Utf8.encode)

namespace Url

theorem siteOfFront_of_not_mem {s : List Char} (hs : IsFront s) (h : '@' ∉ s) :
    Yields (siteOfFront s) fun site => site.username = "" ∧ site.password = none := by
  unfold siteOfFront
  simp only [splitUserInfo_of_not_mem hs h, Option.getD_none]
  exact yields_bind fun host => yields_map fun port => ⟨rfl, rfl⟩

theorem not_mem_front_hostPortText {host : List Char} (h : '@' ∉ host) (port : Nat) :
    '@' ∉ front (hostPortText host port) := by
  intro hmem
  rcases List.mem_append.mp ((List.takeWhile_sublist _).subset hmem) with hhost | hport
  · exact h (mem_of_mem_hostLeft hhost)
  · exact not_mem_port (by decide) (by decide) port hport

end Url

theorem Http.Client.hostCredentials?_of_not_mem {c : Client} (h : '@' ∉ c.host.toList) :
    c.hostCredentials? = none := by
  have hsite := Url.siteOfFront_of_not_mem (Url.isFront_front _)
    (Url.not_mem_front_hostPortText h c.port)
  have hroot : "/".toList = '/' :: [] := rfl
  unfold hostCredentials? Url.parse
  rw [urlText_toList c hroot, Url.parseChars_httpText_eq]
  cases hread : Url.siteOfFront (Url.front (Url.hostPortText c.host.toList c.port)) with
  | error e => rfl
  | ok site =>
      obtain ⟨hname, hpassword⟩ := hsite site hread
      exact urlCredentials?_eq_none hname hpassword

namespace Harness

/-- What can be asked of a harness that has a session. -/
inductive Operation
  | menu (action : Menu.Action)
  | topology
  | listFlows
  | addFlow (record : Json.Value)
  | updateFlow (record : Json.Value)
  | removeFlow (record : Json.Value)
  | removeAllFlows
  | addSeveralFlows
  | statistics
  | addCmts (record : Json.Value)
  | removeCmts (record : Json.Value)

def Operation.perform (h : Harness) : Operation → Session → Session
  | .menu action, session => (h.run action session).2
  | .topology, session => (lift Session.topology session).2
  | .listFlows, session => (h.listFlows session).2
  | .addFlow record, session => (lift (Session.addFlow record) session).2
  | .updateFlow record, session => (lift (Session.updateFlow record) session).2
  | .removeFlow record, session => (lift (Session.removeFlow record) session).2
  | .removeAllFlows, session => (h.removeAllFlows session).2
  | .addSeveralFlows, session => (Harness.addSeveralFlows session).2
  | .statistics, session => (lift Session.statistics session).2
  | .addCmts record, session => (lift (Session.addCmts record) session).2
  | .removeCmts record, session => (lift (Session.removeCmts record) session).2

def performAll (h : Harness) (operations : List Operation) (session : Session) : Session :=
  operations.foldl (fun session operation => operation.perform h session) session

theorem Operation.perform_issues (h : Harness) (operation : Operation) (session : Session) :
    Issues session (operation.perform h session) := by
  cases operation with
  | menu action => exact h.run_issues action session
  | topology => exact follows_lift Session.topology_issues session
  | listFlows => exact follows_lift (Session.listFlows_issues h.node h.table) session
  | addFlow record => exact follows_lift (Session.addFlow_issues record) session
  | updateFlow record => exact follows_lift (Session.updateFlow_issues record) session
  | removeFlow record => exact follows_lift (Session.removeFlow_issues record) session
  | removeAllFlows => exact follows_lift (Session.removeAllFlows_issues h.node h.table) session
  | addSeveralFlows => exact addFlows_issues _ session
  | statistics => exact follows_lift Session.statistics_issues session
  | addCmts record => exact follows_lift (Session.addCmts_issues record) session
  | removeCmts record => exact follows_lift (Session.removeCmts_issues record) session

theorem performAll_issues (h : Harness) (operations : List Operation) (session : Session) :
    Issues session (h.performAll operations session) := by
  induction operations generalizing session with
  | nil => exact refl session
  | cons operation rest ih =>
      exact trans_of Issues (operation.perform_issues h session) (ih (operation.perform h session))

/-! ## The login of the settings -/

def Login.credentials? (login : Login) : Option Credentials :=
  if login.username = "" then none
  else some { username := login.username, password := login.password }

theorem Settings.usableCredentials? (settings : Settings) :
    settings.client.usableCredentials? = settings.login.bind Login.credentials? := by
  unfold client Client.usableCredentials? Login.credentials?
  cases settings.login with
  | none => rfl
  | some login =>
      by_cases hname : login.username = ""
      · simp [hname, Credentials.isUsable]
      · simp [hname, Credentials.isUsable, Option.filter]

/-- What the operations of a session send, in terms of the login: a session that uses credentials
sends them with each request, and no other session sends any. -/
theorem performAll_log (settings : Settings) (hhost : '@' ∉ settings.host.toList)
    (fixtures : Fixture.Store) (controller : Controller) (operations : List Operation) :
    let session :=
      (ofSettings settings fixtures).performAll operations (connect settings controller)
    session.client.usableCredentials? = settings.login.bind Login.credentials? ∧
      ∃ sent, session.controller.log = controller.log ++ sent ∧
        ∀ request ∈ sent, request.authorizations =
          (settings.login.bind Login.credentials?).toList.map Credentials.headerValue := by
  obtain ⟨hclient, hsends⟩ := performAll_issues (ofSettings settings fixtures) operations
    (connect settings controller)
  obtain ⟨sent, hlog, hsent⟩ := Client.Sends.log (c := settings.client) hsends
  refine ⟨?_, sent, hlog, ?_⟩
  · have husable := congrArg Client.usableCredentials? (hclient "")
    exact husable.trans settings.usableCredentials?
  · intro request hrequest
    have hnone : settings.client.hostCredentials? = none :=
      Client.hostCredentials?_of_not_mem hhost
    rw [(hsent request hrequest).authorizations, hnone, settings.usableCredentials?]
    rfl

/-- Every request of a session carries the login of its settings as Basic authentication, in one
header. Without a user name none carries such a header, and the session uses no credentials. -/
theorem performAll_authorizations (settings : Settings) (hhost : '@' ∉ settings.host.toList)
    (fixtures : Fixture.Store) (controller : Controller) (operations : List Operation) :
    let session :=
      (ofSettings settings fixtures).performAll operations (connect settings controller)
    (session.client.usesCredentials = true ↔
        ∃ login, settings.login = some login ∧ login.username ≠ "") ∧
      ∃ sent, session.controller.log = controller.log ++ sent ∧
        (∀ login, settings.login = some login → login.username ≠ "" →
          ∃ text, Base64.IsStandard
              (Utf8.encode (login.username ++ ":" ++ login.password).toList) text ∧
            ∀ request ∈ sent, request.authorizations = ["Basic " ++ String.ofList text]) ∧
        ((¬ ∃ login, settings.login = some login ∧ login.username ≠ "") →
          ∀ request ∈ sent, request.authorizations = []) := by
  obtain ⟨husable, sent, hlog, hsent⟩ := performAll_log settings hhost fixtures controller operations
  refine ⟨?_, sent, hlog, ?_, ?_⟩
  · unfold Client.usesCredentials
    rw [husable]
    cases settings.login with
    | none => simp
    | some login => by_cases hname : login.username = "" <;> simp [Login.credentials?, hname]
  · intro login hlogin hname
    refine ⟨_, Text.Base64.encode_isStandard _, fun request hrequest => ?_⟩
    rw [hsent request hrequest, hlogin, Option.bind_some, Login.credentials?, if_neg hname]
    rfl
  · intro hnone request hrequest
    have hcredentials : settings.login.bind Login.credentials? = none := by
      cases hlogin : settings.login with
      | none => rfl
      | some login =>
          rw [Option.bind_some, Login.credentials?, if_pos]
          by_contra hname
          exact hnone ⟨login, hlogin, hname⟩
    rw [hsent request hrequest, hcredentials]
    rfl

theorem standard_isPlain : Settings.standard.client.IsPlain (.ipv4 2130706433) := by
  have hname : Url.IsHostName "127.0.0.1".toList := by decide
  exact Client.isPlain_ipv4 (c := Settings.standard.client) hname (by decide) (by decide) (by decide)
    (by decide)

theorem performAll_reads {h : Harness} {s : Session} (hreachable : s.controller.reachable = true)
    {first second : Http.Request}
    (hfirst : s.client.prepare .get Restconf.Path.topology none = .ok first)
    (hsecond : s.client.prepare .get Restconf.Path.statistics none = .ok second) :
    (h.performAll [.topology, .statistics] s).controller.log =
      s.controller.log ++ [first, second] := by
  have hnext : (s.client.pointedAt Restconf.Path.topology).prepare .get Restconf.Path.statistics none =
      .ok second := by
    rw [Client.prepare_pointedAt, hsecond]
  unfold performAll Operation.perform lift
  simp only [List.foldl_cons, List.foldl_nil, Session.topology_apply, Session.statistics_apply,
    Session.exchange_ok hfirst]
  rw [Session.exchange_ok hnext]
  exact Controller.after_log hreachable [first, second]

/-- Where the stock login is refused, the next request carries it again. -/
theorem standard_authorizations :
    '@' ∉ Settings.standard.host.toList ∧
      ∃ first second,
        ((ofSettings .standard .empty).performAll [.topology, .statistics]
          (connect .standard (.scripted [.reply 401 []]))).controller.log = [first, second] ∧
        first.authorizations = ["Basic YWRtaW46YWRtaW4="] ∧
        second.authorizations = ["Basic YWRtaW46YWRtaW4="] := by
  have hhost : '@' ∉ Settings.standard.host.toList := by decide
  obtain ⟨-, sent, hlog, hlogin, -⟩ := performAll_authorizations .standard hhost .empty
    (.scripted [.reply 401 []]) [.topology, .statistics]
  obtain ⟨text, htext, hsent⟩ := hlogin { username := "admin", password := "admin" } rfl (by decide)
  have hbasic : "Basic " ++ String.ofList text = "Basic YWRtaW46YWRtaW4=" := by
    rw [Text.Base64.isStandard_iff.mp htext]
    decide +kernel
  rw [hbasic] at hsent
  have htwo := performAll_reads (h := ofSettings .standard .empty)
    (s := connect .standard (.scripted [.reply 401 []])) rfl
    (standard_isPlain.prepare_eq .get Restconf.Path.isAbsolute_topology none)
    (standard_isPlain.prepare_eq .get Restconf.Path.isAbsolute_statistics none)
  obtain rfl : [_, _] = sent := List.append_cancel_left (htwo.symm.trans hlog)
  exact ⟨hhost, _, _, hlog, hsent _ (by simp), hsent _ (by simp)⟩

end Harness

end FlowConsole
