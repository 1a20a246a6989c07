import FlowConsole.Proofs.Command.ExitCode
import FlowConsole.Proofs.Command.MenuAgreement
import FlowConsole.Proofs.Restconf.SweptFlow
/-!
Runs of the commands on a record.

Such a run is that of one operation on the record that its argument names first: a single request
that carries this record, if it has a key. Without such a record nothing is sent.
-/
namespace FlowConsole.Command

open Http (Client Method)
open Json (Value)
open Record (Builtin)
open Restconf (Invocation Session)

/-- The commands on a record, with the operation that each makes of it and the request for that. -/
inductive OnRecord (argument : String) :
    Command → (Value → Invocation) → Method → (Value → String) → Prop
  | addFlow : OnRecord argument (.flows (.add argument)) .addFlow .put Value.compact
  | updateFlow : OnRecord argument (.flows (.update argument)) .updateFlow .post Value.compact
  | removeFlow : OnRecord argument (.flows (.remove argument)) .removeFlow .delete fun _ => ""
  | addCmts : OnRecord argument (.cmts (.add argument)) .addCmts .put Value.compact
  | removeCmts : OnRecord argument (.cmts (.remove argument)) .removeCmts .delete fun _ => ""

/-- Whether a run comes to one operation: to a single request for what it asks for, or to none if
its record has no key or the client has no request for it. -/
inductive ComesTo (c : Client) (op : Invocation) (method : Method) (body : String) (e : Effects)
    (run : Except Error Unit × Effects) : Prop
  | keyless (htarget : op.target? = none) (hcode : endCode Error.exitCode run.1 = 1)
      (hsame : run.2 = e)
  | unsent {t : Restconf.Target} {problem : Http.Error} (htarget : op.target? = some t)
      (hprepare : c.prepare t.method t.path t.payload = .error problem)
      (hcode : endCode Error.exitCode run.1 ≠ 0) (hsame : run.2 = e)
  | sent {t : Restconf.Target} {request : Http.Request} (htarget : op.target? = some t)
      (hprepare : c.prepare t.method t.path t.payload = .ok request)
      (hmethod : request.method = method) (hbody : request.body = body)
      (hcode : endCode Error.exitCode run.1 = (faultCode? c.timeout e.controller.next).getD 0)
      (hreceived : run.2.controller = (e.controller.receive request).2)

/-- Whether a run takes its record from the first source that goes by an argument. -/
structure UsesFirstSource (c : Client) (store : Fixture.Store) (argument : String)
    (op : Value → Invocation) (method : Method) (body : Value → String) (e : Effects)
    (run : Except Error Unit × Effects) : Prop where
  held : ∀ source v, FirstSource e.files store argument source → source.Holds v →
    ComesTo c (op v) method (body v) e run
  malformed : ∀ source problem, FirstSource e.files store argument source →
    source.IsMalformed argument problem → run = (.error problem, e)
  absent : (∀ source, ¬ FirstSource e.files store argument source) →
    run = (.error (.recordNotFound argument), e) ∧ endCode Error.exitCode run.1 = 4

namespace Running

/-! ## The run with a record -/

theorem onSession_lift_apply {α : Type} (settings : Settings) (action : Restconf.Action α)
    (e : Effects) {r : Except Http.Error α} {left : Session}
    (h : action (Harness.connect settings.controller e.controller) = (r, left)) :
    onSession settings (Harness.lift action) e =
      ((r.mapError .ofHttp).mapError .ofHarness, { e with controller := left.controller }) := by
  unfold onSession Harness.lift
  rw [h]
  cases r <;> rfl

section

variable {settings : Settings} {e : Effects} {operation : Restconf.Action Restconf.Outcome}
  {op : Invocation} {f : Restconf.Outcome → Running Unit}
  (hrun : ∀ s, op.run s = Invocation.outcome operation s)
include hrun

theorem onSession_of_failure {problem : Http.Error} {left : Session}
    (h : op.run (Harness.connect settings.controller e.controller) = (some problem, left)) :
    (onSession settings (Harness.lift operation) >>= f) e =
      (.error (.ofHarness (.ofHttp problem)), { e with controller := left.controller }) := by
  rw [hrun, Invocation.outcome_eq_some_iff] at h
  exact bind_error (onSession_lift_apply settings operation e h) f

theorem onSession_of_success (hf : ∀ outcome, Prints (f outcome)) {left : Session}
    (h : op.run (Harness.connect settings.controller e.controller) = (none, left)) :
    ((onSession settings (Harness.lift operation) >>= f) e).1 = .ok () ∧
      ((onSession settings (Harness.lift operation) >>= f) e).2.controller = left.controller := by
  rw [hrun, Invocation.outcome_eq_none_iff] at h
  obtain ⟨outcome, houtcome⟩ := h
  rw [bind_ok (onSession_lift_apply settings operation e houtcome)]
  obtain ⟨hok, hprinted⟩ := hf outcome { e with controller := left.controller }
  exact ⟨hok, hprinted.controller⟩

theorem onSession_comesTo (hjudge : op.judge = fun _ => none) {method : Method} {body : String}
    (hcarries : ∀ t, op.target? = some t →
      t.method = method ∧ t.payload.elim "" Value.compact = body)
    (hf : ∀ outcome, Prints (f outcome)) :
    ComesTo settings.controller.client op method body e
      ((onSession settings (Harness.lift operation) >>= f) e) := by
  cases htarget : op.target? with
  | none =>
      obtain ⟨message, hself⟩ := Invocation.run_eq_self htarget
        (Harness.connect settings.controller e.controller)
      rw [onSession_of_failure hrun hself]
      exact .keyless htarget rfl rfl
  | some t =>
      have hexchange := Invocation.run_eq_exchange htarget
        (Harness.connect settings.controller e.controller)
      cases hprepare : settings.controller.client.prepare t.method t.path t.payload with
      | error problem =>
          rw [Session.exchange_error hprepare] at hexchange
          rw [onSession_of_failure hrun hexchange]
          exact .unsent htarget hprepare (exitCode_ne_zero _) rfl
      | ok request =>
          obtain ⟨hmethod, hbody⟩ : request.method = method ∧ request.body = body := by
            obtain ⟨hmethod, hbody, -⟩ := Client.url_eq_of_prepare hprepare hprepare
            exact ⟨hmethod.trans (hcarries t htarget).1, hbody.trans (hcarries t htarget).2⟩
          rw [Session.exchange_ok hprepare, Http.Controller.receive_fst, hjudge] at hexchange
          -- no answer fails a change: only a request without one does
          rcases answer_cases settings.controller.client request e.controller.next with
            ⟨problem, hfails, hfault⟩ | ⟨status, reply, -, hfault, hanswers⟩
          · have hfailed := hexchange.trans (congrArg (fun r => (Invocation.judged _ r, _)) hfails)
            rw [onSession_of_failure hrun hfailed]
            have hcode : callCode problem =
                (faultCode? settings.controller.client.timeout e.controller.next).getD 0 := by
              rw [hfault, Option.getD_some]
            exact .sent htarget hprepare hmethod hbody hcode rfl
          · have hdone := hexchange.trans (congrArg (fun r => (Invocation.judged _ r, _)) hanswers)
            obtain ⟨hok, hleft⟩ := onSession_of_success hrun hf hdone
            refine .sent htarget hprepare hmethod hbody ?_ hleft
            rw [hok, hfault]
            rfl

end

/-! ## The run of a command -/

section

variable {settings : Settings} {store : Fixture.Store} {argument : String} {e : Effects}
  {op : Value → Invocation} {method : Method} {body : Value → String}

theorem change_usesFirstSource {operation : Value → Restconf.Action Restconf.Outcome}
    (hrun : ∀ v s, (op v).run s = Invocation.outcome (operation v) s)
    (hjudge : ∀ v, (op v).judge = fun _ => none)
    (hcarries : ∀ v t, (op v).target? = some t →
      t.method = method ∧ t.payload.elim "" Value.compact = body v) :
    UsesFirstSource settings.controller.client store argument op method body e
      (change (.ofSettings settings.controller store) settings operation argument e) where
  held source v hsource hholds := by
    have hrecord := record_of_holds (h := .ofSettings settings.controller store) hsource hholds
    unfold change
    rw [bind_ok hrecord]
    exact onSession_comesTo (hrun v) (hjudge v) (hcarries v) fun outcome => prints_printResult _ _
  malformed source problem hsource hmalformed := by
    have hrecord := record_of_malformed (h := .ofSettings settings.controller store) hsource
      hmalformed
    exact bind_error hrecord _
  absent habsent := by
    have hrun : change (.ofSettings settings.controller store) settings operation argument e =
        (.error (.recordNotFound argument), e) :=
      bind_error (record_of_absent (h := .ofSettings settings.controller store) habsent) _
    exact ⟨hrun, by rw [hrun]; rfl⟩

theorem onController_usesFirstSource {c : Command} (hc : OnRecord argument c op method body)
    (s : Surroundings) :
    UsesFirstSource settings.controller.client store argument op method body e
      (onController s (.ofSettings settings.controller store) settings c e) := by
  cases hc with
  | addFlow | updateFlow | removeFlow | addCmts | removeCmts =>
      refine change_usesFirstSource (fun _ _ => rfl) (fun _ => rfl) fun v t ht => ?_
      obtain ⟨key, -, rfl⟩ := Option.map_eq_some_iff.mp ht
      exact ⟨rfl, rfl⟩

theorem namingProfile_usesFirstSource {x : Running Unit}
    (h : UsesFirstSource settings.controller.client store argument op method body e (x e))
    (profile : String) :
    UsesFirstSource settings.controller.client store argument op method body e
      (namingProfile profile x e) where
  held source v hsource hholds := by
    have hcode := endCode_namingProfile profile x e
    cases h.held source v hsource hholds with
    | keyless htarget hone hsame => exact .keyless htarget (hcode.trans hone) hsame
    | unsent htarget hprepare hfailed hsame =>
        exact .unsent htarget hprepare (hcode.trans_ne hfailed) hsame
    | sent htarget hprepare hmethod hbody hfault hreceived =>
        exact .sent htarget hprepare hmethod hbody (hcode.trans hfault) hreceived
  malformed source problem hsource hmalformed := by
    unfold namingProfile
    rw [h.malformed source problem hsource hmalformed]
    cases hmalformed <;> rfl
  absent habsent := by
    unfold namingProfile
    rw [(h.absent habsent).1]
    exact ⟨rfl, rfl⟩

end

end Running

/-- A command on a record takes it from the first source that goes by its argument, with any files
and any fixtures, and so does each whole run, with the fixtures that it found. A source that holds
no record makes the command fail before anything is sent, whatever other sources there are. -/
theorem run_usesFirstSource {argument : String} {c : Command} {op : Value → Invocation}
    {method : Method} {body : Value → String} (hc : OnRecord argument c op method body)
    (s : Surroundings) (chosen : Settings) (e : Effects) :
    (∀ source : RecordSource,
      (∃ v, source.Holds v) ∨ ∃ problem, source.IsMalformed argument problem) ∧
    (∀ store, UsesFirstSource chosen.controller.client store argument op method body e
      (Running.onController s (.ofSettings chosen.controller store) chosen c e)) ∧
    ∀ a : Arguments, a.command = some c → (Running.settings s a.options e).1 = .ok chosen →
      UsesFirstSource chosen.controller.client (Running.storeOf chosen c e.files) argument op method
        body e (a.run s e) := by
  refine ⟨fun source => source.holds_or_isMalformed argument,
    fun store => Running.onController_usesFirstSource hc s, fun a hcommand hchosen => ?_⟩
  have hon : Running.OnController c := by
    cases hc with
    | addFlow | updateFlow | removeFlow => exact .flows _
    | addCmts | removeCmts => exact .cmts _
  have hrun : a.run s e = Running.withSettings s c chosen e := by
    rw [← Running.command_of_settings hon hchosen, Arguments.run, hcommand]
    rfl
  rw [hrun]
  exact Running.namingProfile_usesFirstSource (Running.onController_usesFirstSource hc s)
    chosen.profile

def brokenStart : Effects :=
  { bareStart with files := (Files.Tree.empty []).put ["flow1"] (.file []) }

theorem brokenStart_find : brokenStart.files.find "flow1" = .ok (.file []) := by
  refine Files.Tree.find_eq_ok_iff.mpr ⟨["flow1"], rfl, by decide, ?_, nofun⟩
  exact .enter rfl ⟨by decide, by decide, by decide⟩ rfl nofun (.arrived _ _)

/-- The file is not passed over for the fixture or the built-in record of its name. Without the file
and the fixture the built-in record is sent. -/
theorem run_usesFirstSource_flow1 :
    OnRecord "flow1" (.flows (.update "flow1")) .updateFlow .post Value.compact ∧
      Running.onController bareSurroundings
        (.ofSettings (topologySettings "localhost").controller (.ofList [("flow1", "[]")]))
        (topologySettings "localhost") (.flows (.update "flow1")) brokenStart =
          (.error (.validation "record"
            "flow1: invalid JSON: EOF while parsing a value at line 1 column 0"), brokenStart) ∧
      ComesTo (topologySettings "localhost").controller.client (.updateFlow Builtin.flow1.record)
        .post Builtin.flow1.record.compact bareStart
        (Running.onController bareSurroundings
          (.ofSettings (topologySettings "localhost").controller .empty)
          (topologySettings "localhost") (.flows (.update "flow1")) bareStart) := by
  have hc : OnRecord "flow1" (.flows (.update "flow1")) .updateFlow .post Value.compact :=
    .updateFlow
  have hbroken := run_usesFirstSource hc bareSurroundings (topologySettings "localhost") brokenStart
  have hbare := run_usesFirstSource hc bareSurroundings (topologySettings "localhost") bareStart
  have hno := Files.Tree.isFile_eq_false_iff.mp (Running.bareStart_isFile .flow1)
  refine ⟨hc, ?_, ?_⟩
  · have htext : Text.Utf8.decode? [] = some "" := Text.Utf8.decode?_encode []
    have hjson : Json.parse "" = .error ⟨.eofValue, 1, 0⟩ := rfl
    exact (hbroken.2.1 _).malformed _ _ (.file brokenStart_find) (.notJson htext hjson)
  · exact (hbare.2.1 _).held _ _ (.builtin (b := .flow1) hno rfl rfl) (.builtin .flow1)

end FlowConsole.Command
