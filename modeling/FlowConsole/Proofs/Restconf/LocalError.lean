import FlowConsole.Proofs.Restconf.Traffic
/-!
Errors that tell of the caller's own data, and when they can come up.

Whether a path has a request is a matter of host and port alone. So a client has a request for each
path or for none: an operation fails for its own data before it has sent anything, or not at all.
-/
namespace FlowConsole

open Http (Client Controller IsAbsolute)

namespace Http

/-- Errors in the text of a host or in a record. -/
def Error.isLocal : Error → Bool
  | .invalidUrl _ => true
  | .invalidRecord _ => true
  | .unwritable _ => true
  | _ => false

namespace Client

def IsLocated (c : Client) : Prop :=
  ∀ method path payload, IsAbsolute path →
    ∃ request, c.prepare method path payload = .ok request

theorem isLocated_or_prepares_none (c : Client) : c.IsLocated ∨ ∀ request, ¬ c.Prepares request := by
  by_cases hsome : ∃ request, c.Prepares request
  · obtain ⟨request, method, path, payload, hpath, hprepare⟩ := hsome
    exact .inl fun method' path' payload' hpath' => prepare_ok_of_prepare_ok hpath hpath' hprepare
  · exact .inr fun request hrequest => hsome ⟨request, hrequest⟩

/-- Whether no path has a request, because none can be written for the host. -/
def IsUnsendable (c : Client) : Prop :=
  ∀ method path payload, IsAbsolute path →
    ∃ url, c.prepare method path payload = .error (.transport (.unsendable url))

/-- Where each path has a URL, all have a request or the host fits into none. -/
theorem isLocated_or_isUnsendable {c : Client}
    (hurl : ∀ path, IsAbsolute path → ∃ url, Url.parse (c.urlText path) = .ok url) :
    c.IsLocated ∨ c.IsUnsendable := by
  rcases c.isLocated_or_prepares_none with hlocated | hnone
  · exact .inl hlocated
  · refine .inr fun method path payload hpath => ?_
    obtain ⟨url, hparse⟩ := hurl path hpath
    cases hprepare : c.prepare method path payload with
    | ok request => exact absurd ⟨method, path, payload, hpath, hprepare⟩ (hnone request)
    | error e =>
        unfold prepare at hprepare
        rw [hparse] at hprepare
        simp only [Except.mapError, Except.bind] at hprepare
        split at hprepare
        · cases hprepare
        · exact ⟨_, hprepare.symm⟩

theorem IsUnsendable.prepares_none {c : Client} (h : c.IsUnsendable) (request : Request) :
    ¬ c.Prepares request := by
  rintro ⟨method, path, payload, hpath, hprepare⟩
  obtain ⟨url, herror⟩ := h method path payload hpath
  rw [hprepare] at herror
  cases herror

theorem Sends.eq_of_prepares_none {c : Client} {before after : Controller}
    (h : c.Sends before after) (hnone : ∀ request, ¬ c.Prepares request) : after = before := by
  obtain ⟨requests, rfl, hrequests⟩ := h
  cases requests with
  | nil => rfl
  | cons request rest => exact absurd (hrequests request List.mem_cons_self) (hnone request)

theorem answer_not_local {c : Client} {request : Request} {exchange : Option Exchange} {e : Error}
    (h : c.answer request exchange = .error e) : e.isLocal = false := by
  rcases answer_eq_error h with ⟨_, rfl⟩ | ⟨_, rfl⟩ <;> rfl

end Client

end Http

namespace Restconf

open Http (Error)

theorem Invocation.judged_not_local {op : Invocation} {c : Client} {request : Http.Request}
    {exchange : Option Http.Exchange} {e : Error}
    (h : judged op.judge (c.answer request exchange) = some e) : e.isLocal = false := by
  cases hanswer : c.answer request exchange with
  | error e' =>
      rw [hanswer] at h
      obtain rfl := Option.some.inj h
      exact Client.answer_not_local hanswer
  | ok r =>
      rw [hanswer] at h
      rcases judge_eq_some h with ⟨path, rfl⟩ | ⟨message, body, rfl⟩ <;> rfl

namespace Session

def IsLocated (s : Session) : Prop := s.client.IsLocated

def Untouched (before after : Session) : Prop := after.controller = before.controller

theorem Issues.isLocated {before after : Session} (h : Issues before after)
    (hlocated : before.IsLocated) : after.IsLocated := by
  unfold IsLocated Client.IsLocated at *
  rwa [prepare_of_pointedAt h.client]

/-- An action that avoids an error wherever there are requests has sent nothing where it fails with
that error. -/
theorem untouched_of_avoids {ε α : Type} {kind : ε → Bool} {action : ExceptT ε (StateM Session) α}
    (hissues : Follows Issues action) (havoids : Avoids IsLocated kind action) :
    Spares Untouched kind action := by
  intro s e he hkind
  rcases s.client.isLocated_or_prepares_none with hlocated | hnone
  · have hnot := (havoids s hlocated).2 e he
    rw [hkind] at hnot
    cases hnot
  · exact (hissues s).sends.eq_of_prepares_none hnone

theorem run_not_local {op : Invocation} {t : Target} (ht : op.target? = some t) {s : Session}
    (hs : s.IsLocated) {e : Error} (he : (op.run s).1 = some e) : e.isLocal = false := by
  obtain ⟨request, hrequest⟩ := hs t.method t.path t.payload (Invocation.target?_isAbsolute ht)
  rw [Invocation.run_eq_exchange ht, exchange_ok hrequest] at he
  exact Invocation.judged_not_local he

/-- Whether an action fails for the caller's own data from no session that has its requests. -/
abbrev AvoidsLocal {α : Type} (x : Action α) : Prop := Avoids IsLocated Error.isLocal x

section

variable {α : Type} {action : Action α} (op : Invocation)
  (hrun : ∀ s, op.run s = Invocation.outcome action s)
include hrun

theorem avoidsLocal_of_run (hsome : op.target?.isSome) : AvoidsLocal action := by
  obtain ⟨t, ht⟩ := Option.isSome_iff_exists.mp hsome
  intro s hs
  refine ⟨(follows_of_run op hrun s).isLocated hs, fun e he => ?_⟩
  apply run_not_local ht hs
  rw [hrun, Invocation.outcome, he]
  rfl

theorem untouched_of_run : Spares Untouched Error.isLocal action := by
  cases ht : op.target? with
  | none =>
      intro s _ _ _
      obtain ⟨message, hself⟩ := Invocation.run_eq_self ht s
      have hsame := congrArg Prod.snd ((hrun s).symm.trans hself)
      exact congrArg Session.controller hsame
  | some t =>
      have hsome : op.target?.isSome := Option.isSome_iff_exists.mpr ⟨t, ht⟩
      exact untouched_of_avoids (follows_of_run op hrun) (avoidsLocal_of_run op hrun hsome)

end

theorem topology_avoidsLocal : AvoidsLocal topology :=
  avoidsLocal_of_run .topology (fun _ => rfl) rfl

theorem statistics_avoidsLocal : AvoidsLocal statistics :=
  avoidsLocal_of_run .statistics (fun _ => rfl) rfl

theorem listFlows_avoidsLocal (node table : Nat) : AvoidsLocal (listFlows node table) :=
  avoidsLocal_of_run (.listFlows node table) (fun _ => rfl) rfl

theorem removeKeys_avoidsLocal (keys : List Record.FlowKey) : AvoidsLocal (removeKeys keys) := by
  induction keys with
  | nil => exact avoids_pure _
  | cons key rest ih =>
      apply (avoidsLocal_of_run (.removeFlowKey key) (fun _ => rfl) rfl).bind
      intro outcome
      exact ih.bind fun removals => avoids_pure _

theorem removeAllFlows_avoidsLocal (node table : Nat) : AvoidsLocal (removeAllFlows node table) :=
  (listFlows_avoidsLocal node table).bind fun listing => removeKeys_avoidsLocal listing.keys

section

variable {record : Json.Value}

theorem addFlow_avoidsLocal (h : (Invocation.addFlow record).target?.isSome) :
    AvoidsLocal (addFlow record) :=
  avoidsLocal_of_run (.addFlow record) (fun _ => rfl) h

theorem removeFlow_avoidsLocal (h : (Invocation.removeFlow record).target?.isSome) :
    AvoidsLocal (removeFlow record) :=
  avoidsLocal_of_run (.removeFlow record) (fun _ => rfl) h

theorem addCmts_avoidsLocal (h : (Invocation.addCmts record).target?.isSome) :
    AvoidsLocal (addCmts record) :=
  avoidsLocal_of_run (.addCmts record) (fun _ => rfl) h

theorem removeCmts_avoidsLocal (h : (Invocation.removeCmts record).target?.isSome) :
    AvoidsLocal (removeCmts record) :=
  avoidsLocal_of_run (.removeCmts record) (fun _ => rfl) h

end

end Session

end Restconf

end FlowConsole
