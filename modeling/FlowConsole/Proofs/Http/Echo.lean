import FlowConsole.Proofs.Http.PlainClient
import FlowConsole.Proofs.Json.RoundTrip
/-!
What is written to the controller comes back from it.

The body of a request is the compact text of its payload, and a controller that answers with that
body gives the payload back.
-/
namespace FlowConsole.Http

open Json Text

theorem Response.json_compact {v : Value} (hnumbers : v.isIntegral = true)
    (hkeys : v.isOrdered = true) (hdepth : v.nesting ≤ 127) (status : Nat) (reason : String) :
    Response.json { status, reason, body := v.compact } = .ok v := by
  have hparse := Value.parse_compact hnumbers (Nat.lt_succ_of_le hdepth)
  rw [Value.canonical_eq_self hkeys] at hparse
  rw [Response.json, hparse]

namespace Client

theorem call_cases (c : Client) (method : Method) (payload : Option Value) (contentType : String)
    (controller : Controller) :
    (∃ e, c.call method payload contentType controller = (.error e, controller)) ∨
      ∃ request : Request, request.method = method ∧ request.body = payload.elim "" Value.compact ∧
        c.call method payload contentType controller =
          (c.answer request (controller.receive request).1, (controller.receive request).2) := by
  unfold call
  cases c.url with
  | error e => exact .inl ⟨e, rfl⟩
  | ok url =>
      simp only
      split
      · exact .inl ⟨_, rfl⟩
      · split
        · exact .inl ⟨_, rfl⟩
        · exact .inr ⟨c.request method url payload contentType, rfl, rfl, rfl⟩

theorem write_reads_back (c : Client) (controller : Controller)
    {write : Client → Value → Call Response} (hwrite : write = put ∨ write = post) {v : Value}
    (hnumbers : v.isIntegral = true) (hkeys : v.isOrdered = true) (hdepth : v.nesting ≤ 127) :
    ∃ sent, (write c v controller).2.log = controller.log ++ sent ∧ sent.length ≤ 1 ∧
      ∀ request ∈ sent,
        (∀ status reason, Response.json { status, reason, body := request.body } = .ok v) ∧
        ∀ status, hasNoBody status = false →
          controller.script.head? = some (.reply status (Utf8.encode request.body.toList)) →
          ∃ response, (write c v controller).1 = .ok response ∧ response.status = status ∧
            response.json = .ok v := by
  obtain ⟨method, hcall⟩ : ∃ method, write c v = c.call method (some v) jsonType := by
    rcases hwrite with rfl | rfl
    · exact ⟨.put, rfl⟩
    · exact ⟨.post, rfl⟩
  rw [hcall]
  rcases c.call_cases method (some v) jsonType controller with ⟨e, he⟩ | ⟨request, -, hbody, hok⟩
  · exact ⟨[], by rw [he, List.append_nil], Nat.zero_le 1, by simp⟩
  rw [hok]
  by_cases hreachable : controller.reachable = true
  · refine ⟨[request], Controller.after_log hreachable [request], Nat.le_refl 1, ?_⟩
    intro sent hsent
    obtain rfl := List.mem_singleton.mp hsent
    have hjson : ∀ status reason,
        Response.json { status, reason, body := sent.body } = .ok v := by
      intro status reason
      rw [hbody]
      exact Response.json_compact hnumbers hkeys hdepth status reason
    refine ⟨hjson, ?_⟩
    intro status hstatus hreply
    have hreceive : (controller.receive sent).1 =
        some (.reply status (Utf8.encode sent.body.toList)) := by
      unfold Controller.receive
      rw [if_pos hreachable, List.headD_eq_head?_getD, hreply]
      rfl
    refine ⟨{ status, reason := reasonPhrase status, body := sent.body }, ?_, rfl,
      hjson status (reasonPhrase status)⟩
    rw [hreceive, answer, hstatus, Utf8.decodeLossy_encode, String.ofList_toList]
    rfl
  · have hnone := Controller.after_unreachable (Bool.eq_false_iff.mpr hreachable) [request]
    refine ⟨[], ?_, Nat.zero_le 1, by simp⟩
    rw [List.append_nil]
    exact congrArg Controller.log hnone

/-- The largest and the least integer, empty containers, and characters that are escaped. -/
def limits : Value :=
  .object [
    ("\"\\", .string "/\t\x00\x1f\x7fé😀"),
    ("empty", .array [.array [], .object [], .string ""]),
    ("numbers", .array [.ofNat 0xffffffffffffffff, .number (.integer (-0x8000000000000000))])]

theorem put_limits_reads_back :
    ∃ response, ((ofLocalhost.pointedAt "/x").put limits
        (.scripted [.reply 201 (Utf8.encode limits.compact.toList)])).1 = .ok response ∧
      response.json = .ok limits := by
  have hnumbers : limits.isIntegral = true := by decide
  have hkeys : limits.isOrdered = true := by decide
  have hdepth : limits.nesting ≤ 127 := by decide
  obtain ⟨sent, hlog, -, hsent⟩ := write_reads_back (ofLocalhost.pointedAt "/x")
    (.scripted [.reply 201 (Utf8.encode limits.compact.toList)]) (.inl rfl) hnumbers hkeys hdepth
  have hpath : IsAbsolute "/x" := ⟨['x'], rfl⟩
  rw [put, call_pointedAt, ofLocalhost_isPlain.prepare_eq .put hpath (some limits)] at hlog hsent ⊢
  obtain rfl : _ = sent := hlog
  obtain ⟨-, hanswer⟩ := hsent _ List.mem_cons_self
  obtain ⟨response, hok, -, hjson⟩ := hanswer 201 rfl rfl
  exact ⟨response, hok, hjson⟩

end Client

end FlowConsole.Http
