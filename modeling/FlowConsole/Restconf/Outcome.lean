import FlowConsole.Http.Client
/-!
The outcome of a change to the controller's configuration: its status, with the meaning that the
operation gives to it.
-/
namespace FlowConsole.Restconf

open Http

/-- The operations whose status codes have a documented meaning. -/
inductive Operation
  | flowAdd
  | flowDelete
  | cmtsAdd
  | cmtsDelete
deriving DecidableEq, Repr

def Operation.explain? (operation : Operation) (status : Nat) : Option String :=
  match operation with
  | .flowAdd =>
    match status with
    | 201 => some "Flow Config processed successfully"
    | 400 => some "Failed to create Static Flow entry due to invalid flow configuration"
    | 401 => some "User not authorized to perform this operation"
    | 404 => some "The Container Name or nodeId is not found"
    | 406 => some "Cannot operate on Default Container when other Containers are active"
    | 409 => some "Failed to create Static Flow entry due to Conflicting Name or configuration"
    | 500 =>
      some "Failed to create Static Flow entry. Failure Reason included in HTTP Error response"
    | 503 => some "One or more of Controller services are unavailable"
    | _ => none
  | .flowDelete =>
    match status with
    | 204 => some "Flow Config deleted successfully"
    | 401 => some "User not authorized to perform this operation"
    | 404 => some "The Container Name or Node-id or Flow Name passed is not found"
    | 406 =>
      some ("Failed to delete Flow config due to invalid operation. " ++
        "Failure details included in HTTP Error response")
    | 500 => some "Failed to delete Flow config. Failure Reason included in HTTP Error response"
    | 503 => some "One or more of Controller service is unavailable"
    | _ => none
  | .cmtsAdd =>
    match status with
    | 200 => some "CMTS Config processed successfully"
    | 201 => some "CMTS Config processed successfully"
    | 400 => some "Failed to create CMTS entry due to invalid CMTS configuration"
    | 401 => some "User not authorized to perform this operation"
    | 404 => some "The Container Name or nodeId is not found"
    | 409 => some "Failed to create CMTS entry due to Conflicting Name or configuration"
    | 500 => some "Failed to create CMTS entry. Failure Reason included in HTTP Error response"
    | 503 => some "One or more of Controller services are unavailable"
    | _ => none
  | .cmtsDelete =>
    match status with
    | 200 => some "CMTS Config deleted successfully"
    | 204 => some "CMTS Config deleted successfully"
    | 401 => some "User not authorized to perform this operation"
    | 404 => some "The Container Name or Node-id passed is not found"
    | 500 => some "Failed to delete CMTS config. Failure Reason included in HTTP Error response"
    | 503 => some "One or more of Controller service is unavailable"
    | _ => none

structure Outcome where
  status : Nat
  reason : String
  explanation : Option String
  body : String
deriving DecidableEq, Repr

namespace Outcome

def ofResponse (operation : Operation) (r : Response) : Outcome :=
  { status := r.status, reason := r.reason, explanation := operation.explain? r.status
    body := r.body }

def isSuccess (o : Outcome) : Bool :=
  Http.isSuccess o.status

end Outcome

structure Removal where
  key : Record.FlowKey
  outcome : Outcome
deriving DecidableEq, Repr

end FlowConsole.Restconf
