import ReplicaPorts.Compute.Error
import ReplicaPorts.Json.Decode

/-!
# Long-running operations

A call that changes something is answered with an operation, which is done at some time and then
says whether it failed. This module reads operations, and says what an operation that is done means
and what an answer means that is no success.
-/

set_option autoImplicit false

namespace ReplicaPorts.Compute

open Json

/-- One of the errors of an operation. -/
structure OperationFault where
  code : Option String := none
  message : Option String := none
  deriving DecidableEq

def OperationFault.ofJson? (j : Json) : Option OperationFault := do
  let r ← j.fields? ["code", "message"]
  return {
    code := ← r.optional? "code" text?
    message := ← r.optional? "message" text? }

/-- An operation. -/
structure Operation where
  name : String
  status : Option String := none
  selfLink : Option String := none
  targetLink : Option String := none
  errors : Option (List OperationFault) := none
  failureStatus : Option UInt16 := none
  failureMessage : Option String := none
  deriving DecidableEq

namespace Operation

def faults? (j : Json) : Option (List OperationFault) := do
  (← j.fields? ["errors"]).withDefault? "errors" (list? OperationFault.ofJson?) []

def fields : List String :=
  ["name", "status", "selfLink", "targetLink", "error", "httpErrorStatusCode", "httpErrorMessage"]

def ofJson? (j : Json) : Option Operation := do
  let r ← j.fields? fields
  return {
    name := ← r.required? "name" text?
    status := ← r.optional? "status" text?
    selfLink := ← r.optional? "selfLink" text?
    targetLink := ← r.optional? "targetLink" text?
    errors := ← r.optional? "error" faults?
    failureStatus := ← r.optional? "httpErrorStatusCode" uint16?
    failureMessage := ← r.optional? "httpErrorMessage" text? }

def isDone (o : Operation) : Bool := o.status == some "DONE"

def faultText (faults : List OperationFault) : String :=
  "; ".intercalate (faults.filterMap (·.message))

/-- What an operation that has ended means. A resource that is missing or exists is told by the
status of the failure or by the code of the first error. -/
def result (o : Operation) : Except Error Unit :=
  match o.errors with
  | none => .ok ()
  | some faults =>
    let message := faultText faults
    let code := faults.head?.bind (·.code)
    if o.failureStatus = some 404 ∨ code = some "RESOURCE_NOT_FOUND" then
      .error (.notFound message)
    else if o.failureStatus = some 409 ∨ code = some "RESOURCE_ALREADY_EXISTS" then
      .error (.alreadyExists message)
    else .error (.operation o.name message)

end Operation

/-! ## Answers that are no success -/

/-- The words of an error in the body of an answer, if the body has the form of an error. -/
def reportedMessage? (body : String) : Option String := do
  let r ← (← ofText? body).fields? ["error"]
  r.required? "error" fun j => do
    let e ← j.fields? ["code", "message"]
    let _ ← e.withDefault? "code" uint16? 0
    e.withDefault? "message" text? ""

/-- What an answer means that is no success, for a request to a path. -/
def Error.ofStatus (path : String) (status : Nat) (body : String) : Error :=
  let message := s!"{path}: {(reportedMessage? body).getD body}"
  if status = 404 then .notFound message
  else if status = 409 then .alreadyExists message
  else if status = 401 ∨ status = 403 then .authentication message
  else .api status message

end ReplicaPorts.Compute
