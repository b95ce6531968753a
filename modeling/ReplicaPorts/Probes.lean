import ReplicaPorts.Meter.Exposition

/-!
# Probes

Whoever watches the program asks it over HTTP whether it lives, whether it is ready to work and what
its metrics are.
-/

set_option autoImplicit false

namespace ReplicaPorts

/-- What is answered to a probe. -/
structure ProbeAnswer where
  status : Nat
  body : String
  deriving DecidableEq

/-- What the probes show. -/
structure Probes where
  meter : Meter := .empty
  ready : Bool := false

namespace Probes

def page? (p : Probes) : String → Option ProbeAnswer
  | "/healthz" => some ⟨200, "ok"⟩
  | "/readyz" => some (if p.ready then ⟨200, "ready"⟩ else ⟨503, "not ready"⟩)
  | "/metrics" => some ⟨200, p.meter.text⟩
  | _ => none

/-- Whether a query or a fragment starts with a character. -/
def endsPath (c : Char) : Bool := c == '?' || c == '#'

/-- What follows the scheme and the authority of a target; nothing if it has only one of them. -/
def afterAuthority (target : List Char) : List Char :=
  match target.dropWhile (· ≠ ':') with
  | ':' :: '/' :: '/' :: cs => cs.dropWhile fun c => c ≠ '/' ∧ !endsPath c
  | _ => []

/-- The path of a target, without a query and without a fragment. A target starts with its path, or
with a scheme and an authority. -/
def pathOf (target : String) : String :=
  let cs := target.toList
  let cs := if cs.head? = some '/' then cs else afterAuthority cs
  String.ofList (cs.takeWhile (!endsPath ·))

/-- Answers a request: a known path may be read, with or without the body. -/
def answer (p : Probes) (method target : String) : ProbeAnswer :=
  match p.page? (pathOf target) with
  | none => ⟨404, ""⟩
  | some page =>
    if method = "GET" then page
    else if method = "HEAD" then { page with body := "" }
    else ⟨405, ""⟩

end Probes

end ReplicaPorts
