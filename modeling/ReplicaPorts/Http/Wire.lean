import ReplicaPorts.Http.Exchange

/-!
# The world of a client

Besides responses a client needs the time and identifiers that nobody used before. A `Peer` answers
all three: it hands requests on to a handler of them, and its clock and its identifiers are given.
-/

set_option autoImplicit false

namespace ReplicaPorts.Http

/-- What a client asks of the world. -/
inductive Wire where
  | send (request : Request)
  | now
  | freshId

namespace Wire

abbrev Answer : Wire → Type
  | send _ => Option Response
  | now => Int
  | freshId => String

abbrev asks : Signature where
  Op := Wire
  Answer := Answer

def exchange (r : Request) : Program asks (Option Response) := Program.call (S := asks) (.send r)

def time : Program asks Int := Program.call (S := asks) .now

def identifier : Program asks String := Program.call (S := asks) .freshId

end Wire

/-- A world for a client whose requests are answered in a state. -/
structure Peer (σ : Type) where
  state : σ
  clock : Int := 0
  issued : Nat := 0

namespace Peer

variable {σ : Type}

/-- Answers what a client asks; `identifierAt` gives the identifiers in order. -/
def answer (handle : Handler exchanges σ) (identifierAt : Nat → String) :
    Handler Wire.asks (Peer σ)
  | .send r, p =>
    let (response, state) := handle r p.state
    (response, { p with state })
  | .now, p => (p.clock, p)
  | .freshId, p => (identifierAt p.issued, { p with issued := p.issued + 1 })

def unreachable : Handler exchanges σ := fun _ s => (none, s)

end Peer

end ReplicaPorts.Http
