import ReplicaPorts.Proofs.Compute.Conversation
import ReplicaPorts.Proofs.Compute.Provision
import ReplicaPorts.Proofs.Compute.RoundTrip

/-!
# A simulator keeps what a client sends

A client writes down the resource that it wants, and a simulator makes one up from the same call.
The two are made apart, and they agree field by field: what is sent is what would be stored,
furnished with what only a client says (`creation_eq`). So what is read from the request is what is
stored once both are stripped bare of that, and a firewall is up to date on either side
(`stored_as_sent`). `OpensWith` ties the request to the call: it is the first one of every
conversation that the client holds for the call.
-/

set_option autoImplicit false

namespace ReplicaPorts.Compute

open Json

/-! ## What only a client says -/

/-- A resource with what a client adds: the description, the network and the subnetwork, the
annotations, and whether connections are announced. -/
def Kind.furnish (s : Scope) : (kind : Kind) → kind.Model → kind.Model
  | .firewall, (f : Firewall) =>
    { f with description := some Body.purpose, network := some s.network }
  | .group, (g : EndpointGroup) =>
    { g with network := some s.network, subnetwork := some s.subnetwork,
             annotations := s.annotations }
  | .backend, (b : BackendService) => { b with network := some s.network }
  | .rule, (r : ForwardingRule) =>
    { r with network := some s.network, subnetwork := some s.subnetwork }
  | .attachment, (a : ServiceAttachment) => { a with enableProxyProtocol := some false }

/-- A resource without what a client adds. -/
def Kind.bare : (kind : Kind) → kind.Model → kind.Model
  | .firewall, (f : Firewall) => { f with description := none, network := none }
  | .group, (g : EndpointGroup) =>
    { g with network := none, subnetwork := none, annotations := ∅ }
  | .backend, (b : BackendService) => { b with network := none }
  | .rule, (r : ForwardingRule) => { r with network := none, subnetwork := none }
  | .attachment, (a : ServiceAttachment) => { a with enableProxyProtocol := none }

@[simp] theorem Kind.bare_furnish (s : Scope) (kind : Kind) (m : kind.Model) :
    kind.bare (kind.furnish s m) = kind.bare m := by
  cases kind <;> rfl

/-- What a client adds does not make a resource stale. -/
@[simp] theorem Design.isStale_furnish (s : Scope) (design : Design) (m : design.kind.Model) :
    design.isStale (design.kind.furnish s m) = design.isStale m := by
  cases design <;> rfl

/-- What is sent is what a simulator would store, with what a client adds. -/
theorem creation_eq (s : Scope) (name : String) (design : Design) :
    Body.creation s name design =
      design.kind.toJson (design.kind.furnish s (Store.modelOf s.place name design)) := by
  cases design <;> rfl

/-- What is read from a request to create a resource. -/
theorem ofText?_creation (s : Scope) (name : String) (design : Design) :
    (Form.resource design.kind).ofText? (Body.creation s name design).toText =
      some (design.kind.furnish s (Store.modelOf s.place name design)) := by
  have reads := (Form.resource design.kind).reads
  rw [creation_eq]
  exact Form.ofText?_of_ofJson? (Json.ofText?_toText _ (reads.spelled _))
    (reads.read (reads.stays _))

/-! ## What a call that succeeds leaves -/

namespace Simulator

variable {s : Simulator} {name : String}

theorem find?_answer_create {design : Design}
    (succeeds : (s.answer (.create name design)).1 = .ok ()) :
    (s.answer (.create name design)).2.store.find? design.kind name =
      some (Store.modelOf s.place name design) := by
  obtain ⟨performed, store⟩ := store_of_answer_ok succeeds
  simp only [Store.perform] at performed store
  obtain ⟨e, refused⟩ | ⟨-, -, created⟩ := s.store.create_cases s.place name design
  · rw [refused] at performed
    cases performed
  · rw [store, created]
    exact Store.find?_put_self s.place

theorem find?_answer_updateFirewall {ports : List Int32}
    (succeeds : (s.answer (.updateFirewall name ports)).1 = .ok ()) :
    ∃ f, s.store.find? .firewall name = some f ∧
      (s.answer (.updateFirewall name ports)).2.store.find? .firewall name =
        some { f with allowed := allowing ports } := by
  obtain ⟨performed, store⟩ := store_of_answer_ok succeeds
  simp only [Store.perform] at performed store
  split at performed
  · next f found =>
    rw [found] at store
    refine ⟨f, found, ?_⟩
    rw [store]
    exact Store.find?_withResources_insert _
  · cases performed

end Simulator

/-! ## Both sides -/

namespace Rest

variable {c : Client}

/-- A call is a conversation that opens with this method, this path and this body. -/
def OpensWith (c : Client) (call : Call) (method : Http.Method) (path : String) (body : Json) :
    Prop :=
  ∀ {supply supply' t r}, Program.Path ((perform c call).run.run supply) t (r, supply') →
    ∃ id xs tail, t = ⟨.freshId, id⟩ :: (xs.flatMap Exchange.events ++ tail) ∧
      Conversation (baseOf c.scope.endpoint) supply.fixed? method (withId path id) (some body) xs
        tail (r.map fun _ => ())

theorem opensWith_create (name : String) (design : Design) :
    OpensWith c (.create name design) .post (Path.collection c.scope.place design.kind)
      (Body.creation c.scope name design) :=
  path_perform rfl

theorem opensWith_updateFirewall (name : String) (ports : List Int32) :
    OpensWith c (.updateFirewall name ports) .patch (Path.resource c.scope.place .firewall name)
      (Body.portsUpdate ports) :=
  path_perform rfl

end Rest

/-- What is read from a request to give a firewall other ports: it has one member. -/
theorem ofText?_portsUpdate (ports : List Int32) :
    ∃ member, Json.ofText? (Body.portsUpdate ports).toText = some (.named [("allowed", member)]) ∧
      list? AllowClause.ofJson? member = some (allowing ports) := by
  have reads := reads_list AllowClause.reads
  have spelled := @isSpelled_named [("allowed", _)]
    (List.forall_mem_singleton.mpr (reads.spelled (allowing ports)))
  exact ⟨_, Json.ofText?_toText _ spelled, reads.read (reads.stays _)⟩

/-- A client and a simulator of the same place make the same of a call. What is read from the
request to create a resource is what the simulator stores when the call succeeds, with what only a
client adds; stripped of that the two are equal. A request to give a firewall other ports has its
allow clauses as the only member, and these are what the simulator puts into the firewall. On
neither side is the firewall stale then. -/
theorem stored_as_sent {c : Client} {s : Simulator} (here : s.place = c.scope.place)
    (name : String) :
    (∀ design : Design,
      Rest.OpensWith c (.create name design) .post (Path.collection c.scope.place design.kind)
        (Body.creation c.scope name design) ∧
      ∃ sent, (Form.resource design.kind).ofText? (Body.creation c.scope name design).toText =
          some sent ∧
        design.isStale sent = false ∧
        ((s.answer (.create name design)).1 = .ok () → ∃ stored,
          (s.answer (.create name design)).2.store.find? design.kind name = some stored ∧
          design.kind.bare sent = design.kind.bare stored ∧
          sent = design.kind.furnish c.scope stored ∧ design.isStale stored = false)) ∧
    ∀ ports : List Int32,
      Rest.OpensWith c (.updateFirewall name ports) .patch
        (Path.resource c.scope.place .firewall name) (Body.portsUpdate ports) ∧
      ∃ member clauses,
        Json.ofText? (Body.portsUpdate ports).toText = some (.named [("allowed", member)]) ∧
        list? AllowClause.ofJson? member = some clauses ∧
        (∀ f : Firewall, f.allowed = clauses → f.isStale ports = false) ∧
        ((s.answer (.updateFirewall name ports)).1 = .ok () → ∃ f,
          s.store.find? .firewall name = some f ∧
          (s.answer (.updateFirewall name ports)).2.store.find? .firewall name =
            some { f with allowed := clauses }) := by
  refine ⟨fun design => ⟨Rest.opensWith_create name design, _,
    ofText?_creation c.scope name design, ?_, fun succeeds => ?_⟩,
    fun ports => ⟨Rest.opensWith_updateFirewall name ports, ?_⟩⟩
  · rw [Design.isStale_furnish]
    exact design.isStale_modelOf _ _
  · have stored := Simulator.find?_answer_create succeeds
    rw [here] at stored
    exact ⟨_, stored, Kind.bare_furnish _ _ _, rfl, design.isStale_modelOf _ _⟩
  · obtain ⟨member, read, clauses⟩ := ofText?_portsUpdate ports
    exact ⟨member, _, read, clauses, fun _ => Firewall.isStale_allowing,
      Simulator.find?_answer_updateFirewall⟩

end ReplicaPorts.Compute

namespace ReplicaPorts.Small

open Compute

/-- A simulator that holds a firewall and a backend. -/
def backedSimulator : Simulator :=
  { wideSimulator with store := wideSimulator.store.put ⟨"p", "r"⟩ "be" (.backend "neg") }

/-- A rule with an address that is reached from everywhere. -/
def globalRule : Design := .rule "be" (some "10.0.0.9") true

/-- The rule is sent with a network and stored without one; the address is the same. The firewall
gets in the simulator the ports that are sent. -/
theorem small_stored_as_sent :
    (∃ sent stored : ForwardingRule,
      (Form.resource .rule).ofText? (Body.creation client.scope "fr" globalRule).toText =
        some sent ∧
      (backedSimulator.answer (.create "fr" globalRule)).2.store.find? .rule "fr" = some stored ∧
      Kind.rule.bare sent = Kind.rule.bare stored ∧
      sent.network = some "projects/p/global/networks/n" ∧ stored.network = none ∧
      sent.address = some "10.0.0.9") ∧
    ∃ f : Firewall, (backedSimulator.answer (.updateFirewall "fw" [443, 80])).2.store.find?
      .firewall "fw" = some f ∧ f.isStale [443, 80] = false ∧ f.network = some "n" := by
  have here : backedSimulator.place = client.scope.place := rfl
  have created : (backedSimulator.answer (.create "fr" globalRule)).1 = .ok () := by
    decide +kernel
  have updated : (backedSimulator.answer (.updateFirewall "fw" [443, 80])).1 = .ok () := by
    decide +kernel
  constructor
  · obtain ⟨-, sent, read, -, kept⟩ := (stored_as_sent here "fr").1 globalRule
    obtain ⟨stored, found, alike, rfl, -⟩ := kept created
    have model : stored = Store.modelOf ⟨"p", "r"⟩ "fr" globalRule :=
      Option.some.inj (found.symm.trans (Simulator.find?_answer_create created))
    subst model
    exact ⟨_, _, read, found, alike, by decide +kernel, rfl, rfl⟩
  · obtain ⟨-, member, clauses, -, -, fresh, kept⟩ := (stored_as_sent here "fw").2 [443, 80]
    obtain ⟨f, before, after⟩ := kept updated
    have wide : backedSimulator.store.find? .firewall "fw" = some wideFirewall := by
      decide +kernel
    obtain rfl := Option.some.inj (before.symm.trans wide)
    exact ⟨_, after, fresh _ rfl, rfl⟩

end ReplicaPorts.Small
