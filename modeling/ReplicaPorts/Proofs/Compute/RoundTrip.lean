import ReplicaPorts.Compute.Call
import ReplicaPorts.Payload.Validation
import ReplicaPorts.Proofs.Json.Growth

/-!
# What is written of a model is read back

Payloads, the resources of the Compute API and endpoints are read from what was written for them,
also when members that are not known here were put into any of their records (`Form.reads_back`).
For each record there is what it may grow to, field by field, and that it is read back.
-/

set_option autoImplicit false

namespace ReplicaPorts

open Json

/-! ## Payloads -/

def PortEntry.growth : Growth := .Record
  [("node_port", .same), ("container_port", .same), ("starting_port", .same)]

theorem PortEntry.reads : Reads toJson growth ofJson? := by
  refine reads_record _ (fun _ => rfl) (by decide) (fun e => ?_) fun {e r j} given held => ?_
  · simp only [List.forall₂_cons]
    exact ⟨reads_int32.always _, reads_int32.always _, reads_int32.always _, .nil⟩
  · simp only [List.forall₂_cons] at held
    obtain ⟨nodePort, containerPort, startingPort, -⟩ := held
    have given : j.fields? ["node_port", "container_port", "starting_port"] = some r := given
    simp [ofJson?, given, reads_int32.withDefault nodePort, reads_int32.withDefault containerPort,
      reads_int32.withDefault startingPort]

def Consumer.growth : Growth := .Record
  [("network_fqn", .same), ("project_id_or_num", .same), ("connection_limit", .same)]

theorem Consumer.reads : Reads toJson growth ofJson? := by
  refine reads_record _ (fun _ => rfl) (by decide) (fun c => ?_) fun {c r j} given held => ?_
  · simp only [List.forall₂_cons]
    exact ⟨reads_text.unlessNone _, reads_text.unlessNone _, reads_uint32.always _, .nil⟩
  · simp only [List.forall₂_cons] at held
    obtain ⟨network, project, limit, -⟩ := held
    have given : j.fields? ["network_fqn", "project_id_or_num", "connection_limit"] = some r :=
      given
    simp [ofJson?, given, reads_text.optional rfl network, reads_text.optional rfl project,
      reads_uint32.withDefault limit]

def Payload.growth : Growth := .Record
  [("prefix", .same), ("nat_subnet_fqns", .Items .same),
    ("consumer_accept_list", .Items Consumer.growth), ("ip", .same), ("global_access", .same),
    ("node_ports", .Values PortEntry.growth)]

theorem Payload.reads : Reads toJson growth ofJson? := by
  refine reads_record _ (fun _ => rfl) (by decide) (fun p => ?_) fun {p r j} given held => ?_
  · simp only [List.forall₂_cons]
    exact ⟨reads_text.always _, (reads_list reads_text).always _,
      (reads_list Consumer.reads).always _, reads_text.unlessNone _, reads_bool.unlessNone _,
      (reads_keyed PortEntry.reads).always _, .nil⟩
  · simp only [List.forall₂_cons] at held
    obtain ⟨namePrefix, natSubnets, consumers, address, globalAccess, ports, -⟩ := held
    have given : j.fields? fields = some r := given
    simp [ofJson?, given, reads_text.withDefault namePrefix,
      (reads_list reads_text).withDefault natSubnets,
      (reads_list Consumer.reads).withDefault consumers, reads_text.optional rfl address,
      reads_bool.optional rfl globalAccess, (reads_keyed PortEntry.reads).withDefault ports]

namespace Compute

/-! ## Resources of the Compute API -/

def AllowClause.growth : Growth := .Record
  [("IPProtocol", .same), ("ports", .Items .same)]

theorem AllowClause.reads : Reads toJson growth ofJson? := by
  refine reads_record _ (fun _ => rfl) (by decide) (fun a => ?_) fun {a r j} given held => ?_
  · simp only [List.forall₂_cons]
    exact ⟨reads_text.unlessNone _, reads_text.unlessNil _, .nil⟩
  · simp only [List.forall₂_cons] at held
    obtain ⟨protocol, ports, -⟩ := held
    have given : j.fields? fields = some r := given
    simp [ofJson?, given, reads_text.optional rfl protocol, reads_text.listOrNil ports]

def Firewall.growth : Growth := .Record
  [("name", .same), ("description", .same), ("network", .same), ("direction", .same),
    ("priority", .same), ("allowed", .Items AllowClause.growth), ("sourceRanges", .Items .same),
    ("selfLink", .same)]

theorem Firewall.reads : Reads toJson growth ofJson? := by
  refine reads_record _ (fun _ => rfl) (by decide) (fun f => ?_) fun {f r j} given held => ?_
  · simp only [List.forall₂_cons]
    exact ⟨reads_text.always _, reads_text.unlessNone _, reads_text.unlessNone _,
      reads_text.unlessNone _, reads_int32.unlessNone _, AllowClause.reads.unlessNil _,
      reads_text.unlessNil _, reads_text.unlessNone _, .nil⟩
  · simp only [List.forall₂_cons] at held
    obtain ⟨name, description, network, direction, priority, allowed, sourceRanges, selfLink,
      -⟩ := held
    have given : j.fields? fields = some r := given
    simp [ofJson?, given, reads_text.required name, reads_text.optional rfl description,
      reads_text.optional rfl network, reads_text.optional rfl direction,
      reads_int32.optional rfl priority, AllowClause.reads.listOrNil allowed,
      reads_text.listOrNil sourceRanges, reads_text.optional rfl selfLink]

def EndpointGroup.growth : Growth := .Record
  [("name", .same), ("networkEndpointType", .same), ("network", .same), ("subnetwork", .same),
    ("annotations", .Values .same), ("size", .same), ("selfLink", .same)]

theorem EndpointGroup.reads : Reads toJson growth ofJson? := by
  refine reads_record _ (fun _ => rfl) (by decide) (fun g => ?_) fun {g r j} given held => ?_
  · simp only [List.forall₂_cons]
    exact ⟨reads_text.always _, reads_text.unlessNone _, reads_text.unlessNone _,
      reads_text.unlessNone _, reads_text.unlessEmpty _, reads_uint32.unlessNone _,
      reads_text.unlessNone _, .nil⟩
  · simp only [List.forall₂_cons] at held
    obtain ⟨name, type, network, subnetwork, annotations, size, selfLink, -⟩ := held
    have given : j.fields? fields = some r := given
    simp [ofJson?, given, reads_text.required name, reads_text.optional rfl type,
      reads_text.optional rfl network, reads_text.optional rfl subnetwork,
      reads_text.keyedOrEmpty annotations, reads_uint32.optional rfl size,
      reads_text.optional rfl selfLink]

def NetworkEndpoint.growth : Growth := .Record
  [("instance", .same), ("port", .same), ("clientDestinationPort", .same),
    ("annotations", .Values .same)]

theorem NetworkEndpoint.ofJson?_of_holds {e : NetworkEndpoint} {r : Fields} {j : Json}
    (given : j.fields? fields = some r)
    (instancePath : r.Holds ("instance", .same) (Member.unlessNone "instance" .text e.instancePath))
    (port : r.Holds ("port", .same) (Member.unlessNone "port" int32 e.port))
    (destination : r.Holds ("clientDestinationPort", .same)
      (Member.unlessNone "clientDestinationPort" int32 e.clientDestinationPort))
    (annotations : r.Holds ("annotations", .Values .same)
      (Member.unlessEmpty "annotations" .text e.annotations)) : ofJson? j = some e := by
  simp [ofJson?, given, reads_text.optional rfl instancePath, reads_int32.optional rfl port,
    reads_int32.optional rfl destination, reads_text.keyedOrEmpty annotations]

theorem NetworkEndpoint.written (e : NetworkEndpoint) :
    List.Forall₂ Written
      [("instance", .same), ("port", .same), ("clientDestinationPort", .same),
        ("annotations", .Values .same)]
      [Member.unlessNone "instance" .text e.instancePath, Member.unlessNone "port" int32 e.port,
        Member.unlessNone "clientDestinationPort" int32 e.clientDestinationPort,
        Member.unlessEmpty "annotations" .text e.annotations] := by
  simp only [List.forall₂_cons]
  exact ⟨reads_text.unlessNone _, reads_int32.unlessNone _, reads_int32.unlessNone _,
    reads_text.unlessEmpty _, .nil⟩

theorem NetworkEndpoint.reads : Reads toJson growth ofJson? := by
  refine reads_record _ (fun _ => rfl) (by decide) written fun {e r j} given held => ?_
  simp only [List.forall₂_cons] at held
  obtain ⟨instancePath, port, destination, annotations, -⟩ := held
  exact ofJson?_of_holds given instancePath port destination annotations

/-- An endpoint is read from any object that holds what was written for its fields. -/
theorem NetworkEndpoint.ofJson?_of_extends {e : NetworkEndpoint} {j : Json}
    (h : Extends fields (Member.unlessNone "instance" .text e.instancePath ++
      Member.unlessNone "port" int32 e.port ++
      Member.unlessNone "clientDestinationPort" int32 e.clientDestinationPort ++
      Member.unlessEmpty "annotations" .text e.annotations) j) : ofJson? j = some e := by
  obtain ⟨r, given, held⟩ := holds_of_extends (written e) (by decide) (by simpa [fields] using h)
  simp only [List.forall₂_cons] at held
  obtain ⟨instancePath, port, destination, annotations, -⟩ := held
  exact ofJson?_of_holds given instancePath port destination annotations

def Backend.growth : Growth := .Record
  [("group", .same), ("balancingMode", .same)]

theorem Backend.reads : Reads toJson growth ofJson? := by
  refine reads_record _ (fun _ => rfl) (by decide) (fun b => ?_) fun {b r j} given held => ?_
  · simp only [List.forall₂_cons]
    exact ⟨reads_text.always _, reads_text.unlessNone _, .nil⟩
  · simp only [List.forall₂_cons] at held
    obtain ⟨group, mode, -⟩ := held
    have given : j.fields? ["group", "balancingMode"] = some r := given
    simp [ofJson?, given, reads_text.required group, reads_text.optional rfl mode]

def BackendService.growth : Growth := .Record
  [("name", .same), ("network", .same), ("protocol", .same), ("loadBalancingScheme", .same),
    ("backends", .Items Backend.growth), ("selfLink", .same)]

theorem BackendService.reads : Reads toJson growth ofJson? := by
  refine reads_record _ (fun _ => rfl) (by decide) (fun b => ?_) fun {b r j} given held => ?_
  · simp only [List.forall₂_cons]
    exact ⟨reads_text.always _, reads_text.unlessNone _, reads_text.unlessNone _,
      reads_text.unlessNone _, Backend.reads.unlessNil _, reads_text.unlessNone _, .nil⟩
  · simp only [List.forall₂_cons] at held
    obtain ⟨name, network, protocol, scheme, backends, selfLink, -⟩ := held
    have given : j.fields? fields = some r := given
    simp [ofJson?, given, reads_text.required name, reads_text.optional rfl network,
      reads_text.optional rfl protocol, reads_text.optional rfl scheme,
      Backend.reads.listOrNil backends, reads_text.optional rfl selfLink]

def ForwardingRule.growth : Growth := .Record
  [("name", .same), ("IPAddress", .same), ("IPProtocol", .same), ("allowGlobalAccess", .same),
    ("allPorts", .same), ("backendService", .same), ("network", .same), ("subnetwork", .same),
    ("loadBalancingScheme", .same), ("selfLink", .same)]

theorem ForwardingRule.reads : Reads toJson growth ofJson? := by
  refine reads_record _ (fun _ => rfl) (by decide) (fun f => ?_) fun {f r j} given held => ?_
  · simp only [List.forall₂_cons]
    exact ⟨reads_text.always _, reads_text.unlessNone _, reads_text.unlessNone _,
      reads_bool.unlessNone _, reads_bool.unlessNone _, reads_text.unlessNone _,
      reads_text.unlessNone _, reads_text.unlessNone _, reads_text.unlessNone _,
      reads_text.unlessNone _, .nil⟩
  · simp only [List.forall₂_cons] at held
    obtain ⟨name, address, protocol, globalAccess, allPorts, backend, network, subnetwork, scheme,
      selfLink, -⟩ := held
    have given : j.fields? fields = some r := given
    simp [ofJson?, given, reads_text.required name, reads_text.optional rfl address,
      reads_text.optional rfl protocol, reads_bool.optional rfl globalAccess,
      reads_bool.optional rfl allPorts, reads_text.optional rfl backend,
      reads_text.optional rfl network, reads_text.optional rfl subnetwork,
      reads_text.optional rfl scheme, reads_text.optional rfl selfLink]

def ConsumerLimit.growth : Growth := .Record
  [("projectIdOrNum", .same), ("networkUrl", .same), ("connectionLimit", .same)]

theorem ConsumerLimit.reads : Reads toJson growth ofJson? := by
  refine reads_record _ (fun _ => rfl) (by decide) (fun c => ?_) fun {c r j} given held => ?_
  · simp only [List.forall₂_cons]
    exact ⟨reads_text.unlessNone _, reads_text.unlessNone _, reads_uint32.always _, .nil⟩
  · simp only [List.forall₂_cons] at held
    obtain ⟨project, network, limit, -⟩ := held
    have given : j.fields? ["projectIdOrNum", "networkUrl", "connectionLimit"] = some r := given
    simp [ofJson?, given, reads_text.optional rfl project, reads_text.optional rfl network,
      reads_uint32.withDefault limit]

def ServiceAttachment.growth : Growth := .Record
  [("name", .same), ("producerForwardingRule", .same), ("targetService", .same),
    ("connectionPreference", .same), ("consumerAcceptLists", .Items ConsumerLimit.growth),
    ("natSubnets", .Items .same), ("enableProxyProtocol", .same), ("selfLink", .same)]

theorem ServiceAttachment.reads : Reads toJson growth ofJson? := by
  refine reads_record _ (fun _ => rfl) (by decide) (fun a => ?_) fun {a r j} given held => ?_
  · simp only [List.forall₂_cons]
    exact ⟨reads_text.always _, reads_text.unlessNone _, reads_text.unlessNone _,
      reads_text.unlessNone _, ConsumerLimit.reads.unlessNil _, reads_text.unlessNil _,
      reads_bool.unlessNone _, reads_text.unlessNone _, .nil⟩
  · simp only [List.forall₂_cons] at held
    obtain ⟨name, rule, target, preference, consumers, natSubnets, proxied, selfLink, -⟩ := held
    have given : j.fields? fields = some r := given
    simp [ofJson?, given, reads_text.required name, reads_text.optional rfl rule,
      reads_text.optional rfl target, reads_text.optional rfl preference,
      ConsumerLimit.reads.listOrNil consumers, reads_text.listOrNil natSubnets,
      reads_bool.optional rfl proxied, reads_text.optional rfl selfLink]

end Compute

/-! ## All of them -/

open Compute

/-- What has a form as JSON. -/
inductive Form where
  | payload
  | resource (kind : Kind)
  | endpoint

namespace Form

abbrev Value : Form → Type
  | payload => Payload
  | resource kind => kind.Model
  | endpoint => NetworkEndpoint

def toJson : (form : Form) → form.Value → Json
  | payload => Payload.toJson
  | resource kind => kind.toJson
  | endpoint => NetworkEndpoint.toJson

def ofJson? : (form : Form) → Json → Option form.Value
  | payload => Payload.ofJson?
  | resource kind => kind.ofJson?
  | endpoint => NetworkEndpoint.ofJson?

/-- Reads a text. -/
def ofText? : (form : Form) → String → Option form.Value
  | payload, t => (Payload.decode t).toOption
  | resource kind, t => (Json.ofText? t).bind kind.ofJson?
  | endpoint, t => (Json.ofText? t).bind NetworkEndpoint.ofJson?

/-- What a value may grow to when members that are not known are put into its records. -/
def growth : Form → Growth
  | payload => Payload.growth
  | resource .firewall => Firewall.growth
  | resource .group => EndpointGroup.growth
  | resource .backend => BackendService.growth
  | resource .rule => ForwardingRule.growth
  | resource .attachment => ServiceAttachment.growth
  | endpoint => NetworkEndpoint.growth

theorem reads : (form : Form) → Reads form.toJson form.growth form.ofJson?
  | payload => Payload.reads
  | resource .firewall => Firewall.reads
  | resource .group => EndpointGroup.reads
  | resource .backend => BackendService.reads
  | resource .rule => ForwardingRule.reads
  | resource .attachment => ServiceAttachment.reads
  | endpoint => NetworkEndpoint.reads

theorem ofText?_of_ofJson? {form : Form} {v : form.Value} {t : String} {j : Json}
    (spells : Json.ofText? t = some j) (read : form.ofJson? j = some v) :
    form.ofText? t = some v := by
  cases form with
  | payload =>
    -- `null` is no payload, so it is not what was read
    have reads? : Payload.read? t = some (some v) := by
      rw [Payload.read?, spells]
      cases j with
      | null => cases read
      | _ => exact congrArg (Option.map some) read
    rw [ofText?, Payload.decode, reads?]
    rfl
  | resource kind =>
    rw [ofText?, spells]
    exact read
  | endpoint =>
    rw [ofText?, spells]
    exact read

/-- From the text that is written for a value the value is read, and so it is from any text of
what the value may grow to. -/
theorem reads_back (form : Form) (v : form.Value) :
    form.ofText? (form.toJson v).toText = some v ∧
      ∀ {j : Json} {t : String}, form.growth (form.toJson v) j → Json.ofText? t = some j →
        form.ofText? t = some v := by
  have grown : ∀ {j : Json} {t : String}, form.growth (form.toJson v) j →
      Json.ofText? t = some j → form.ofText? t = some v := fun grown spells =>
    ofText?_of_ofJson? spells (form.reads.read grown)
  exact ⟨grown (form.reads.stays v) (Json.ofText?_toText _ (form.reads.spelled v)), grown⟩

end Form

end ReplicaPorts

namespace ReplicaPorts.Small

open Json Compute

/-- A firewall that lets TCP through. -/
def tcpFirewall : Firewall := { name := "fw", allowed := [{ protocol := some "tcp" }] }

/-- The firewall as JSON, with members that are not known in front, within and at the end. -/
def grownFirewall : Json := .named [
  ("kind", .text "compute#firewall"),
  ("name", .text "fw"),
  ("allowed", .array [.named [
    ("ranges", .array [.null, .named [("name", .number (.literal "1e999"))]]),
    ("IPProtocol", .text "tcp")]]),
  ("IPProtocol", .string none)]

theorem small_reads_back :
    (Form.resource .firewall).ofText? grownFirewall.toText = some tcpFirewall := by
  have clause : AllowClause.growth (AllowClause.toJson { protocol := some "tcp" })
      (.named [("ranges", .array [.null, .named [("name", .number (.literal "1e999"))]]),
        ("IPProtocol", .text "tcp")]) :=
    .named (.further (by decide) (.field List.mem_cons_self rfl .nil))
  have clauses : Growth.Items AllowClause.growth _ _ := .array (.cons clause .nil)
  have grown : Firewall.growth tcpFirewall.toJson grownFirewall :=
    .named (.further (by decide) (.field List.mem_cons_self rfl
      (.field (by simp) clauses (.further (by decide) .nil))))
  have number : (Number.literal "1e999").IsSpelled := by
    unfold Number.IsSpelled
    decide +kernel
  have spelled : grownFirewall.IsSpelled :=
    ⟨trivial, trivial, ⟨⟨⟨trivial, ⟨number, trivial⟩, trivial⟩, trivial, trivial⟩, trivial⟩,
      trivial, trivial⟩
  exact ((Form.resource .firewall).reads_back tcpFirewall).2 grown
    (Json.ofText?_toText grownFirewall spelled)

end ReplicaPorts.Small
