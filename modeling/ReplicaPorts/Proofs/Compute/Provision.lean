import ReplicaPorts.Compute.Provision
import ReplicaPorts.Proofs.Compute.Firewall
import ReplicaPorts.Proofs.Compute.Reachable

/-!
# Providing one resource

What `provide` does to a simulator that fails no call (`Calm`): a resource that is missing is
created (`provide_missing`), one that is stale is repaired (`provide_stale`), and one that is in
order is only looked at (`provide_met`). So if what the design refers to is there, the resource exists
afterwards and is not stale (`Store.Meets`), and nothing else is touched (`provide_run`). That is
only needed where the resource is missing; there nothing is created without it
(`provide_dangling`).

`firewall_upkeep` says what that comes to for a firewall, and that to provide it again is to look at
it only.
-/

set_option autoImplicit false

namespace ReplicaPorts.Compute

/-- A resource that was just created is not stale. -/
theorem Design.isStale_modelOf (place : Location) (name : String) (design : Design) :
    design.isStale (Store.modelOf place name design) = false := by
  cases design with
  | firewall ports =>
    exact Firewall.isStale_allowing (f := Store.modelOf place name (.firewall ports)) rfl
  | _ => rfl

/-- No call is told to fail. -/
def Simulator.Calm (s : Simulator) : Prop := s.failures = ∅

variable {name : String} {design : Design}

theorem Simulator.Calm.answer {s : Simulator} (calm : s.Calm) (c : Call) :
    s.answer c = ((s.store.perform s.place c).1,
      { s with store := (s.store.perform s.place c).2, calls := s.calls ++ [c] }) := by
  refine answer_of_not_injected ?_
  rw [injected?, show s.failures = ∅ from calm, Keyed.get?_empty]
  rfl

namespace Store

/-- A resource of a design exists and is not stale. -/
def Meets (s : Store) (name : String) (design : Design) : Prop :=
  ∃ m, s.find? design.kind name = some m ∧ design.isStale m = false

/-- A store differs from another at most in the resource of a kind and a name. -/
structure Beside (kind : Kind) (name : String) (s t : Store) : Prop where
  found : ∀ kind' name', kind' ≠ kind ∨ name' ≠ name → t.find? kind' name' = s.find? kind' name'
  endpoints : ∀ group, kind ≠ .group ∨ group ≠ name →
    t.endpoints.get? group = s.endpoints.get? group

theorem Beside.refl (kind : Kind) (name : String) (s : Store) : Beside kind name s s :=
  ⟨fun _ _ _ => rfl, fun _ _ => rfl⟩

theorem Beside.put (place : Location) (name : String) (design : Design) (s : Store) :
    Beside design.kind name s (s.put place name design) where
  found := fun _ _ other => find?_put_ne other
  endpoints := fun _ other => endpoints_put (other.imp_left fun ne same => ne (by rw [same]; rfl))

theorem Beside.meets {s t : Store} {kind : Kind} {name' : String} (h : Beside kind name s t)
    (met : s.Meets name' design) (other : design.kind ≠ kind) : t.Meets name' design := by
  obtain ⟨m, found, fresh⟩ := met
  exact ⟨m, (h.found _ _ (.inl other)).trans found, fresh⟩

end Store

variable {s : Simulator}

/-! ## Bringing about -/

/-- A missing resource is created, if what it refers to is there. -/
theorem provide_missing (calm : s.Calm) (missing : s.store.find? design.kind name = none)
    (founded : s.store.dangling? design = none) :
    (provide name design).run Simulator.answer s = (.ok .created, { s with
      store := s.store.put s.place name design
      calls := s.calls ++ [.get design.kind name, .create name design] }) := by
  have calm' : ∀ calls, Simulator.Calm { s with calls } := fun _ => calm
  have absent : (s.store.resources design.kind).get? name = none := missing
  simp only [provide, request, Program.call, Program.bind_eq, Program.ask_bind, Program.done_bind,
    Program.run_ask, calm.answer, Store.perform, absent, Store.absent, Error.isNotFound, if_true,
    (calm' _).answer, Store.create_eq_put founded missing, List.append_assoc]
  rfl

/-- A stale firewall gets other allow clauses, and what else it says stays as it is. -/
theorem provide_stale {f : Firewall} {ports : List Int32} (calm : s.Calm)
    (found : s.store.find? .firewall name = some f) (stale : f.isStale ports = true) :
    (provide name (.firewall ports)).run Simulator.answer s = (.ok .updated, { s with
      store := s.store.withResources .firewall
        ((s.store.resources .firewall).insert name { f with allowed := allowing ports })
      calls := s.calls ++ [.get .firewall name, .updateFirewall name ports] }) := by
  have calm' : ∀ calls, Simulator.Calm { s with calls } := fun _ => calm
  have present : (s.store.resources (Design.firewall ports).kind).get? name = some f := found
  have present' : (s.store.resources .firewall).get? name = some f := found
  have stale' : (Design.firewall ports).isStale f = true := stale
  simp only [provide, request, Program.call, Program.bind_eq, Program.ask_bind, Program.done_bind,
    Program.run_ask, calm.answer, Store.perform, present, stale', if_true, Design.repair, present',
    (calm' _).answer, List.append_assoc]
  rfl

/-- A resource that is in order is only looked at. -/
theorem provide_met (calm : s.Calm) (met : s.store.Meets name design) :
    (provide name design).run Simulator.answer s =
      (.ok .unchanged, { s with calls := s.calls ++ [.get design.kind name] }) ∧
    ((provide name design).trace Simulator.answer s).map (·.op) = [.get design.kind name] := by
  obtain ⟨m, found, fresh⟩ := met
  have present : (s.store.resources design.kind).get? name = some m := found
  simp only [provide, request, Program.call, Program.bind_eq, Program.ask_bind, Program.done_bind,
    Program.run_ask, Program.trace_ask, calm.answer, Store.perform, present, fresh]
  exact ⟨rfl, rfl⟩

/-- A resource is brought about, whatever there was under its name, and nothing else is touched. -/
theorem provide_run (name : String) (calm : s.Calm) (paired : s.store.Paired)
    (founded : s.store.find? design.kind name = none → s.store.dangling? design = none) :
    ∃ outcome store calls,
      (provide name design).run Simulator.answer s = (.ok outcome, { s with store, calls }) ∧
      store.Meets name design ∧ Store.Beside design.kind name s.store store ∧ store.Paired := by
  cases found : s.store.find? design.kind name with
  | none =>
    exact ⟨_, _, _, provide_missing calm found (founded found),
      ⟨_, Store.find?_put_self _, design.isStale_modelOf _ _⟩, .put _ _ _ _, paired.put design⟩
  | some m =>
    cases stale : design.isStale m with
    | false =>
      have met : s.store.Meets name design := ⟨m, found, stale⟩
      exact ⟨_, _, _, (provide_met calm met).1, met, .refl _ _ _, paired⟩
    | true =>
      cases design with
      | firewall ports =>
        have mended := Firewall.isStale_allowing (f := { (m : Firewall) with
          allowed := allowing ports }) rfl
        exact ⟨_, _, _, provide_stale calm found stale,
          ⟨_, Store.find?_withResources_insert _, mended⟩,
          ⟨fun _ _ other => Store.find?_withResources_insert_ne _ other, fun _ _ => rfl⟩,
          paired.withResources (by decide) _⟩
      | _ => cases stale

/-- A missing resource is not created before what its design refers to. -/
theorem provide_dangling {e : Error} (calm : s.Calm)
    (missing : s.store.find? design.kind name = none)
    (dangling : s.store.dangling? design = some e) :
    ∃ s', (provide name design).run Simulator.answer s = (.error e, s') := by
  have calm' : ∀ calls, Simulator.Calm { s with calls } := fun _ => calm
  have absent : (s.store.resources design.kind).get? name = none := missing
  have refused : s.store.create s.place name design = (.error e, s.store) := by
    simp only [Store.create, dangling]
  have other : e.isAlreadyExists = false := by
    cases design with
    | firewall ports => cases dangling
    | group => cases dangling
    | _ =>
      simp only [Store.dangling?] at dangling
      split at dangling
      · cases dangling
      · obtain rfl := Option.some.inj dangling
        rfl
  simp only [provide, request, Program.call, Program.bind_eq, Program.ask_bind, Program.done_bind,
    Program.run_ask, calm.answer, Store.perform, absent, Store.absent, Error.isNotFound, if_true,
    (calm' _).answer, refused, other]
  exact ⟨_, rfl⟩

/-! ## Firewalls -/

/-- A firewall is up to date exactly if it lets through what it should. To provide one is to look at
it, and to create it if it is missing or to give it other ports if it is stale, by one call in both
cases. What is there then is up to date and says all else as before, and to provide the same ports
again, in any order, is to look at it and nothing else. -/
theorem firewall_upkeep (calm : s.Calm) (name : String) (ports : List Int32) :
    (∀ (f : Firewall) ports', f.isStale ports' = false ↔ f.Admits ports') ∧
    ∃ outcome store writes f,
      (provide name (.firewall ports)).run Simulator.answer s =
        (.ok outcome, { s with store, calls := s.calls ++ .get .firewall name :: writes }) ∧
      store.find? .firewall name = some f ∧ f.isStale ports = false ∧
      (s.store.find? .firewall name = none →
        outcome = .created ∧ writes = [.create name (.firewall ports)]) ∧
      (∀ found, s.store.find? .firewall name = some found →
        (found.isStale ports = false → outcome = .unchanged ∧ writes = [] ∧ f = found) ∧
        (found.isStale ports = true → outcome = .updated ∧
          writes = [.updateFirewall name ports] ∧ f = { found with allowed := f.allowed })) ∧
      ∀ (ports' : List Int32) calls, ports'.Perm ports →
        (provide name (.firewall ports')).run Simulator.answer { s with store, calls } =
          (.ok .unchanged, { s with store, calls := calls ++ [.get .firewall name] }) := by
  refine ⟨fun f ports' => Firewall.isStale_eq_false_iff, ?_⟩
  have again {store : Store} {f : Firewall} (there : store.find? .firewall name = some f)
      (fresh : f.isStale ports = false) (ports' : List Int32) (calls : List Call)
      (same : ports'.Perm ports) :
      (provide name (.firewall ports')).run Simulator.answer { s with store, calls } =
        (.ok .unchanged, { s with store, calls := calls ++ [.get .firewall name] }) := by
    have admits := (Firewall.isStale_eq_false_iff.mp fresh).perm same.symm
    have met : store.Meets name (.firewall ports') :=
      ⟨f, there, Firewall.isStale_eq_false_iff.mpr admits⟩
    have calm' : Simulator.Calm { s with store, calls } := calm
    exact (provide_met calm' met).1
  cases found : s.store.find? .firewall name with
  | none =>
    have there := @Store.find?_put_self s.store name (.firewall ports) s.place
    have fresh := (Design.firewall ports).isStale_modelOf s.place name
    exact ⟨_, _, _, _, provide_missing calm found rfl, there, fresh, fun _ => ⟨rfl, rfl⟩, nofun,
      again there fresh⟩
  | some f =>
    cases stale : f.isStale ports with
    | false =>
      have met : s.store.Meets name (.firewall ports) := ⟨f, found, stale⟩
      refine ⟨_, s.store, [], f, (provide_met calm met).1, found, stale, nofun, ?_,
        again found stale⟩
      rintro _ ⟨⟩
      rw [stale]
      exact ⟨fun _ => ⟨rfl, rfl, rfl⟩, nofun⟩
    | true =>
      let mended : Firewall := { f with allowed := allowing ports }
      have there := @Store.find?_withResources_insert s.store .firewall name mended
      have fresh : mended.isStale ports = false := Firewall.isStale_allowing rfl
      refine ⟨_, _, _, _, provide_stale calm found stale, there, fresh, nofun, ?_,
        again there fresh⟩
      rintro _ ⟨⟩
      rw [stale]
      exact ⟨nofun, fun _ => ⟨rfl, rfl, rfl⟩⟩

end ReplicaPorts.Compute

namespace ReplicaPorts.Small

open Compute

/-- A firewall that somebody else made, with a port too many. -/
def wideFirewall : Firewall where
  name := "fw"
  network := some "n"
  allowed := [{ protocol := some "TCP", ports := ["90", "80"] }]

/-- A simulator that holds this firewall. -/
def wideSimulator : Simulator where
  place := ⟨"p", "r"⟩
  store := Store.putFirewall {} wideFirewall

/-- The firewall gets its ports by one call and keeps its network, and then it is only looked at. -/
theorem small_firewall_upkeep : ∃ store,
    (provide "fw" (.firewall [443, 80])).run Simulator.answer wideSimulator =
      (.ok .updated, { wideSimulator with
        store, calls := [.get .firewall "fw", .updateFirewall "fw" [443, 80]] }) ∧
    (∃ f : Firewall, store.find? .firewall "fw" = some f ∧ f.Admits [443, 80] ∧
      f.network = some "n") ∧
    (provide "fw" (.firewall [80, 443])).run Simulator.answer { wideSimulator with store } =
      (.ok .unchanged, { wideSimulator with store, calls := [.get .firewall "fw"] }) := by
  obtain ⟨admits, outcome, store, writes, f, ran, there, fresh, -, present, again⟩ :=
    firewall_upkeep (s := wideSimulator) rfl "fw" [443, 80]
  have found : wideSimulator.store.find? .firewall "fw" = some wideFirewall := by decide +kernel
  have stale : wideFirewall.isStale [443, 80] = true := by
    rw [← Bool.not_eq_false, admits]
    rintro ⟨clause, protocol, sole, -, -, texts⟩
    cases sole
    have mem := texts.subset (show "90" ∈ ["90", "80"] from List.mem_cons_self)
    exact absurd mem (by decide +kernel)
  obtain ⟨rfl, rfl, kept⟩ := (present _ found).2 stale
  refine ⟨store, ran, ⟨f, there, (admits _ _).mp fresh, ?_⟩, again _ [] (.swap _ _ [])⟩
  rw [kept]
  rfl

end ReplicaPorts.Small
