import Mathlib.Data.List.Nodup
import ReplicaPorts.Proofs.Pass.Endpoints
import ReplicaPorts.Proofs.Program.Invariant

/-!
# Aligning endpoints, call by call

Whatever a group holds, aligning it lists it, detaches what is not desired and attaches what is
missing, where there is any, and moves nothing else (`alignment`). What is there and is desired
stays registered in every state on the way, whichever calls fail (`registers_of_mem_states`). If no
two desired mappings share a port and no call fails, no port is in the way of what is attached: all
that is left by then is desired.

The first call that is told to fail ends the work with its error. Whatever it leaves is the content
of a group again, so a later attempt is as good as a first one (`alignEndpoints_minimal`).
-/

set_option autoImplicit false

namespace ReplicaPorts

open Compute

theorem SinglePorted.of_pairwise {ms : List PortMapping}
    (distinct : ms.Pairwise fun a b => a.port ≠ b.port) : SinglePorted ms := by
  have ports : (ms.map (·.port)).Nodup := List.pairwise_map.mpr distinct
  exact fun a memA b memB same => List.inj_on_of_nodup_map ports memA memB same

namespace Pass

variable {s : Simulator} {group : String} {desired actual ms : List PortMapping} {c : Compute.Call}

/-! ## What stays registered -/

/-- A group is there, and some mappings are registered in it. -/
def Registers (s : Simulator) (group : String) (ms : List PortMapping) : Prop :=
  ∃ held, s.store.endpoints.get? group = some held ∧ ∀ m ∈ ms, m ∈ held

theorem mem_attachAll_of_mem {attached : List PortMapping} {m : PortMapping} (mem : m ∈ attached)
    (ms : List PortMapping) : m ∈ (Store.attachAll attached ms).2 := by
  induction ms generalizing attached with
  | nil => exact mem
  | cons first ms ih =>
    unfold Store.attachAll
    split
    · exact ih mem
    · split
      · exact mem
      · exact ih (List.mem_append_left _ mem)

/-- The mappings that a call attaches or detaches. -/
def moved : Compute.Call → List PortMapping
  | .attachEndpoints _ ms => ms
  | .detachEndpoints _ ms => ms
  | _ => []

/-- A call that is made to align a group. -/
inductive AlignmentCall (group : String) (desired actual : List PortMapping) :
    Compute.Call → Prop where
  | list : AlignmentCall group desired actual (.listEndpoints group)
  | detach : AlignmentCall group desired actual
      (.detachEndpoints group (actual.filter (· ∉ desired)))
  | attach : AlignmentCall group desired actual
      (.attachEndpoints group (desired.filter (· ∉ actual)))

theorem AlignmentCall.spares (h : AlignmentCall group desired actual c) {m : PortMapping}
    (there : m ∈ actual) (wanted : m ∈ desired) : m ∉ moved c := by
  cases h with
  | list => exact List.not_mem_nil
  | detach => simp [moved, wanted]
  | attach => simp [moved, there]

/-- What is registered and desired is so after any of the calls, even one that is told to fail. -/
theorem Registers.answer (h : Registers s group (actual.filter (· ∈ desired)))
    (call : AlignmentCall group desired actual c) :
    Registers (s.answer c).2 group (actual.filter (· ∈ desired)) := by
  obtain ⟨held, listed, all⟩ := h
  cases told : s.injected? c with
  | some e =>
    rw [Simulator.answer_of_injected told]
    exact ⟨held, listed, all⟩
  | none =>
    rw [Simulator.answer_of_not_injected told]
    cases call with
    | list => exact ⟨held, listed, all⟩
    | detach =>
      simp only [Store.perform, listed]
      refine ⟨_, Keyed.get?_insert_self .., fun m mem => List.mem_filter.mpr ⟨all m mem, ?_⟩⟩
      obtain ⟨-, wanted⟩ := List.mem_filter.mp mem
      simpa using Or.inr (of_decide_eq_true wanted)
    | attach =>
      simp only [Store.perform, listed]
      exact ⟨_, Keyed.get?_insert_self .., fun m mem => mem_attachAll_of_mem (all m mem) _⟩

/-! ## The calls, one after the other -/

theorem op_of_mem_trace_detachSurplus {ev : Event Compute.calls}
    (mem : ev ∈ (detachSurplus group desired actual).trace Simulator.answer s) :
    ev.op = .detachEndpoints group (actual.filter (· ∉ desired)) := by
  unfold detachSurplus at mem
  split at mem
  · exact absurd mem List.not_mem_nil
  · exact congrArg Event.op (List.mem_singleton.mp mem)

theorem op_of_mem_trace_attachLacking {ev : Event Compute.calls}
    (mem : ev ∈ (attachLacking group desired actual).trace Simulator.answer s) :
    ev.op = .attachEndpoints group (desired.filter (· ∉ actual)) := by
  unfold attachLacking at mem
  split at mem
  · exact absurd mem List.not_mem_nil
  · exact congrArg Event.op (List.mem_singleton.mp mem)

/-- What follows when a group was listed. -/
def alignFrom (group : String) (desired actual : List PortMapping) :
    Program Compute.calls (Except Compute.Error Unit) :=
  (detachSurplus group desired actual).bind fun
    | .error e => .done (.error e)
    | .ok () => attachLacking group desired actual

/-- A simulator that listed a call more. -/
def noted (s : Simulator) (c : Compute.Call) : Simulator := { s with calls := s.calls ++ [c] }

/-- A group that is listed is aligned from what it holds. -/
theorem alignEndpoints_listed (desired : List PortMapping)
    (told : s.injected? (.listEndpoints group) = none)
    (listed : s.store.endpoints.get? group = some actual) :
    (alignEndpoints group desired).run Simulator.answer s =
        (alignFrom group desired actual).run Simulator.answer (noted s (.listEndpoints group)) ∧
      (alignEndpoints group desired).trace Simulator.answer s =
        ⟨.listEndpoints group, .ok actual⟩ ::
          (alignFrom group desired actual).trace Simulator.answer
            (noted s (.listEndpoints group)) := by
  have answered : s.answer (.listEndpoints group) =
      (.ok actual, noted s (.listEndpoints group)) := by
    rw [Simulator.answer_of_not_injected told]
    simp only [Store.perform, listed, noted]
  rw [alignEndpoints_eq]
  simp only [request, Program.call, Program.ask_bind, Program.done_bind, Program.run_ask,
    Program.trace_ask, answered]
  exact ⟨rfl, rfl⟩

/-- Nothing else is called. -/
theorem alignmentCall_of_mem_trace (listed : s.store.endpoints.get? group = some actual)
    {ev : Event Compute.calls}
    (mem : ev ∈ (alignEndpoints group desired).trace Simulator.answer s) :
    AlignmentCall group desired actual ev.op := by
  cases told : s.injected? (.listEndpoints group) with
  | some e =>
    rw [alignEndpoints_eq] at mem
    simp only [request, Program.call, Program.ask_bind, Program.done_bind, Program.trace_ask,
      Simulator.answer_of_injected told, Program.trace_done, List.mem_singleton] at mem
    subst mem
    exact .list
  | none =>
    rw [(alignEndpoints_listed desired told listed).2] at mem
    rcases List.mem_cons.mp mem with rfl | mem
    · exact .list
    rw [alignFrom, Program.trace_bind] at mem
    rcases List.mem_append.mp mem with mem | mem
    · rw [op_of_mem_trace_detachSurplus mem]
      exact .detach
    · split at mem
      · exact absurd mem List.not_mem_nil
      · rw [op_of_mem_trace_attachLacking mem]
        exact .attach

/-- What is there and is desired is registered in every state on the way. -/
theorem registers_of_mem_states (desired : List PortMapping)
    (listed : s.store.endpoints.get? group = some actual) :
    ∀ t ∈ (alignEndpoints group desired).states Simulator.answer s,
      Registers t group (actual.filter (· ∈ desired)) :=
  Program.forall_mem_states _
    (fun _ mem _ h => h.answer (alignmentCall_of_mem_trace listed mem))
    ⟨actual, listed, fun _ mem => List.mem_of_mem_filter mem⟩

/-! ## Where no call fails -/

/-- The calls that align a group, with their answers, if none fails: the group is listed, what is
not desired is detached, and what is missing is attached, each as it comes. -/
def alignment (group : String) (desired actual : List PortMapping) : List (Event Compute.calls) :=
  ⟨.listEndpoints group, .ok actual⟩ ::
    ((if actual.filter (· ∉ desired) = [] then []
      else [⟨.detachEndpoints group (actual.filter (· ∉ desired)), .ok ()⟩]) ++
    if desired.filter (· ∉ actual) = [] then []
    else [⟨.attachEndpoints group (desired.filter (· ∉ actual)), .ok ()⟩])

/-- A group is aligned: with these calls and no others, none of which is refused, and it holds what
is desired in the end. -/
structure Aligns (s : Simulator) (group : String) (desired actual : List PortMapping) : Prop where
  events : (alignEndpoints group desired).trace Simulator.answer s =
    alignment group desired actual
  succeeds : ((alignEndpoints group desired).run Simulator.answer s).1 = .ok ()
  holds : ∃ held, ((alignEndpoints group desired).run Simulator.answer s).2.store.endpoints.get?
    group = some held ∧ ∀ m, m ∈ held ↔ m ∈ desired

theorem detachSurplus_trace (desired : List PortMapping) (calm : s.Calm)
    (listed : s.store.endpoints.get? group = some actual) :
    (detachSurplus group desired actual).trace Simulator.answer s =
      if actual.filter (· ∉ desired) = [] then []
      else [⟨.detachEndpoints group (actual.filter (· ∉ desired)), .ok ()⟩] := by
  unfold detachSurplus PortMapping.surplus PortMapping.without
  split
  · rfl
  · simp only [request, Program.call, Program.trace_ask, Program.trace_done, calm.answer,
      Store.perform, listed]

theorem attachLacking_trace {kept : List PortMapping} (calm : s.Calm)
    (listed : s.store.endpoints.get? group = some kept)
    (single : SinglePorted (kept ++ desired.filter (· ∉ actual))) :
    (attachLacking group desired actual).trace Simulator.answer s =
      if desired.filter (· ∉ actual) = [] then []
      else [⟨.attachEndpoints group (desired.filter (· ∉ actual)), .ok ()⟩] := by
  unfold attachLacking PortMapping.lacking PortMapping.without
  split
  · rfl
  · simp only [request, Program.call, Program.trace_ask, Program.trace_done, calm.answer,
      Store.perform, listed, Store.attachAll_ok single]

/-- A group is aligned if no call fails and no two desired mappings share a port: what is left when
the missing ones are attached is desired, so none of their ports is taken. -/
theorem aligns_of_calm (calm : s.Calm) (listed : s.store.endpoints.get? group = some actual)
    (single : SinglePorted desired) : Aligns s group desired actual := by
  obtain ⟨r, l, calls, ran, holds, succeeds⟩ := alignEndpoints_run desired calm listed
  obtain rfl := succeeds single
  refine ⟨?_, by rw [ran], l, by rw [ran]; exact Keyed.get?_insert_self .., holds rfl⟩
  have told : s.injected? (.listEndpoints group) = none := by
    rw [Simulator.injected?, show s.failures = ∅ from calm, Keyed.get?_empty]
    rfl
  have calm' : (noted s (.listEndpoints group)).Calm := calm
  have listed' : (noted s (.listEndpoints group)).store.endpoints.get? group = some actual := listed
  obtain ⟨calls, detached⟩ := detachSurplus_run desired calm' listed'
  have free : SinglePorted (actual.filter (· ∉ PortMapping.surplus desired actual) ++
      desired.filter (· ∉ actual)) := by
    refine single.of_subset fun m mem => ?_
    simp only [List.mem_append, List.mem_filter, decide_eq_true_eq, PortMapping.surplus,
      PortMapping.mem_without] at mem
    grind
  rw [(alignEndpoints_listed desired told listed).2, alignment, alignFrom, Program.trace_bind,
    detachSurplus_trace desired calm' listed', detached]
  exact congrArg _ (congrArg _ (attachLacking_trace calm (Keyed.get?_insert_self ..) free))

/-! ## Where a call is told to fail -/

/-- What is detached, or what is attached then, is told to fail with an error. -/
inductive Stopped (s : Simulator) (group : String) (desired actual : List PortMapping)
    (e : Compute.Error) : Prop where
  | detaching (some_ : actual.filter (· ∉ desired) ≠ [])
      (told : s.injected? (.detachEndpoints group (actual.filter (· ∉ desired))) = some e)
  | attaching
      (free : actual.filter (· ∉ desired) = [] ∨
        s.injected? (.detachEndpoints group (actual.filter (· ∉ desired))) = none)
      (some_ : desired.filter (· ∉ actual) ≠ [])
      (told : s.injected? (.attachEndpoints group (desired.filter (· ∉ actual))) = some e)

theorem detachSurplus_free (listed : s.store.endpoints.get? group = some actual)
    (free : actual.filter (· ∉ desired) = [] ∨
      s.injected? (.detachEndpoints group (actual.filter (· ∉ desired))) = none) :
    ∃ t, (detachSurplus group desired actual).run Simulator.answer s = (.ok (), t) ∧
      t.failures = s.failures := by
  unfold detachSurplus PortMapping.surplus PortMapping.without
  split
  · exact ⟨s, rfl, rfl⟩
  · next some_ =>
    refine ⟨(s.answer (.detachEndpoints group (actual.filter (· ∉ desired)))).2, ?_,
      Simulator.answer_failures ..⟩
    simp only [request, Program.call, Program.run_ask, Program.run_done,
      Simulator.answer_of_not_injected (free.resolve_left some_), Store.perform, listed]

/-- The error that a call is told to fail with is the error of the work. -/
theorem run_of_stopped {e : Compute.Error} (unfailing : s.injected? (.listEndpoints group) = none)
    (listed : s.store.endpoints.get? group = some actual)
    (stopped : Stopped s group desired actual e) :
    ((alignEndpoints group desired).run Simulator.answer s).1 = .error e := by
  rw [(alignEndpoints_listed desired unfailing listed).1, alignFrom, Program.run_bind]
  cases stopped with
  | detaching some_ told =>
    have refused : ((detachSurplus group desired actual).run Simulator.answer
        (noted s (.listEndpoints group))).1 = .error e := by
      unfold detachSurplus PortMapping.surplus PortMapping.without
      rw [if_neg some_]
      exact congrArg Prod.fst
        (Simulator.answer_of_injected (s := noted s (.listEndpoints group)) told)
    rw [refused]
    rfl
  | attaching free some_ told =>
    obtain ⟨t, detached, failures⟩ :=
      detachSurplus_free (s := noted s (.listEndpoints group)) listed free
    have told : t.injected? (.attachEndpoints group (desired.filter (· ∉ actual))) = some e := by
      rw [← told, Simulator.injected?, failures]
      rfl
    rw [detached]
    unfold attachLacking PortMapping.lacking PortMapping.without
    show ((if desired.filter (· ∉ actual) = [] then Program.done (.ok ()) else
      request (.attachEndpoints group (desired.filter (· ∉ actual)))).run Simulator.answer t).1 = _
    rw [if_neg some_]
    exact congrArg Prod.fst (Simulator.answer_of_injected told)

/-- A group that holds anything, and desired mappings with a port each.

If no call fails, the group is aligned: it is listed, what is not desired is detached, and what is
missing is attached, where there is anything of the sort; none of it is refused, and the group holds
what is desired in the end. Whichever calls fail, what is there and desired stays registered in
every state on the way, and no call moves it. If the detachment or the attachment is told to fail,
the work ends with its error. Whatever the first attempt leaves, a second one that no call fails
aligns the group. -/
theorem alignEndpoints_minimal (distinct : desired.Pairwise fun a b => a.port ≠ b.port)
    (listed : s.store.endpoints.get? group = some actual) :
    (s.Calm → Aligns s group desired actual) ∧
      ((∀ t ∈ (alignEndpoints group desired).states Simulator.answer s,
          Registers t group (actual.filter (· ∈ desired))) ∧
        ∀ ev ∈ (alignEndpoints group desired).trace Simulator.answer s,
          ∀ m ∈ actual, m ∈ desired → m ∉ moved ev.op) ∧
      (s.injected? (.listEndpoints group) = none → ∀ e, Stopped s group desired actual e →
        ((alignEndpoints group desired).run Simulator.answer s).1 = .error e) ∧
      ∃ left, ((alignEndpoints group desired).run Simulator.answer s).2.store.endpoints.get? group =
          some left ∧
        Aligns ((alignEndpoints group desired).run Simulator.answer s).2.heal group desired
          left := by
  have single := SinglePorted.of_pairwise distinct
  have registered := registers_of_mem_states desired listed
  refine ⟨fun calm => aligns_of_calm calm listed single,
    ⟨registered, fun ev mem m there wanted => ?_⟩,
    fun unfailing e stopped => run_of_stopped unfailing listed stopped, ?_⟩
  · exact (alignmentCall_of_mem_trace listed mem).spares there wanted
  · obtain ⟨left, listed, -⟩ := registered _ (Program.run_mem_states _ s)
    exact ⟨left, listed, aligns_of_calm rfl listed single⟩

end Pass

end ReplicaPorts

namespace ReplicaPorts.Small

open Compute Pass

/-- What a group holds: three endpoints, one of them twice. -/
def registered : List PortMapping := [⟨1, "a", 80⟩, ⟨2, "b", 80⟩, ⟨3, "c", 80⟩, ⟨2, "b", 80⟩]

/-- The first two machines change places. -/
def swapped : List PortMapping := [⟨1, "b", 80⟩, ⟨2, "a", 80⟩, ⟨3, "c", 80⟩]

/-- A simulator with the group. -/
def holding : Simulator where
  place := ⟨"p", "r"⟩
  store := Store.putGroup {} "g" registered

/-- The machines change places, although each takes a port that the other had. If attaching fails
the first time, the work ends with that error, and a second attempt attaches what is missing. -/
theorem small_alignEndpoints_minimal :
    Aligns holding "g" swapped registered ∧
      ((alignEndpoints "g" swapped).run Simulator.answer
          (holding.inject "attach_endpoints" 503)).1 =
        .error (.api 503 "injected failure in attach_endpoints for g") ∧
      Aligns ((alignEndpoints "g" swapped).run Simulator.answer
        (holding.inject "attach_endpoints" 503)).2.heal "g" swapped [⟨3, "c", 80⟩] := by
  have distinct : swapped.Pairwise fun a b => a.port ≠ b.port := by decide
  have listed : holding.store.endpoints.get? "g" = some registered := by decide +kernel
  obtain ⟨calm, -⟩ := alignEndpoints_minimal distinct listed
  obtain ⟨-, -, stops, left, remains, again⟩ :=
    alignEndpoints_minimal (s := holding.inject "attach_endpoints" 503) distinct listed
  have rest : left = [⟨3, "c", 80⟩] := by
    have found : ((alignEndpoints "g" swapped).run Simulator.answer
        (holding.inject "attach_endpoints" 503)).2.store.endpoints.get? "g" =
          some [⟨3, "c", 80⟩] := by decide +kernel
    exact Option.some.inj (remains.symm.trans found)
  refine ⟨calm rfl, stops (by decide +kernel) _ ?_, rest ▸ again⟩
  exact .attaching (.inr (by decide +kernel)) (by decide) (by decide +kernel)

end ReplicaPorts.Small
