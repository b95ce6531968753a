import ReplicaPorts.Proofs.Compute.Simulator
import ReplicaPorts.Proofs.Compute.Store
import ReplicaPorts.Proofs.Keyed

/-!
# Calls that fail

A call to a Compute API in memory that fails is listed and leaves everything stored as it was, but
for one: attaching endpoints goes through the mappings one after the other, and when it comes to one
whose port is taken by another, those before it stay attached. `StopsAfter` says where that is, and
`joined` what the group holds then.

`failed_keeps_iff` is the whole of it: what is stored is the same after a call that failed just if
the call is no such attachment, or none of the mappings before the one that stopped it was new.
-/

set_option autoImplicit false

namespace ReplicaPorts.Compute

variable {held held' ms before : List PortMapping} {m : PortMapping} {e : Error}

/-! ## Attaching up to a port that is taken -/

/-- The port of a mapping is taken by another one. -/
def Collides (held : List PortMapping) (m : PortMapping) : Prop :=
  m ∉ held ∧ ∃ h ∈ held, h.port = m.port

instance (held : List PortMapping) (m : PortMapping) : Decidable (Collides held m) :=
  inferInstanceAs (Decidable (_ ∧ _))

/-- Attaching mappings to those that are held gets past these and stops at the next one, the first
whose port is taken. -/
inductive StopsAfter : List PortMapping → List PortMapping → List PortMapping → Prop where
  | here {held : List PortMapping} {m : PortMapping} (taken : Collides held m)
      (ms : List PortMapping) : StopsAfter held (m :: ms) []
  | past {held ms before : List PortMapping} {m : PortMapping} (free : ¬ Collides held m)
      (rest : StopsAfter (held ++ [m]) ms before) : StopsAfter held (m :: ms) (m :: before)

/-- Mappings with further ones behind them, each of these once and none that is there. -/
def joined (held : List PortMapping) : List PortMapping → List PortMapping
  | [] => held
  | m :: ms => if m ∈ held then joined held ms else joined (held ++ [m]) ms

theorem mem_joined {x : PortMapping} : x ∈ joined held ms ↔ x ∈ held ∨ x ∈ ms := by
  induction ms generalizing held with
  | nil => simp [joined]
  | cons m ms ih =>
    unfold joined
    split
    · rw [ih]
      grind
    · rw [ih]
      grind

theorem joined_eq_self_iff : joined held ms = held ↔ ∀ m ∈ ms, m ∈ held := by
  constructor
  · intro same m mem
    rw [← same]
    exact mem_joined.mpr (.inr mem)
  · intro known
    induction ms with
    | nil => rfl
    | cons m ms ih =>
      obtain ⟨here, rest⟩ := List.forall_mem_cons.mp known
      rw [joined, if_pos here]
      exact ih rest

/-- Which mappings are held matters, and not in what order and how often. -/
theorem collides_congr (same : ∀ x, x ∈ held' ↔ x ∈ held) :
    Collides held' m ↔ Collides held m := by
  simp only [Collides, same]

theorem mem_append_of_mem (same : ∀ x, x ∈ held' ↔ x ∈ held) (there : m ∈ held') :
    ∀ x, x ∈ held' ↔ x ∈ held ++ [m] := by
  intro x
  rw [same x, List.mem_append, List.mem_singleton]
  exact ⟨.inl, fun mem => mem.elim id fun here => here ▸ (same m).mp there⟩

/-- A mapping that is not there is refused just if its port is taken. -/
theorem collides_iff (new : m ∉ held) :
    Collides held m ↔ held.any (·.port == m.port) = true := by
  simp only [Collides, new, not_false_eq_true, true_and, List.any_eq_true, beq_iff_eq]

/-- Where attaching stops, what is before that is attached. -/
theorem attachAll_of_stopsAfter (stops : StopsAfter held ms before)
    (same : ∀ x, x ∈ held' ↔ x ∈ held) :
    ∃ e, Store.attachAll held' ms = (.error e, joined held' before) := by
  induction stops generalizing held' with
  | here taken ms =>
    have taken := (collides_congr same).mpr taken
    rw [Store.attachAll, if_neg taken.1, if_pos ((collides_iff taken.1).mp taken)]
    exact ⟨_, rfl⟩
  | @past held ms before m free rest ih =>
    rw [Store.attachAll, joined]
    by_cases there : m ∈ held'
    · rw [if_pos there, if_pos there]
      exact ih (mem_append_of_mem same there)
    · have unused : ¬ held'.any (·.port == m.port) = true := fun taken =>
        free ((collides_congr same).mp ((collides_iff there).mpr taken))
      rw [if_neg there, if_neg there, if_neg unused]
      exact ih fun x => by rw [List.mem_append, List.mem_append, same x]

/-- Attaching fails only by stopping somewhere. -/
theorem exists_stopsAfter (same : ∀ x, x ∈ held' ↔ x ∈ held)
    (failed : (Store.attachAll held' ms).1 = .error e) : ∃ before, StopsAfter held ms before := by
  induction ms generalizing held held' with
  | nil => cases failed
  | cons m ms ih =>
    by_cases taken : Collides held m
    · exact ⟨[], .here taken ms⟩
    rw [Store.attachAll] at failed
    split at failed
    · next there =>
      obtain ⟨before, stops⟩ := ih (mem_append_of_mem same there) failed
      exact ⟨m :: before, .past taken stops⟩
    · next new =>
      have unused : ¬ held'.any (·.port == m.port) = true := fun used =>
        taken ((collides_congr same).mp ((collides_iff new).mpr used))
      rw [if_neg unused] at failed
      have all : ∀ x, x ∈ held' ++ [m] ↔ x ∈ held ++ [m] := fun x => by
        rw [List.mem_append, List.mem_append, same x]
      obtain ⟨before, stops⟩ := ih all failed
      exact ⟨m :: before, .past taken stops⟩

/-! ## Calls -/

/-- What is stored is the same after a call that fails, unless it attaches endpoints. -/
theorem Store.perform_failed {s : Store} {place : Location} {c : Call}
    (failed : (s.perform place c).1 = .error e) :
    (s.perform place c).2 = s ∨ ∃ group ms held, c = .attachEndpoints group ms ∧
      s.endpoints.get? group = some held ∧ (attachAll held ms).1 = .error e := by
  cases c with
  | get | listEndpoints => exact .inl rfl
  | create name design =>
    obtain ⟨_, refused⟩ | ⟨-, -, created⟩ := s.create_cases place name design
    · exact .inl (congrArg Prod.snd refused)
    · simp only [perform, created] at failed
      cases failed
  | updateFirewall name ports =>
    simp only [perform] at failed ⊢
    split at failed
    · cases failed
    · exact .inl rfl
  | delete kind name =>
    obtain ⟨_, refused⟩ | ⟨-, -, deleted⟩ := s.delete_cases place kind name
    · exact .inl (congrArg Prod.snd refused)
    · simp only [perform, deleted] at failed
      cases failed
  | attachEndpoints group ms =>
    simp only [perform] at failed ⊢
    split at failed
    · next held there => exact .inr ⟨group, ms, held, rfl, there, failed⟩
    · exact .inl rfl
  | detachEndpoints group ms =>
    simp only [perform] at failed ⊢
    split at failed
    · cases failed
    · exact .inl rfl

/-- A call attaches mappings to a group, is not told to fail, and stops after some of them. -/
structure Breaks (s : Simulator) (c : Call) (group : String) (held before : List PortMapping) :
    Prop where
  call : ∃ ms, c = .attachEndpoints group ms ∧ StopsAfter held ms before
  untold : s.injected? c = none
  there : s.store.endpoints.get? group = some held

variable {s : Simulator} {c : Call} {group : String}

/-- What an attachment that stops leaves. -/
theorem Breaks.store (h : Breaks s c group held before) :
    (s.answer c).2.store =
      { s.store with endpoints := s.store.endpoints.insert group (joined held before) } := by
  obtain ⟨⟨ms, rfl, stops⟩, untold, there⟩ := h
  obtain ⟨e, stopped⟩ := attachAll_of_stopsAfter stops fun _ => Iff.rfl
  rw [Simulator.answer_of_not_injected untold]
  simp only [Store.perform, there, stopped]

/-- A call that fails leaves what is stored as it was, or is an attachment that stops. -/
theorem kept_or_breaks (failed : (s.answer c).1 = .error e) :
    (s.answer c).2.store = s.store ∨ ∃ group held before, Breaks s c group held before := by
  cases told : s.injected? c with
  | some e' =>
    rw [Simulator.answer_of_injected told]
    exact .inl rfl
  | none =>
    rw [Simulator.answer_of_not_injected told] at failed ⊢
    obtain kept | ⟨group, ms, held, rfl, there, stopped⟩ := Store.perform_failed failed
    · exact .inl kept
    · obtain ⟨before, stops⟩ := exists_stopsAfter (fun _ => Iff.rfl) stopped
      exact .inr ⟨group, held, before, ⟨ms, rfl, stops⟩, told, there⟩

/-- A call that fails is listed, and nothing but what is stored may change beyond that. What is
stored is the same just if the call is no attachment that stops after a mapping that is new. One
that does leaves the group with those before the one that stopped it. -/
theorem failed_keeps_iff (failed : (s.answer c).1 = .error e) :
    (s.answer c).2 = { s with store := (s.answer c).2.store, calls := s.calls ++ [c] } ∧
      ((s.answer c).2.store = s.store ↔
        ∀ group held before, Breaks s c group held before → ∀ m ∈ before, m ∈ held) ∧
      ∀ group held before, Breaks s c group held before → (s.answer c).2.store =
        { s.store with endpoints := s.store.endpoints.insert group (joined held before) } := by
  refine ⟨?_, ⟨fun kept group held before breaks => ?_, fun known => ?_⟩,
    fun _ _ _ breaks => breaks.store⟩
  · obtain ⟨store, answered⟩ := Simulator.answer_eq c s
    rw [answered]
  · have same : s.store.endpoints.insert group (joined held before) = s.store.endpoints :=
      congrArg Store.endpoints (breaks.store.symm.trans kept)
    have found := Keyed.insert_eq_self_iff.mp same
    exact joined_eq_self_iff.mp (Option.some.inj (found.symm.trans breaks.there))
  · obtain kept | ⟨group, held, before, breaks⟩ := kept_or_breaks failed
    · exact kept
    · rw [breaks.store, joined_eq_self_iff.mpr (known group held before breaks),
        Keyed.insert_eq_self_iff.mpr breaks.there]

end ReplicaPorts.Compute

namespace ReplicaPorts.Small

open Compute

/-- A simulator with a group that holds nothing. -/
def emptyGroup : Simulator where
  place := ⟨"p", "r"⟩
  store := Store.putGroup {} "g" []

/-- Two machines for one port. -/
def clashing : Call := .attachEndpoints "g" [⟨1, "a", 80⟩, ⟨1, "b", 80⟩]

/-- What the attachment of two machines to one port is answered. -/
def refusal : Except Error Unit × Simulator := emptyGroup.answer clashing

/-- The attachment of two machines to one port fails and leaves the first one attached. -/
theorem small_attachment_breaks :
    refusal.1 = .error (.api 400 "client destination port 1 already in use") ∧
      emptyGroup.store.endpoints.get? "g" = some [] ∧
      refusal.2.store.endpoints.get? "g" = some [⟨1, "a", 80⟩] ∧
      refusal.2.store ≠ emptyGroup.store := by
  have first : emptyGroup.store.endpoints.get? "g" = some [] := by decide +kernel
  have after : refusal.2.store.endpoints.get? "g" = some [⟨1, "a", 80⟩] := by decide +kernel
  refine ⟨by decide +kernel, first, after, fun same => ?_⟩
  rw [same, first] at after
  cases after

/-- The attachment is one that stops after a mapping that is new, so it does not leave what is stored
as it was. -/
theorem small_failed_keeps_iff :
    refusal.1 = .error (.api 400 "client destination port 1 already in use") ∧
      ¬ (refusal.2.store = emptyGroup.store) ∧ refusal.2.store =
        { emptyGroup.store with
          endpoints := emptyGroup.store.endpoints.insert "g" [⟨1, "a", 80⟩] } := by
  have failed : refusal.1 = .error (.api 400 "client destination port 1 already in use") := by
    decide +kernel
  obtain ⟨-, keeps, leaves⟩ := failed_keeps_iff (s := emptyGroup) (c := clashing) failed
  have breaks : Breaks emptyGroup clashing "g" [] [⟨1, "a", 80⟩] :=
    ⟨⟨_, rfl, .past (by decide) (.here (by decide) [])⟩, by decide +kernel, by decide +kernel⟩
  refine ⟨failed, fun kept => ?_, leaves _ _ _ breaks⟩
  cases keeps.mp kept _ _ _ breaks ⟨1, "a", 80⟩ (by decide)

end ReplicaPorts.Small
