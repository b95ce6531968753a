import ReplicaPorts.Proofs.Cluster.Finalizers
import ReplicaPorts.Proofs.Cluster.Memory

/-!
# Finalizers of an undisturbed workload

A `Holder` is a server that holds a workload in whatever state, shows it and lets no one else change
it; the workload may have a list of finalizers, an empty one, or none. A change over HTTP reads the
workload once, and writes once exactly if the list is not yet as the change leaves it
(`Edit.run_perform`). A cluster in memory makes of its list what the change makes of it
(`Memory.Shows.edit`), so if both show the same list, they do so after the same change, and after
any changes one after the other (`all_edits_agree`).
-/

set_option autoImplicit false

namespace ReplicaPorts.Cluster

/-! ## What a change leaves -/

namespace Edit

variable {t : String} {held left : List String}

/-- What a change leaves of a list. A finalizer that is put on comes to the end unless it is there;
one that is taken off is gone wherever it was, and the others stay in order and as often. -/
def Leaves : Edit → List String → List String → Prop
  | add t, held, left => (t ∈ held ∧ left = held) ∨ (t ∉ held ∧ left = held ++ [t])
  | remove t, held, left =>
    t ∉ left ∧ left.Sublist held ∧ ∀ u, u ≠ t → left.count u = held.count u

theorem leaves_apply (e : Edit) (held : List String) : e.Leaves held (e.apply held) := by
  cases e with
  | add t =>
    by_cases present : t ∈ held
    · exact .inl ⟨present, if_pos present⟩
    · exact .inr ⟨present, if_neg present⟩
  | remove t =>
    refine ⟨?_, List.filter_sublist, ?_⟩
    · simp [apply, withoutFinalizer]
    · intro u other
      exact List.count_filter (by simpa using other)

/-- A change that was made makes no difference. -/
theorem apply_apply (e : Edit) (held : List String) : e.apply (e.apply held) = e.apply held :=
  (apply_eq_self_iff e _).mpr (token_mem_apply e held)

/-- Taking off what was put on leaves the list as it was. -/
theorem remove_add (absent : t ∉ held) : (remove t).apply ((add t).apply held) = held := by
  have added : (add t).apply held = held ++ [t] := if_neg absent
  have others : ∀ u ∈ held, u ≠ t := fun u mem same => absent (same ▸ mem)
  rw [added]
  simpa [apply, withoutFinalizer, List.filter_append, List.filter_eq_self] using others

end Edit

/-! ## The server -/

/-- A server that holds a workload in some state, which is read back from what it shows, with all
and only the finalizers that the workload has. A list that is put in the place of the finalizers is
there afterwards; an empty one may also be left out. -/
structure Holder (σ : Type) where
  body : σ → String
  finalizers : σ → Option (List String)
  /-- The workload with a list in the place of its finalizers. -/
  replace : List String → σ → σ
  reads : ∀ s, ∃ w, (Json.ofText? (body s) >>= Reply.statefulSet?) = some w ∧
    w.metadata.finalizers = finalizers s
  replaced : ∀ list s, (finalizers (replace list s)).getD [] = list

namespace Holder

variable {σ α : Type} {key : ObjectKey}

/-- The finalizers, none being an empty list. -/
def found (server : Holder σ) (s : σ) : List String := (server.finalizers s).getD []

/-- A server shows its workload, and puts the list of a merge patch in the place of the
finalizers. -/
def answer (server : Holder σ) (key : ObjectKey) : Handler Http.exchanges σ :=
  fun r s =>
    if r.url.path ≠ Api.statefulSetPath key then (some ⟨404, ""⟩, s)
    else
      match r.method with
      | .get => (some ⟨200, server.body s⟩, s)
      | .patch =>
        if r.header? "content-type" ≠ some "application/merge-patch+json" then (some ⟨415, ""⟩, s)
        else
          match r.body.bind patched? with
          | none => (some ⟨400, ""⟩, s)
          | some list => (some ⟨200, server.body (server.replace list s)⟩, server.replace list s)
      | _ => (some ⟨405, ""⟩, s)

/-- What a client's work comes to with a server: its value and the state that is left. -/
def run (server : Holder σ) (key : ObjectKey) (p : Api α) (s : σ) : Except Error α × σ :=
  p.run.run (server.answer key) s

/-- The requests that a client's work sends to a server. -/
def requests (server : Holder σ) (key : ObjectKey) (p : Api α) (s : σ) : List Http.Request :=
  (p.run.trace (server.answer key) s).map (·.op)

end Holder

/-- The request that reads a workload. -/
def readRequest (key : ObjectKey) : Http.Request :=
  request .get ⟨"", Api.statefulSetPath key, none⟩ none

/-- The request that writes the finalizers of a workload. -/
def writeRequest (key : ObjectKey) (list : List String) : Http.Request :=
  request .patch ⟨"", Api.statefulSetPath key, some ""⟩ (some (Api.finalizerPatch list))

namespace Holder

variable {σ α : Type} {key : ObjectKey}

theorem answer_read (server : Holder σ) (key : ObjectKey) (s : σ) :
    server.answer key (readRequest key) s = (some ⟨200, server.body s⟩, s) := by
  simp [answer, readRequest, request]

theorem answer_write (server : Holder σ) (key : ObjectKey) (list : List String) (s : σ) :
    server.answer key (writeRequest key list) s =
      (some ⟨200, server.body (server.replace list s)⟩, server.replace list s) := by
  have listed : patched? (Api.finalizerPatch list) = some list := list?_texts list
  have typed : (writeRequest key list).header? "content-type" =
      some "application/merge-patch+json" := rfl
  simp only [answer, typed]
  simp [writeRequest, request, listed]

/-- Reading sends one request, leaves the state alone and goes on with the workload. -/
theorem run_read (server : Holder σ) (named : IsNamed key) (f : StatefulSet → Api α) (s : σ) :
    ∃ w, w.metadata.finalizers = server.finalizers s ∧
      server.run key (Api.readStatefulSet key >>= f) s = server.run key (f w) s ∧
      server.requests key (Api.readStatefulSet key >>= f) s =
        readRequest key :: server.requests key (f w) s := by
  obtain ⟨w, read, shown⟩ := server.reads s
  refine ⟨w, shown, ?_⟩
  have understood := ofResponse_of_reads read
  have filled : key.name ≠ "" := named.name.nonempty
  have answered := server.answer_read key s
  rw [readRequest] at answered
  rw [run, requests, Api.readStatefulSet, Api.named, if_neg filled, run_send named.ofTarget?.1]
  simp only [Program.run_ask, Program.trace_ask, answered, understood]
  exact ⟨rfl, rfl⟩

/-- Writing sends one request and leaves the list that is written. -/
theorem run_write (server : Holder σ) (named : IsNamed key) (list : List String) (s : σ) :
    server.run key (Api.writeFinalizers key list) s = (.ok (), server.replace list s) ∧
      server.requests key (Api.writeFinalizers key list) s = [writeRequest key list] := by
  obtain ⟨w, read, -⟩ := server.reads (server.replace list s)
  have understood := ofResponse_of_reads read
  have filled : key.name ≠ "" := named.name.nonempty
  have answered := server.answer_write key list s
  rw [writeRequest] at answered
  rw [run, requests, Api.writeFinalizers, Api.named, if_neg filled, run_send named.ofTarget?.2]
  simp only [Program.run_ask, Program.trace_ask, answered, understood]
  exact ⟨rfl, rfl⟩

end Holder

/-! ## A change over HTTP -/

namespace Edit

variable {σ : Type} {key : ObjectKey}

/-- The state that a change leaves: nothing is written if the list is as it is to be. -/
def after (server : Holder σ) (e : Edit) (s : σ) : σ :=
  if e.apply (server.found s) = server.found s then s
  else server.replace (e.apply (server.found s)) s

theorem found_after (server : Holder σ) (e : Edit) (s : σ) :
    server.found (e.after server s) = e.apply (server.found s) := by
  unfold after
  split
  · next same => exact same.symm
  · exact server.replaced _ s

theorem run_perform (server : Holder σ) (named : IsNamed key) (e : Edit) (s : σ) :
    server.run key (e.perform key) s = (.ok (), e.after server s) ∧
      server.requests key (e.perform key) s =
        if e.apply (server.found s) = server.found s then [readRequest key]
        else [readRequest key, writeRequest key (e.apply (server.found s))] := by
  rw [perform_eq]
  obtain ⟨w, shown, ran, sent⟩ := server.run_read named (fun w => do
    let found := w.metadata.finalizers.getD []
    if e.apply found = found then return ()
    else Api.writeFinalizers key (e.apply found)) s
  rw [ran, sent, shown]
  change server.run key (if e.apply (server.found s) = server.found s then _ else _) s = _ ∧
    _ :: server.requests key (if e.apply (server.found s) = server.found s then _ else _) s = _
  unfold after
  split
  · exact ⟨rfl, rfl⟩
  · obtain ⟨wrote, sent'⟩ := server.run_write named (e.apply (server.found s)) s
    exact ⟨wrote, congrArg _ sent'⟩

end Edit

/-! ## A change in memory -/

/-- The call that makes a change. -/
def Edit.call (key : ObjectKey) : Edit → Call
  | add t => .addFinalizer key t
  | remove t => .removeFinalizer key t

/-- A cluster in memory has a workload with the finalizers of a list, none being an empty list. -/
def Memory.Shows (m : Memory) (key : ObjectKey) (list : List String) : Prop :=
  ∃ w, m.statefulSets.get? key = some w ∧ w.metadata.finalizers.getD [] = list

theorem Memory.Shows.editFinalizers {m : Memory} {key : ObjectKey} {list : List String}
    (shows_ : m.Shows key list) (edit : List String → List String) :
    (m.editFinalizers key edit).1 = .ok () ∧
      (m.editFinalizers key edit).2.Shows key (edit list) := by
  obtain ⟨w, found, rfl⟩ := shows_
  refine ⟨?_, refinalized edit w, ?_, rfl⟩
  · rw [editFinalizers_of_get? found]
  · rw [get?_editFinalizers, if_pos rfl, found]
    rfl

/-- A change that is not told to fail is made, and the cluster shows what it makes of the list. -/
theorem Memory.Shows.edit {m : Memory} {key : ObjectKey} {list : List String}
    (shows_ : m.Shows key list) (e : Edit) (calm : m.fails (e.call key) = false) :
    (∃ v, (m.answer (e.call key)).1 = .ok v) ∧
      (m.answer (e.call key)).2.Shows key (e.apply list) := by
  rw [answer_of_not_fails calm]
  have noted : (m.note (e.call key)).Shows key list := shows_
  obtain ⟨done, shown⟩ := noted.editFinalizers e.apply
  cases e with
  | add t => exact ⟨⟨(), done⟩, shown⟩
  | remove t => exact ⟨⟨(), done⟩, shown⟩

/-! ## Both -/

/-- A change over HTTP of a workload that nobody else changes succeeds. It leaves the list as it is
to be, writes exactly if that is another list than before, and leaves it at that when it is made
again; a cluster in memory with the same list then has the same list again. What was not there and
is put on and taken off leaves the list as it was. -/
theorem edits_agree {σ : Type} {key : ObjectKey} (server : Holder σ) (named : IsNamed key) (s : σ) :
    (∀ e : Edit, ∃ s',
      server.run key (e.perform key) s = (.ok (), s') ∧
      e.Leaves (server.found s) (server.found s') ∧
      (server.found s' = server.found s → s' = s) ∧
      server.requests key (e.perform key) s =
        (if server.found s' = server.found s then [readRequest key]
        else [readRequest key, writeRequest key (server.found s')]) ∧
      server.run key (e.perform key) s' = (.ok (), s') ∧
      server.requests key (e.perform key) s' = [readRequest key] ∧
      ∀ m : Memory, m.Shows key (server.found s) → m.fails (e.call key) = false →
        (∃ v, (m.answer (e.call key)).1 = .ok v) ∧
          (m.answer (e.call key)).2.Shows key (server.found s')) ∧
    ∀ t, t ∉ server.found s → ∃ s₁ s₂,
      server.run key ((Edit.add t).perform key) s = (.ok (), s₁) ∧
      server.run key ((Edit.remove t).perform key) s₁ = (.ok (), s₂) ∧
      server.found s₂ = server.found s := by
  constructor
  · intro e
    have left := e.found_after server s
    obtain ⟨ran, sent⟩ := e.run_perform server named s
    obtain ⟨again, resent⟩ := e.run_perform server named (e.after server s)
    rw [← left] at sent
    -- the list is as it is to be now, so the second time nothing is written
    have settled : e.apply (server.found (e.after server s)) = server.found (e.after server s) := by
      rw [left, Edit.apply_apply]
    have kept : e.after server (e.after server s) = e.after server s := if_pos settled
    rw [kept] at again
    rw [if_pos settled] at resent
    refine ⟨e.after server s, ran, left ▸ e.leaves_apply _, ?_, sent, again, resent, ?_⟩
    · intro same
      exact if_pos (left.symm.trans same)
    · intro m shows_ calm
      rw [left]
      exact shows_.edit e calm
  · intro t absent
    refine ⟨_, _, (Edit.run_perform server named _ s).1, (Edit.run_perform server named _ _).1, ?_⟩
    rw [Edit.found_after, Edit.found_after, Edit.remove_add absent]

/-! ## Changes one after the other -/

section

variable {σ α β : Type} {key : ObjectKey} {p : Api α} {a : α} {s s' : σ}

theorem Holder.run_bind {server : Holder σ} (ran : server.run key p s = (.ok a, s'))
    (f : α → Api β) : server.run key (p >>= f) s = server.run key (f a) s' := by
  have parts : (p >>= f).run = p.run.bind (ExceptT.bindCont f) := rfl
  rw [Holder.run] at ran
  rw [Holder.run, parts, Program.run_bind, ran]
  rfl

/-- The changes of a list over HTTP, one after the other. -/
def Edit.performAll (key : ObjectKey) : List Edit → Api Unit
  | [] => return ()
  | e :: edits => e.perform key >>= fun _ => performAll key edits

/-- The changes of a list in memory, one after the other. -/
def Memory.afterAll (key : ObjectKey) (edits : List Edit) (m : Memory) : Memory :=
  edits.foldl (fun m e => (m.answer (e.call key)).2) m

/-- A server and a cluster in memory that show the same list show the same list after any changes,
which is what the changes make of it one after the other. -/
theorem all_edits_agree (server : Holder σ) (named : IsNamed key) (edits : List Edit) {m : Memory}
    (shows_ : m.Shows key (server.found s)) (calm : ∀ e : Edit, m.fails (e.call key) = false) :
    ∃ s', server.run key (Edit.performAll key edits) s = (.ok (), s') ∧
      server.found s' = Edit.applyAll edits (server.found s) ∧
      (m.afterAll key edits).Shows key (server.found s') := by
  induction edits generalizing s m with
  | nil => exact ⟨s, rfl, rfl, shows_⟩
  | cons e edits ih =>
    have left := e.found_after server s
    have shown : (m.answer (e.call key)).2.Shows key (server.found (e.after server s)) :=
      left ▸ (shows_.edit e (calm e)).2
    have calm' : ∀ e' : Edit, (m.answer (e.call key)).2.fails (e'.call key) = false := by
      intro e'
      rw [Memory.fails, Memory.answer_failures]
      exact calm e'
    obtain ⟨s', ran, found, agree⟩ := ih shown calm'
    refine ⟨s', ?_, ?_, agree⟩
    · exact (Holder.run_bind (e.run_perform server named s).1 _).trans ran
    · rw [found, left]
      rfl

end

end ReplicaPorts.Cluster

namespace ReplicaPorts.Small

open Cluster

/-- A workload without a list of finalizers, as a server shows it. -/
def shownBare : Json :=
  .named [("apiVersion", .text "apps/v1"), ("kind", .text "StatefulSet"),
    ("metadata", .named [("name", .text "db")])]

theorem statefulSet?_shownBare :
    Reply.statefulSet? shownBare = some { metadata := { name := some "db" } } := by
  rfl

/-- A server that holds a list of finalizers or none. -/
def holder : Holder (Option (List String)) where
  body
    | none => shownBare.toText
    | some list => (shown list).toText
  finalizers := id
  replace list _ := some list
  reads
    | none => by
      have spelled : shownBare.IsSpelled := ⟨trivial, trivial, ⟨trivial, trivial⟩, trivial⟩
      rw [Json.ofText?_toText _ spelled]
      exact ⟨_, statefulSet?_shownBare, rfl⟩
    | some list => by
      have spelled : (shown list).IsSpelled :=
        ⟨trivial, trivial, ⟨trivial, isSpelled_texts list, trivial⟩, trivial⟩
      rw [Json.ofText?_toText _ spelled]
      exact ⟨_, statefulSet?_shown list, rfl⟩
  replaced _ _ := rfl

/-- A cluster in memory that holds a workload without a list of finalizers. -/
def heldCluster : Memory :=
  Memory.putStatefulSet {} { metadata := { name := some "db", space := some "prod" } }

theorem shows_heldCluster : heldCluster.Shows heldKey [] :=
  ⟨_, Keyed.get?_insert_self .., rfl⟩

/-- A finalizer that occurs twice is taken off with one writing, and one that is put on a workload
without a list is on in memory too. -/
theorem small_edits_agree :
    (∃ s, holder.run heldKey ((Edit.remove "own").perform heldKey) (some ["own", "other", "own"]) =
        (.ok (), s) ∧ holder.found s = ["other"] ∧
      holder.requests heldKey ((Edit.remove "own").perform heldKey)
        (some ["own", "other", "own"]) =
          [readRequest heldKey, writeRequest heldKey ["other"]]) ∧
    ∃ s, holder.run heldKey ((Edit.add "own").perform heldKey) none = (.ok (), s) ∧
      (heldCluster.answer (.addFinalizer heldKey "own")).2.Shows heldKey (holder.found s) := by
  constructor
  · obtain ⟨s, ran, -, -, sent, -⟩ :=
      (edits_agree holder isNamed_heldKey (some ["own", "other", "own"])).1 (.remove "own")
    have left : holder.found s = ["other"] := by
      have after := (Edit.run_perform holder isNamed_heldKey (.remove "own") _).1.symm.trans ran
      rw [← (Prod.mk.inj after).2, Edit.found_after]
      decide
    rw [left] at sent
    exact ⟨s, ran, left, sent⟩
  · obtain ⟨s, ran, -, -, -, -, -, agrees⟩ :=
      (edits_agree holder isNamed_heldKey none).1 (.add "own")
    have calm : heldCluster.fails ((Edit.add "own").call heldKey) = false := by decide
    exact ⟨s, ran, (agrees heldCluster shows_heldCluster calm).2⟩

end ReplicaPorts.Small
