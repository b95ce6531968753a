import Mathlib.Data.List.TakeWhile
import Mathlib.Data.Option.Basic
import ReplicaPorts.Cluster.Api
import ReplicaPorts.Proofs.Json.Text
import ReplicaPorts.Proofs.Program.Interference
import ReplicaPorts.Proofs.Text.Percent

/-!
# Finalizers over HTTP

The finalizers of a workload are changed in two steps: they are read, and if the change makes a
difference, the list that it makes is put in the place of the list that the server holds by then. A
`Server` holds the list, shows it and lets others change it at any moment.

`edit_amid_others` says what is left of the changes of others. The finalizer that is put on or taken
off is there or gone at the end, whatever the others do. Every other finalizer is as the others
alone would have left it exactly if nothing had to be written, or if it was changed again after the
writing, or was the same when the list was read and when it was written; what changed in between is
undone (`small_change_undone`).
-/

set_option autoImplicit false

namespace ReplicaPorts.Cluster

open Http (Url)

/-! ## Targets -/

/-- Whether a character may stand in the name of an object. -/
def isNameChar (c : Char) : Bool := c.isAlphanum || c == '-' || c == '.'

/-- A name as objects have them: letters, digits, hyphens and points, and not too many. -/
structure IsObjectName (s : String) : Prop where
  nonempty : s ≠ ""
  short : s.length ≤ 253
  plain : ∀ c ∈ s.toList, isNameChar c = true

theorem utf8ByteSize_le (s : String) : s.utf8ByteSize ≤ 4 * s.length := by
  refine String.push_induction s (fun s => s.utf8ByteSize ≤ 4 * s.length) (Nat.le_refl 0) ?_
  intro s c ih
  have one := Char.utf8Size_le_four c
  rw [String.utf8ByteSize_push, String.length_push]
  omega

theorem isVisible_of_isAlphanum {c : Char} (h : c.isAlphanum = true) : Http.isVisible c = true := by
  obtain ⟨low, high⟩ := Text.Percent.toNat_of_isAlphanum h
  simp only [Http.isVisible, Bool.and_eq_true, decide_eq_true_eq, bne_iff_ne]
  omega

/-- Whether a character stands in a path on the wire, and the path goes on after it. -/
def isPathChar (c : Char) : Bool := Url.inTargetPath c && !Url.endsPath c

/-- What stands in the name of an object stands in a path on the wire. -/
theorem isPathChar_of_isNameChar {c : Char} (h : isNameChar c = true) : isPathChar c = true := by
  simp only [isNameChar, Bool.or_eq_true, beq_iff_eq] at h
  obtain (letter | rfl) | rfl := h
  · have other : ∀ d : Char, d.isAlphanum = false → c ≠ d := by
      rintro d mark rfl
      rw [mark] at letter
      cases letter
    have visible := isVisible_of_isAlphanum letter
    simp [isPathChar, Url.inTargetPath, Url.notInTargetPath, Url.endsPath, visible, other '#' rfl,
      other '<' rfl, other '>' rfl, other '?' rfl, other '\x60' rfl]
  · rfl
  · rfl

/-- What may stand in a path on the wire is sent as it is, with an empty query or without one. -/
theorem ofTarget?_plain {path : String} (short : path.utf8ByteSize < Url.maxTarget)
    (plain : ∀ c ∈ path.toList, isPathChar c = true) :
    Url.ofTarget? path = some ⟨"", path, none⟩ ∧
      Url.ofTarget? (path ++ "?") = some ⟨"", path, some ""⟩ := by
  have kept : ∀ c ∈ path.toList, (!Url.endsPath c) = true := fun c mem =>
    (Bool.and_eq_true_iff.mp (plain c mem)).2
  have whole : path.toList.all Url.inTargetPath = true :=
    List.all_eq_true.mpr fun c mem => (Bool.and_eq_true_iff.mp (plain c mem)).1
  have marked : (path ++ "?").toList = path.toList ++ ['?'] := String.toList_append
  have fits : (path ++ "?").utf8ByteSize ≤ Url.maxTarget := by
    have mark : "?".utf8ByteSize = 1 := rfl
    rw [String.utf8ByteSize_append, mark]
    omega
  refine ⟨?_, ?_⟩
  · rw [Url.ofTarget?, List.takeWhile_eq_self_iff.mpr kept, List.dropWhile_eq_nil_iff.mpr kept]
    simp only [guard, short.le, whole, if_true, Url.queryOf, Option.all_none, Bool.and_self,
      String.ofList_toList]
    rfl
  · have ends : (!Url.endsPath '?') = false := rfl
    rw [Url.ofTarget?, marked, List.takeWhile_append_of_pos kept,
      List.dropWhile_append_of_pos kept]
    simp only [guard, fits, whole, ends, if_true, Bool.false_eq_true, not_false_eq_true,
      List.takeWhile_cons_of_neg, List.dropWhile_cons_of_neg, List.append_nil,
      String.ofList_toList]
    rfl

/-- A key as workloads have them. -/
structure IsNamed (key : ObjectKey) : Prop where
  space : IsObjectName key.space
  name : IsObjectName key.name

/-- The path of a workload is sent as it is. -/
theorem IsNamed.ofTarget? {key : ObjectKey} (h : IsNamed key) :
    Url.ofTarget? (Api.target .get (Api.statefulSetPath key)) =
        some ⟨"", Api.statefulSetPath key, none⟩ ∧
      Url.ofTarget? (Api.target .patch (Api.statefulSetPath key)) =
        some ⟨"", Api.statefulSetPath key, some ""⟩ := by
  have path : Api.statefulSetPath key =
      "/apis/apps/v1/namespaces/" ++ key.space ++ "/statefulsets/" ++ key.name := by
    rfl
  refine @ofTarget?_plain (Api.statefulSetPath key) ?_ ?_
  · have front : "/apis/apps/v1/namespaces/".utf8ByteSize = 25 := rfl
    have middle : "/statefulsets/".utf8ByteSize = 14 := rfl
    have space := utf8ByteSize_le key.space
    have name := utf8ByteSize_le key.name
    have shortSpace := h.space.short
    have shortName := h.name.short
    rw [path]
    simp only [String.utf8ByteSize_append, front, middle, Url.maxTarget]
    omega
  · rw [path]
    simp only [String.toList_append, List.forall_mem_append]
    refine ⟨⟨⟨List.all_eq_true.mp (by decide), ?_⟩, List.all_eq_true.mp (by decide)⟩, ?_⟩
    · exact fun c mem => isPathChar_of_isNameChar (h.space.plain c mem)
    · exact fun c mem => isPathChar_of_isNameChar (h.name.plain c mem)

/-! ## Requests -/

/-- The request that is sent for a method. -/
def request (method : Http.Method) (url : Url) (body : Option Json) : Http.Request :=
  { method, url, body, headers := (Api.contentType? method).toList.map ("content-type", ·) }

/-- One request is sent, and its response is read. -/
theorem run_send {α β : Type} {method : Http.Method} {path : String} {url : Url}
    (sent : Url.ofTarget? (Api.target method path) = some url) (body : Option Json)
    (read? : Json → Option α) (f : α → Api β) :
    (Api.send method path body read? >>= f).run =
      .ask (request method url body) fun response =>
        match Reply.ofResponse read? response with
        | .ok a => (f a).run
        | .error e => .done (.error e) := by
  simp only [Api.send, sent]
  refine congrArg (Program.ask _) (funext fun response => ?_)
  simp only [Program.done_bind, Function.comp_apply, ExceptT.bindCont]
  cases Reply.ofResponse read? response with
  | ok a => rfl
  | error e => rfl

/-! ## The server -/

/-- How a server shows a workload with a list of finalizers, such that the list is read back. -/
structure Server where
  body : List String → String
  reads : ∀ held, ∃ w, (Json.ofText? (body held) >>= Reply.statefulSet?) = some w ∧
    w.metadata.finalizers.getD [] = held

/-- The list of finalizers that a patch puts in the place of another. -/
def patched? (patch : Json) : Option (List String) :=
  (patch.member? "metadata").bind fun metadata =>
    (metadata.member? "finalizers").bind (Json.list? Json.text?)

/-- A server shows the finalizers that it holds for a workload and replaces them by those of a
patch, whatever they are by then. -/
def Server.answer (server : Server) (key : ObjectKey) : Handler Http.exchanges (List String) :=
  fun r held =>
    if r.url.path ≠ Api.statefulSetPath key then (some ⟨404, ""⟩, held)
    else
      match r.method with
      | .get => (some ⟨200, server.body held⟩, held)
      | .patch =>
        if r.header? "content-type" ≠ some "application/merge-patch+json" then
          (some ⟨415, ""⟩, held)
        else
          match r.body.bind patched? with
          | none => (some ⟨400, ""⟩, held)
          | some finalizers => (some ⟨200, server.body finalizers⟩, finalizers)
      | _ => (some ⟨405, ""⟩, held)

/-- What can be read in the body of a success is what the response means. -/
theorem ofResponse_of_reads {α : Type} {read? : Json → Option α} {body : String} {a : α}
    (reads : (Json.ofText? body >>= read?) = some a) :
    Reply.ofResponse read? (some ⟨200, body⟩) = .ok a := by
  have success : Http.Response.isFailure ⟨200, body⟩ = false := rfl
  simp only [Reply.ofResponse, success, Bool.false_eq_true, if_false, reads]

/-- What a server shows is understood. -/
theorem Server.ofResponse_body (server : Server) (held : List String) :
    ∃ w, Reply.ofResponse Reply.statefulSet? (some ⟨200, server.body held⟩) = .ok w ∧
      w.metadata.finalizers.getD [] = held := by
  obtain ⟨w, read, shown⟩ := server.reads held
  exact ⟨w, ofResponse_of_reads read, shown⟩

theorem list?_texts (ss : List String) : Json.list? Json.text? (.texts ss) = some ss := by
  induction ss with
  | nil => rfl
  | cons s ss ih =>
    simp only [Json.list?, Json.texts, List.map_cons, List.mapM_cons] at ih ⊢
    rw [ih]
    rfl

/-- A server that is asked for the workload shows it. -/
theorem Server.answer_get (server : Server) (key : ObjectKey) (held : List String) :
    server.answer key (request .get ⟨"", Api.statefulSetPath key, none⟩ none) held =
      (some ⟨200, server.body held⟩, held) := by
  simp [Server.answer, request]

/-- A server takes the list of a patch. -/
theorem Server.answer_patch (server : Server) (key : ObjectKey) (finalizers held : List String) :
    server.answer key (request .patch ⟨"", Api.statefulSetPath key, some ""⟩
        (some (Api.finalizerPatch finalizers))) held =
      (some ⟨200, server.body finalizers⟩, finalizers) := by
  have patched : patched? (Api.finalizerPatch finalizers) = some finalizers :=
    list?_texts finalizers
  have typed : Http.Request.header? (request .patch ⟨"", Api.statefulSetPath key, some ""⟩
      (some (Api.finalizerPatch finalizers))) "content-type" =
        some "application/merge-patch+json" := rfl
  simp only [Server.answer, typed]
  simp [request, patched]

/-! ## Members -/

/-- The one member of a name is read. -/
theorem nullable?_of_member {α : Type} {name : String} {read? : Json → Option α} {j v : Json}
    {a : Option α} (member : membersNamed name j = [v]) (read : unlessNull? read? v = some a) :
    nullable? name read? j = some a := by
  rw [nullable?, member, List.mapM_cons, read]
  cases a <;> rfl

/-- A member that is not there is read as none. -/
theorem nullable?_of_absent {α : Type} {name : String} (read? : Json → Option α)
    {members : List (String × Json)} (others : members.all (·.1 != name) = true) :
    nullable? name read? (.named members) = some none := by
  have absent : membersNamed name (.named members) = [] := by
    simp only [membersNamed, Json.named, List.map_eq_nil_iff, List.filter_eq_nil_iff, List.mem_map]
    rintro _ ⟨m, mem, rfl⟩
    simpa using List.all_eq_true.mp others m mem
  rw [nullable?, absent]
  rfl

/-! ## Changes -/

/-- A change of one finalizer. -/
inductive Edit where
  | add (finalizer : String)
  | remove (finalizer : String)
  deriving DecidableEq

namespace Edit

variable {held held' : List String} {edits : List Edit} {t : String}

/-- The finalizer that is changed. -/
def token : Edit → String
  | add finalizer => finalizer
  | remove finalizer => finalizer

/-- Whether the finalizer is there after the change. -/
def adds : Edit → Bool
  | add _ => true
  | remove _ => false

/-- What a change makes of a list, at one moment. -/
def apply : Edit → List String → List String
  | add finalizer => withFinalizer finalizer
  | remove finalizer => withoutFinalizer finalizer

/-- What changes make of a list one after the other. -/
def applyAll (edits : List Edit) (held : List String) : List String :=
  edits.foldl (fun held e => e.apply held) held

theorem applyAll_append (edits edits' : List Edit) (held : List String) :
    applyAll (edits ++ edits') held = applyAll edits' (applyAll edits held) :=
  List.foldl_append

/-- A change settles its own finalizer. -/
theorem token_mem_apply (e : Edit) (held : List String) :
    e.token ∈ e.apply held ↔ e.adds = true := by
  cases e with
  | add finalizer =>
    simp only [token, apply, adds, withFinalizer]
    split <;> simp_all
  | remove finalizer => simp [token, apply, adds, withoutFinalizer]

/-- A change leaves every other finalizer alone. -/
theorem mem_apply_of_ne {e : Edit} (other : t ≠ e.token) (held : List String) :
    t ∈ e.apply held ↔ t ∈ held := by
  cases e with
  | add finalizer =>
    simp only [token] at other
    simp only [apply, withFinalizer]
    split <;> simp [other]
  | remove finalizer =>
    simp only [token] at other
    simp [apply, withoutFinalizer, other]

/-- What nobody changes stays as it is. -/
theorem mem_applyAll_of_ne (others : ∀ e ∈ edits, e.token ≠ t) (held : List String) :
    t ∈ applyAll edits held ↔ t ∈ held := by
  induction edits generalizing held with
  | nil => exact Iff.rfl
  | cons e edits ih =>
    obtain ⟨here, later⟩ := List.forall_mem_cons.mp others
    exact (ih later _).trans (mem_apply_of_ne here.symm held)

theorem mem_apply_congr (e : Edit) (same : t ∈ held ↔ t ∈ held') :
    t ∈ e.apply held ↔ t ∈ e.apply held' := by
  by_cases own : t = e.token
  · subst own
    rw [token_mem_apply, token_mem_apply]
  · rw [mem_apply_of_ne own, mem_apply_of_ne own, same]

theorem mem_applyAll_congr (edits : List Edit) (same : t ∈ held ↔ t ∈ held') :
    t ∈ applyAll edits held ↔ t ∈ applyAll edits held' := by
  induction edits generalizing held held' with
  | nil => exact same
  | cons e edits ih => exact ih (mem_apply_congr e same)

/-- What somebody changes does not depend on how it was. -/
theorem mem_applyAll_of_changed (changed : ∃ e ∈ edits, e.token = t) :
    t ∈ applyAll edits held ↔ t ∈ applyAll edits held' := by
  induction edits generalizing held held' with
  | nil => simp at changed
  | cons e edits ih =>
    by_cases later : ∃ e ∈ edits, e.token = t
    · exact ih later
    · -- the first change is the last one of this finalizer
      obtain ⟨e', mem, rfl⟩ := changed
      obtain rfl | mem := List.mem_cons.mp mem
      · refine mem_applyAll_congr edits ?_
        rw [token_mem_apply, token_mem_apply]
      · exact absurd ⟨e', mem, rfl⟩ later

/-- After the same changes a finalizer is the same exactly if it was before or is changed. -/
theorem mem_applyAll_iff (edits : List Edit) :
    (t ∈ applyAll edits held ↔ t ∈ applyAll edits held') ↔
      ((t ∈ held ↔ t ∈ held') ∨ ∃ e ∈ edits, e.token = t) := by
  by_cases changed : ∃ e ∈ edits, e.token = t
  · exact iff_of_true (mem_applyAll_of_changed changed) (.inr changed)
  · have others : ∀ e ∈ edits, e.token ≠ t := fun e mem same => changed ⟨e, mem, same⟩
    rw [mem_applyAll_of_ne others, mem_applyAll_of_ne others]
    simp [changed]

/-! ## Changing a finalizer over HTTP -/

/-- A change as the client makes it. -/
def perform (key : ObjectKey) : Edit → Api Unit
  | add finalizer => Api.addFinalizer key finalizer
  | remove finalizer => Api.removeFinalizer key finalizer

/-- A change makes no difference if the finalizer is as it is to be. -/
theorem apply_eq_self_iff (e : Edit) (held : List String) :
    e.apply held = held ↔ (e.token ∈ held ↔ e.adds = true) := by
  cases e with
  | add finalizer =>
    simp only [apply, withFinalizer, token, adds]
    split <;> simp_all
  | remove finalizer =>
    simp only [apply, withoutFinalizer, token, adds, List.filter_eq_self, decide_eq_true_eq,
      Bool.false_eq_true, iff_false]
    exact ⟨fun others mem => others _ mem rfl, fun absent t mem same => absent (same ▸ mem)⟩

/-- The list is read, and if the change makes a difference, what it makes of it is written. -/
theorem perform_eq (key : ObjectKey) (e : Edit) :
    e.perform key = (do
      let found := (← Api.readStatefulSet key).metadata.finalizers.getD []
      if e.apply found = found then return ()
      else Api.writeFinalizers key (e.apply found)) := by
  simp only [apply_eq_self_iff]
  cases e with
  | add finalizer =>
    refine congrArg (Api.readStatefulSet key >>= ·) (funext fun w => ?_)
    by_cases present : finalizer ∈ w.metadata.finalizers.getD []
    · simp [present, token, adds]
    · simp [present, token, adds, apply, withFinalizer]
  | remove finalizer =>
    refine congrArg (Api.readStatefulSet key >>= ·) (funext fun w => ?_)
    by_cases present : finalizer ∈ w.metadata.finalizers.getD []
    · simp [present, token, adds, apply, withoutFinalizer]
    · simp [present, token, adds]

variable {key : ObjectKey}

/-- What is read is what the server holds by then. -/
theorem runAmid_read {α : Type} (server : Server) (named : IsNamed key) (f : StatefulSet → Api α)
    (now : List Edit) (later : List (List Edit)) (held : List String) :
    ∃ w, w.metadata.finalizers.getD [] = applyAll now held ∧
      (Api.readStatefulSet key >>= f).run.runAmid (server.answer key) apply (now :: later) held =
        (f w).run.runAmid (server.answer key) apply later (applyAll now held) := by
  obtain ⟨w, understood, shown⟩ := server.ofResponse_body (applyAll now held)
  refine ⟨w, shown, ?_⟩
  have filled : key.name ≠ "" := named.name.nonempty
  rw [applyAll] at understood
  rw [Api.readStatefulSet, Api.named, if_neg filled, run_send named.ofTarget?.1]
  simp only [Program.runAmid, Server.answer_get, List.headD_cons, List.tail_cons, understood,
    applyAll]

/-- What is written is what the server holds then. -/
theorem runAmid_write (server : Server) (named : IsNamed key) (finalizers : List String)
    (now : List Edit) (later : List (List Edit)) (held : List String) :
    (Api.writeFinalizers key finalizers).run.runAmid (server.answer key) apply (now :: later) held =
      (.ok (), applyAll later.flatten finalizers) := by
  obtain ⟨w, understood, -⟩ := server.ofResponse_body finalizers
  have filled : key.name ≠ "" := named.name.nonempty
  rw [Api.writeFinalizers, Api.named, if_neg filled, run_send named.ofTarget?.2]
  simp only [Program.runAmid, Server.answer_patch, List.tail_cons, understood]
  rfl

/-- What a change leaves, with the changes that others make before the list is read, between reading
and writing it, and after that. -/
theorem runAmid_perform (server : Server) (named : IsNamed key) (own : Edit)
    (before between after : List Edit) (held : List String) :
    (own.perform key).run.runAmid (server.answer key) apply [before, between, after] held =
      (.ok (),
        if own.apply (applyAll before held) = applyAll before held then
          applyAll (before ++ between ++ after) held
        else applyAll after (own.apply (applyAll before held))) := by
  rw [perform_eq]
  obtain ⟨w, shown, read⟩ := runAmid_read server named (fun w => do
    let found := w.metadata.finalizers.getD []
    if own.apply found = found then return ()
    else Api.writeFinalizers key (own.apply found)) before [between, after] held
  refine read.trans ?_
  simp only [shown]
  split
  · rw [List.append_assoc, applyAll_append]
    simp [Program.runAmid, applyAll]
  · simpa using runAmid_write server named _ between [after] (applyAll before held)

/-- A finalizer that is put on or taken off over HTTP, while others make changes of their own, is on
or off at the end. Every other finalizer is as the changes of the others alone leave it exactly if
nothing was written, or each was the same when the list was read and when it was written, or was
changed again after that. -/
theorem edit_amid_others (server : Server) (named : IsNamed key) (own : Edit)
    {before between after : List Edit}
    (foreign : ∀ e ∈ before ++ between ++ after, e.token ≠ own.token) (held : List String) :
    let read := applyAll before held
    ∃ left,
      (own.perform key).run.runAmid (server.answer key) apply [before, between, after] held =
        (.ok (), left) ∧
      (own.token ∈ left ↔ own.adds = true) ∧
      ((∀ t, t ≠ own.token → (t ∈ left ↔ t ∈ applyAll (before ++ between ++ after) held)) ↔
        own.apply read = read ∨ ∀ t, t ≠ own.token →
          (t ∈ read ↔ t ∈ applyAll between read) ∨ ∃ e ∈ after, e.token = t) := by
  intro read
  refine ⟨_, runAmid_perform server named own before between after held, ?_⟩
  have apart : ∀ e ∈ after, e.token ≠ own.token := fun e mem =>
    foreign e (List.mem_append_right _ mem)
  have alone : applyAll (before ++ between ++ after) held =
      applyAll after (applyAll between read) := by
    rw [applyAll_append, applyAll_append]
  by_cases idle : own.apply read = read
  · rw [if_pos idle]
    refine ⟨?_, by simp [idle]⟩
    -- the finalizer was as it is to be when the list was read, and nobody else changes it
    have untouched : own.token ∈ applyAll (before ++ between ++ after) held ↔
        own.token ∈ held := mem_applyAll_of_ne foreign held
    have first : own.token ∈ read ↔ own.token ∈ held :=
      mem_applyAll_of_ne (fun e mem => foreign e (by simp [mem])) held
    rw [untouched, ← first]
    exact (apply_eq_self_iff own read).mp idle
  · rw [if_neg idle, or_iff_right idle]
    refine ⟨(mem_applyAll_of_ne apart _).trans (token_mem_apply own read), ?_⟩
    refine forall_congr' fun t => forall_congr' fun other => ?_
    rw [alone, mem_applyAll_iff, mem_apply_of_ne other]

end Edit

end ReplicaPorts.Cluster

namespace ReplicaPorts.Small

open Cluster

/-- The metadata of a workload with finalizers. -/
def shownMetadata (finalizers : List String) : Json :=
  .named [("name", .text "db"), ("finalizers", .texts finalizers)]

/-- A workload with finalizers, as a server shows it. -/
def shown (finalizers : List String) : Json :=
  .named [("apiVersion", .text "apps/v1"), ("kind", .text "StatefulSet"),
    ("metadata", shownMetadata finalizers)]

theorem isSpelled_texts (ss : List String) : (Json.texts ss).IsSpelled := by
  induction ss with
  | nil => trivial
  | cons s ss ih => exact ⟨trivial, ih⟩

theorem ofJson?_shownMetadata (finalizers : List String) :
    Metadata.ofJson? (shownMetadata finalizers) =
      some { name := some "db", finalizers := some finalizers } := by
  have formed : object? (shownMetadata finalizers) = some (shownMetadata finalizers) := rfl
  have named : nullable? "name" Json.text? (shownMetadata finalizers) = some (some "db") := rfl
  have listed : nullable? "finalizers" (Json.list? Json.text?) (shownMetadata finalizers) =
      some (some finalizers) :=
    nullable?_of_member rfl (congrArg (Option.map some) (list?_texts finalizers))
  have absent : ∀ {α : Type} (name : String) (read? : Json → Option α),
      (["name", "finalizers"].all (· != name)) = true →
        nullable? name read? (shownMetadata finalizers) = some none :=
    fun name read? others => nullable?_of_absent read? others
  rw [Metadata.ofJson?, formed, Option.bind_eq_bind, Option.bind_some]
  simp (disch := decide) only [named, listed, absent]
  rfl

theorem statefulSet?_shown (finalizers : List String) :
    Reply.statefulSet? (shown finalizers) =
      some { metadata := { name := some "db", finalizers := some finalizers } } := by
  have kind : Reply.statefulSet? (shown finalizers) = StatefulSet.ofJson? (shown finalizers) := rfl
  have formed : object? (shown finalizers) = some (shown finalizers) := rfl
  have metadata : nullable? "metadata" Metadata.ofJson? (shown finalizers) =
      some (some { name := some "db", finalizers := some finalizers }) :=
    nullable?_of_member rfl (congrArg (Option.map some) (ofJson?_shownMetadata finalizers))
  have absent : ∀ {α : Type} (name : String) (read? : Json → Option α),
      (["apiVersion", "kind", "metadata"].all (· != name)) = true →
        nullable? name read? (shown finalizers) = some none :=
    fun name read? others => nullable?_of_absent read? others
  rw [kind, StatefulSet.ofJson?, formed, Option.bind_eq_bind, Option.bind_some]
  simp (disch := decide) only [absent, Metadata.ofObject?, metadata]
  rfl

/-- A server that shows a workload with nothing but its name and its finalizers. -/
def server : Server where
  body held := (shown held).toText
  reads held := by
    have spelled : (shown held).IsSpelled :=
      ⟨trivial, trivial, ⟨trivial, isSpelled_texts held, trivial⟩, trivial⟩
    rw [Json.ofText?_toText _ spelled]
    exact ⟨_, statefulSet?_shown held, rfl⟩

/-- The key of the workload. -/
def heldKey : ObjectKey := ⟨"prod", "db"⟩

theorem isNamed_heldKey : IsNamed heldKey where
  space := ⟨by decide, by decide, List.all_eq_true.mp (by decide)⟩
  name := ⟨by decide, by decide, List.all_eq_true.mp (by decide)⟩

/-- A finalizer that is taken off between the reading and the writing and once more after that stays
off, and the one that is put on is there. -/
theorem small_edit_amid_others :
    ∃ left,
      ((Edit.add "own").perform heldKey).run.runAmid (server.answer heldKey) Edit.apply
        [[.add "other"], [.remove "other"], [.remove "other"]] ["third"] = (.ok (), left) ∧
      "own" ∈ left ∧ ∀ t, t ≠ "own" → (t ∈ left ↔
        t ∈ Edit.applyAll ([.add "other"] ++ [.remove "other"] ++ [.remove "other"])
          ["third"]) := by
  have foreign : ∀ e ∈ [Edit.add "other"] ++ [Edit.remove "other"] ++ [Edit.remove "other"],
      e.token ≠ (Edit.add "own").token := by decide
  obtain ⟨left, ran, own, others⟩ :=
    Edit.edit_amid_others server isNamed_heldKey (.add "own") foreign ["third"]
  refine ⟨left, ran, own.mpr rfl, others.mpr (.inr fun t _ => ?_)⟩
  by_cases again : t = "other"
  · exact .inr ⟨.remove "other", by decide, again.symm⟩
  · refine .inl (Edit.mem_applyAll_of_ne ?_ _).symm
    simpa [Edit.token] using Ne.symm again

/-- A finalizer that somebody puts on between the reading and the writing is off at the end, and one
that somebody takes off there is on again. -/
theorem small_change_undone :
    let left (between : List Edit) (held : List String) :=
      (((Edit.add "own").perform heldKey).run.runAmid (server.answer heldKey) Edit.apply
        [[], between, []] held).2
    ¬ ("other" ∈ left [.add "other"] [] ↔ "other" ∈ Edit.applyAll [.add "other"] []) ∧
      ¬ ("other" ∈ left [.remove "other"] ["other"] ↔
        "other" ∈ Edit.applyAll [.remove "other"] ["other"]) := by
  simp only [Edit.runAmid_perform server isNamed_heldKey]
  decide

end ReplicaPorts.Small
