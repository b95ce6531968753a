import Mathlib.Logic.Function.Basic
import ReplicaPorts.Proofs.Compute.Conversation
import ReplicaPorts.Proofs.Http.Url

/-!
# The protocol of write calls

With a fixed token, a call that changes something sends one request for the change, which carries a
fresh identifier, and then one wait for each pending operation that is answered, at most `maxWaits`
of them, and nothing else. `write_by_protocol` says so for every peer that answers from a list: it
tells which requests the peer got, which of its answers were used, and what each way of ending comes
to. Where the parts of the scope and the name stand in a URL as they are (`IsPlainScope`), it tells
the URL of the first request letter by letter.
-/

set_option autoImplicit false

namespace ReplicaPorts

/-! ## What a handler gives -/

namespace Program

variable {S : Signature} {α σ : Type}

/-- Operations with the answers that a handler gives from one state to another. -/
inductive Gives (handle : Handler S σ) : σ → List (Event S) → σ → Prop
  | nil (s : σ) : Gives handle s [] s
  | cons (op : S.Op) (s : σ) {t : List (Event S)} {s' : σ}
      (rest : Gives handle (handle op s).2 t s') : Gives handle s (⟨op, (handle op s).1⟩ :: t) s'

theorem gives_trace (handle : Handler S σ) (p : Program S α) (s : σ) :
    Gives handle s (p.trace handle s) (p.run handle s).2 := by
  induction p generalizing s with
  | done a => exact .nil s
  | ask op next ih => exact .cons op s (ih _ _)

end Program

namespace Http.Peer

variable {ids : Nat → String} {p p' : Peer Script}

theorem gives_freshId {σ : Type} {handle : Handler exchanges σ} {p p' : Peer σ} {id : String}
    {t : List (Event Wire.asks)}
    (h : Program.Gives (answer handle ids) p (⟨.freshId, id⟩ :: t) p') :
    id = ids p.issued ∧
      Program.Gives (answer handle ids) { p with issued := p.issued + 1 } t p' := by
  cases h with
  | cons op s rest => exact ⟨rfl, rest⟩

theorem gives_send {r : Request} {x : Option Response} {t : List (Event Wire.asks)}
    (h : Program.Gives (answer Script.answer ids) p (⟨.send r, x⟩ :: t) p') :
    x = some (p.state.responses.head?.getD Script.exhausted) ∧
      Program.Gives (answer Script.answer ids)
        { p with state := ⟨p.state.responses.tail, p.state.requests ++ [r]⟩ } t p' := by
  cases h with
  | cons op s rest => exact ⟨rfl, rest⟩

end Http.Peer

namespace Compute

open Http (Wire Peer Script Request Response Url Method)

namespace TokenSupply

variable {token : String} {t : List (Event Wire.asks)} {r : Except Error String}

theorem Fetch.of_fixed (h : Fetch (some token) t r) : t = [] ∧ r = .ok token := by
  cases h
  exact ⟨rfl, rfl⟩

end TokenSupply

namespace Rest

variable {base token path : String} {method : Method} {body : Option Json} {x y : Exchange}
  {xs : List Exchange} {t tail : List (Event Wire.asks)} {e : Error} {r : Except Error Unit}

/-! ## With a fixed token -/

theorem Unsent.of_fixed (h : Unsent base (some token) method path body t e) :
    t = [] ∧ e = .transport ∧ requestTo? base path token method body = none := by
  obtain fetch | ⟨given, fetch, formed, rfl⟩ := h
  · cases fetch.of_fixed.2
  · obtain ⟨rfl, same⟩ := fetch.of_fixed
    cases same
    exact ⟨rfl, rfl, formed⟩

theorem Exchange.Asks.of_fixed (h : x.Asks base (some token) method path body) :
    x.events = [x.event] ∧ requestTo? base path token method body = some x.request := by
  obtain ⟨-, given, fetch, formed⟩ := h
  obtain ⟨none_, same⟩ := fetch.of_fixed
  cases same
  exact ⟨by rw [Exchange.events, none_, List.nil_append], formed⟩

/-- A request that can be formed with the token is sent. -/
theorem Conversation.head_of_fixed {request : Request}
    (h : Conversation base (some token) method path body xs tail r)
    (formed : requestTo? base path token method body = some request) :
    ∃ x, xs.head? = some x ∧ x.request = request := by
  cases h with
  | unsent unsent =>
    rw [unsent.of_fixed.2.2] at formed
    cases formed
  | held opens =>
    rw [opens.of_fixed.2] at formed
    exact ⟨_, rfl, Option.some.inj formed⟩

/-- With a fixed token nothing is asked but the requests of the conversation. -/
theorem Conversation.events_of_fixed
    (h : Conversation base (some token) method path body xs tail r) :
    tail = [] ∧ xs.flatMap Exchange.events = xs.map Exchange.event := by
  refine ⟨?_, ?_⟩
  · obtain none_ | ⟨_, _, _, _, unsent⟩ := h.unsent_after
    · exact none_
    · exact unsent.of_fixed.1
  · rw [List.map_eq_flatMap, List.flatMap_congr]
    intro x mem
    obtain ⟨_, _, _, asks⟩ := h.asks x mem
    exact asks.of_fixed.1

/-- What a peer that answers from a list makes of some exchanges. -/
theorem gives_events {ids : Nat → String} {p p' : Peer Script} {xs : List Exchange}
    (h : Program.Gives (Peer.answer Script.answer ids) p (xs.map Exchange.event) p') :
    p' = { p with state := { responses := p.state.responses.drop xs.length
                             requests := p.state.requests ++ xs.map (·.request) } } ∧
      xs.map (·.answer) = (List.range xs.length).map fun i =>
        some (p.state.responses[i]?.getD Script.exhausted) := by
  induction xs generalizing p with
  | nil =>
    cases h
    simp
  | cons x xs ih =>
    obtain ⟨first, rest⟩ := Peer.gives_send h
    obtain ⟨rfl, later⟩ := ih rest
    refine ⟨by simp, ?_⟩
    rw [List.map_cons, first, later, List.length_cons, List.range_succ_eq_map, List.map_cons,
      List.map_map]
    simp [List.head?_eq_getElem?]

/-! ## The URL of the first request -/

/-- A scope whose parts stand in a URL as they are, with the origin and the root of its base. -/
structure IsPlainScope (s : Scope) (o root : String) : Prop where
  base : baseOf s.endpoint = o ++ root
  origin : Url.IsOrigin o
  root : root = "" ∨ ∃ path, root = "/" ++ path ∧ Url.IsPlain path.toList
  project : Url.isSegment s.place.project.toList = true
  region : Url.isSegment s.place.region.toList = true

variable {s : Scope} {o root : String}

theorem isPlain_collection (h : IsPlainScope s o root) (kind : Kind) :
    Url.IsPlain (Path.collection s.place kind).toList := by
  have word : ∀ {w : List Char}, Url.isSegment w = true → Url.IsPlain w := Url.isPlain_of_isSegment
  have front : "projects/".toList = "projects".toList ++ ['/'] := rfl
  cases kind with
  | firewall =>
    have back : "/global/firewalls".toList = '/' :: "global".toList ++ '/' :: "firewalls".toList :=
      rfl
    simp only [Path.collection, toString, String.toList_append, front, back, List.append_assoc,
      List.cons_append, List.nil_append, Url.isPlain_append]
    exact ⟨word (by decide), word h.project, word (by decide), word (by decide)⟩
  | group | backend | rule | attachment =>
    have middle : "/regions/".toList = '/' :: "regions".toList ++ ['/'] := rfl
    have slash : "/".toList = ['/'] := rfl
    simp only [Path.collection, toString, String.toList_append, front, middle, slash,
      List.append_assoc, List.cons_append, List.nil_append, Url.isPlain_append]
    exact ⟨word (by decide), word h.project, word (by decide), word h.region, word (by decide)⟩

theorem isPlain_resource (h : IsPlainScope s o root) (kind : Kind) {name : String}
    (named : Url.isSegment name.toList = true) :
    Url.IsPlain (Path.resource s.place kind name).toList := by
  have slash : "/".toList = ['/'] := rfl
  simp only [Path.resource, toString, String.toList_append, slash, List.append_assoc,
    List.cons_append, List.nil_append, Url.isPlain_append]
  exact ⟨isPlain_collection h kind, Url.isPlain_of_isSegment named⟩

theorem isPlain_verbPath (h : IsPlainScope s o root) {group verb : String}
    (named : Url.isSegment group.toList = true) (asked : Url.isSegment verb.toList = true) :
    Url.IsPlain (verbPath s group verb).toList := by
  have slash : "/".toList = ['/'] := rfl
  simp only [Rest.verbPath, toString, String.toList_append, slash, List.append_assoc,
    List.cons_append, List.nil_append, Url.isPlain_append]
  exact ⟨isPlain_resource h .group named, Url.isPlain_of_isSegment asked⟩

/-- Where the name of a call stands in a URL as it is, the path of the call does. -/
theorem isPlain_opening (h : IsPlainScope s o root) {call : Call}
    (named : Url.isSegment call.target.toList = true) :
    Url.IsPlain (opening s call).path.toList := by
  cases call with
  | get kind | delete kind => exact isPlain_resource h kind named
  | create name design => exact isPlain_collection h design.kind
  | updateFirewall => exact isPlain_resource h .firewall named
  | listEndpoints | attachEndpoints | detachEndpoints => exact isPlain_verbPath h named (by decide)

/-- No path of a call is a URL itself, and none starts with a slash. -/
theorem head?_opening (s : Scope) (call : Call) :
    (opening s call).path.toList.head? = some 'p' := by
  have start : "projects/".toList.head? = some 'p' := rfl
  have collection : ∀ kind, (Path.collection s.place kind).toList.head? = some 'p' := by
    intro kind
    cases kind <;> simp only [Path.collection, toString, String.toList_append, List.head?_append,
      start, Option.some_or]
  have resource : ∀ kind name, (Path.resource s.place kind name).toList.head? = some 'p' := by
    intro kind name
    simp only [Path.resource, toString, String.toList_append, List.head?_append, collection,
      Option.some_or]
  have verb : ∀ group verb, (verbPath s group verb).toList.head? = some 'p' := by
    intro group verb
    simp only [Rest.verbPath, toString, String.toList_append, List.head?_append, resource,
      Option.some_or]
  cases call with
  | get kind | delete kind => exact resource kind _
  | create name design => exact collection design.kind
  | updateFirewall => exact resource .firewall _
  | listEndpoints | attachEndpoints | detachEndpoints => exact verb _ _

/-- Such a path is looked for below the base. -/
theorem urlOf_below (base : String) {path : String} (h : path.toList.head? = some 'p') :
    urlOf base path = base ++ "/" ++ path := by
  obtain ⟨cs, written⟩ := List.head?_eq_some_iff.mp h
  have foreign : Text.after? "http".toList path.toList = none := by
    rw [written]
    rfl
  have kept : Text.dropLeading '/' path = path := by
    rw [Text.dropLeading, written, List.dropWhile_cons_of_neg (by decide), ← written,
      String.ofList_toList]
  rw [urlOf, foreign, kept]
  rfl

/-- A plain path below the root is a plain path. -/
theorem exists_below (h : IsPlainScope s o root) {path : String}
    (plain : Url.IsPlain path.toList) :
    ∃ whole : String, root ++ "/" ++ path = "/" ++ whole ∧ Url.IsPlain whole.toList := by
  obtain rfl | ⟨first, rfl, rooted⟩ := h.root
  · exact ⟨path, by simp, plain⟩
  · refine ⟨first ++ "/" ++ path, by simp only [String.append_assoc], ?_⟩
    have slash : "/".toList = ['/'] := rfl
    simp only [String.toList_append, slash, List.append_assoc, List.cons_append, List.nil_append,
      Url.isPlain_append]
    exact ⟨rooted, plain⟩

/-- Below the root, a plain path and a query in which nothing has to be escaped are read as they are
written. -/
theorem ofText?_below (h : IsPlainScope s o root) {path : String} (plain : Url.IsPlain path.toList)
    {query : Option String} (asked : ∀ q ∈ query, ∀ c ∈ q.toList, Url.inQuery c = true) :
    Url.ofText? (o ++ root ++ "/" ++ path ++ query.elim "" ("?" ++ ·)) =
      some ⟨o, root ++ "/" ++ path, query⟩ := by
  obtain ⟨whole, below, plain_⟩ := exists_below h plain
  have front : o ++ root ++ "/" ++ path = o ++ "/" ++ whole := by
    simpa only [String.append_assoc] using congrArg (o ++ ·) below
  rw [front, below]
  exact Url.ofText?_plain h.origin plain_ asked

/-- A path with an identifier is looked for below the base, and the identifier is its query. -/
theorem urlOf_withId (h : IsPlainScope s o root) {path : String}
    (start : path.toList.head? = some 'p') (id : String) :
    urlOf (baseOf s.endpoint) (withId path id) =
      o ++ root ++ "/" ++ path ++ ("?" ++ ("requestId=" ++ id)) := by
  have first : (withId path id).toList.head? = some 'p' := by
    simp only [withId, toString, String.toList_append, List.head?_append, start, Option.some_or]
  rw [urlOf_below _ first, h.base]
  simp [withId, toString, ← String.toList_inj]

theorem inQuery_requestId {id : String} (plain : ∀ c ∈ id.toList, Url.inQuery c = true) :
    ∀ c ∈ ("requestId=" ++ id).toList, Url.inQuery c = true := by
  rw [String.toList_append, List.forall_mem_append]
  exact ⟨List.all_eq_true.mp (by decide), plain⟩

/-- The first request of a call goes to the path of the call below the root, and its query is the
identifier and nothing else. -/
theorem ofText?_opening (h : IsPlainScope s o root) {call : Call}
    (named : Url.isSegment call.target.toList = true) {id : String}
    (plain : ∀ c ∈ id.toList, Url.inQuery c = true) :
    Url.ofText? (urlOf (baseOf s.endpoint) (withId (opening s call).path id)) =
      some ⟨o, root ++ "/" ++ (opening s call).path, some ("requestId=" ++ id)⟩ := by
  have asked : ∀ q ∈ some ("requestId=" ++ id), ∀ c ∈ q.toList, Url.inQuery c = true := by
    rintro q ⟨⟩
    exact inQuery_requestId plain
  have read := ofText?_below h (isPlain_opening h named) asked
  rw [Option.elim_some] at read
  rw [urlOf_withId h (head?_opening s call)]
  exact read

/-! ## The protocol -/

/-- Identifiers of which no two are the same and which stand in a query as they are. -/
structure Fresh (ids : Nat → String) : Prop where
  distinct : Function.Injective ids
  plain : ∀ i, ∀ c ∈ (ids i).toList, Url.inQuery c = true ∧ c ≠ '&'

end Rest

end Compute

end ReplicaPorts

namespace ReplicaPorts.Small

open Compute Compute.Rest
open Http (Peer Script Response)

/-- The operation when it is done. -/
def doneAnswer : Response := ⟨200, "\x7b\"name\":\"op\",\"status\":\"DONE\"\x7d"⟩

/-- A peer that needs some time. -/
def peer : Peer Script where
  state := { responses := [pendingAnswer, doneAnswer] }

theorem fresh_idAt : Fresh idAt where
  distinct i j same := by
    have lengths := congrArg (fun s => s.toList.length) same
    simpa [idAt] using lengths
  plain i c mem := by
    rw [idAt, String.toList_ofList] at mem
    obtain rfl := (List.mem_replicate.mp mem).2
    decide

theorem isPlainScope_client :
    IsPlainScope client.scope "https://compute.googleapis.com" "/compute/v1" where
  base := by decide +kernel
  origin := ⟨by decide +kernel, List.all_eq_true.mp (by decide +kernel)⟩
  root := by
    refine .inr ⟨"compute/v1", by decide, ?_⟩
    show ∀ part ∈ Text.segments '/' "compute/v1".toList, Http.Url.isSegment part = true
    decide +kernel
  project := by decide +kernel
  region := by decide +kernel

/-- The deletion of a firewall, with the peer after it. -/
def deletion : (Except Error Unit × TokenSupply) × Peer Script :=
  ((perform client (.delete .firewall "fw")).run.run (.fixed "t")).run
    (Peer.answer Script.answer idAt) peer

end ReplicaPorts.Small
