import Mathlib.Data.List.Perm.Basic
import ReplicaPorts.Proofs.Compute.Paging
import ReplicaPorts.Proofs.Compute.RoundTrip
import ReplicaPorts.Proofs.Pass.Endpoints
import ReplicaPorts.Proofs.Replica.Machine
import ReplicaPorts.Proofs.Replica.Mappings

/-!
# Endpoints that are listed as they were attached

What is sent to attach endpoints and what is read of a listing are written by different rules: the
peer lists endpoints in its own order and on its own pages (`ListsBack`), gives the machine by a URL
that ends in its path, and may add to every object (`Lists`). `attached_recognised` says that the
same mappings are read all the same, so that nothing is detached or attached a second time. What
comes in front of a path is cut off because the path is the first that starts there: the word that a
path starts with cannot come about where two texts meet.
-/

set_option autoImplicit false

namespace ReplicaPorts

open Compute Compute.Rest Json
open Http (Wire Peer Script Request Response Url)

namespace Compute

/-! ## What a peer lists -/

/-- What a peer lists for an endpoint that was attached: the machine by its path or by a URL that
ends in it, the ports as they are, and whatever else it has to tell. -/
inductive Lists : Json → Json → Prop
  | item {front path : String} {port destination shown item : Json} {notes : Keyed String String}
      (pathless : ¬ Path.root <:+: front.toList)
      (endpoint : Extends NetworkEndpoint.fields
        ([("instance", .text (front ++ path)), ("port", port),
          ("clientDestinationPort", destination)] ++
          Member.unlessEmpty "annotations" .text notes) shown)
      (within : Extends ["networkEndpoint"] [("networkEndpoint", shown)] item) :
      Lists (.named [("instance", .text path), ("port", port),
        ("clientDestinationPort", destination)]) item

/-- How a page holds its items: a page without items may leave them out. -/
inductive HoldsItems : List Json → List (String × Json) → Prop
  | absent : HoldsItems [] []
  | listed (items : List Json) : HoldsItems items [("items", .array items)]

/-- How a page holds the mark of the next one, or that there is none. -/
inductive HoldsMark : Option String → List (String × Json) → Prop
  | absent : HoldsMark none []
  | null : HoldsMark none [("nextPageToken", .null)]
  | marked (mark : String) : HoldsMark (some mark) [("nextPageToken", .text mark)]

/-- An answer is a page with some items, and with the mark of the next page if there is one. -/
structure IsPageOf (items : List Json) (mark : Option String) (answer : Response) : Prop where
  success : answer.isSuccess = true
  body : ∃ j listed next, Json.ofText? answer.body = some j ∧ HoldsItems items listed ∧
    HoldsMark mark next ∧ Extends ["items", "nextPageToken"] (listed ++ next) j

/-- Some answers are the pages of a list of items, in order. -/
inductive Paged : List Json → List Response → Prop
  | last {items : List Json} {mark : Option String} {answer : Response}
      (page : IsPageOf items mark answer) (none_ : mark = none ∨ mark = some "") :
      Paged items [answer]
  | onward {items later : List Json} {mark : String} {answer : Response} {answers : List Response}
      (page : IsPageOf items (some mark) answer) (filled : mark ≠ "")
      (rest : Paged later answers) : Paged (items ++ later) (answer :: answers)

/-- Some answers list back what was sent to attach endpoints: each endpoint, in any order and on any
pages. -/
inductive ListsBack : Option Json → List Response → Prop
  | pages {endpoints shown items : List Json} {answers : List Response}
      (order : shown.Perm endpoints) (listed : List.Forall₂ Lists shown items)
      (paged : Paged items answers) :
      ListsBack (some (.named [("networkEndpoints", .array endpoints)])) answers

/-! ## What is read of it -/

/-- The mapping that an item of a page tells, if it tells one. -/
def mappingIn? (item : Json) : Option PortMapping := EndpointPage.item? item >>= mappingOf?

theorem item?_of_extends {shown item : Json}
    (h : Extends ["networkEndpoint"] [("networkEndpoint", shown)] item) :
    EndpointPage.item? item = NetworkEndpoint.ofJson? shown := by
  obtain ⟨r, given, get⟩ := fields?_of_extends (by simp) (by simp) h
  have here : r.get? "networkEndpoint" = some shown := by
    rw [get, List.lookup_cons_self]
  rw [EndpointPage.item?, given, Option.bind_eq_bind, Option.bind_some, Fields.required?, here,
    Option.bind_some]

/-- The mapping is found in what a peer lists for it. -/
theorem mappingIn?_of_lists {m : PortMapping} {item : Json}
    (machine : Path.root <+: m.instancePath.toList)
    (h : Lists (NetworkEndpoint.ofMapping m).toJson item) :
    (EndpointPage.item? item).isSome = true ∧ mappingIn? item = some m := by
  generalize attached : (NetworkEndpoint.ofMapping m).toJson = e at h
  cases h with
  | @item front path port destination shown item notes pathless endpoint within =>
    cases named_injective attached
    have read := NetworkEndpoint.ofJson?_of_extends (e := {
      instancePath := some (front ++ m.instancePath), port := some m.instancePort
      clientDestinationPort := some m.port, annotations := notes }) endpoint
    rw [mappingIn?, item?_of_extends within, read]
    refine ⟨rfl, ?_⟩
    simp only [Option.bind_eq_bind, Option.bind_some, mappingOf?, Option.pure_def,
      Path.relative_append pathless machine]

/-- A page is read if all its items are. -/
theorem isIn_of_isPageOf {items : List Json} {es : List NetworkEndpoint} {mark : Option String}
    {answer : Response} (page : IsPageOf items mark answer)
    (read : items.mapM EndpointPage.item? = some es) :
    EndpointPage.IsIn ⟨es, mark⟩ answer := by
  obtain ⟨success, j, listed, next, spelled, holds, marks, extends_⟩ := page
  refine ⟨success, j, spelled, ?_⟩
  have own : ∀ m ∈ listed ++ next, m.1 ∈ ["items", "nextPageToken"] := by
    cases holds <;> cases marks <;> simp
  have distinct : ((listed ++ next).map (·.1)).Nodup := by
    cases holds <;> cases marks <;> simp
  obtain ⟨r, given, get⟩ := fields?_of_extends own distinct extends_
  have items_ : r.withDefault? "items" (list? EndpointPage.item?) [] = some es := by
    rw [Fields.withDefault?, get]
    cases holds with
    | absent => cases marks <;> exact read
    | listed => exact read
  have mark_ : r.optional? "nextPageToken" text? = some mark := by
    rw [Fields.optional?, get]
    cases holds <;> cases marks <;> rfl
  rw [EndpointPage.ofJson?, given, Option.bind_eq_bind, Option.bind_some, items_,
    Option.bind_eq_bind, Option.bind_some, mark_]
  rfl

/-- A list of items is read if each of them is. -/
theorem mapM_item? {items : List Json}
    (read : ∀ item ∈ items, (EndpointPage.item? item).isSome = true) :
    items.mapM EndpointPage.item? = some (items.filterMap EndpointPage.item?) := by
  refine mapM_eq_some ?_
  induction items with
  | nil => exact .nil
  | cons item items ih =>
    obtain ⟨first, rest⟩ := List.forall_mem_cons.mp read
    obtain ⟨e, here⟩ := Option.isSome_iff_exists.mp first
    rw [List.filterMap_cons_some here]
    exact .cons here (ih rest)

theorem mappingsOf_filterMap (items : List Json) (mark : Option String) :
    mappingsOf ⟨items.filterMap EndpointPage.item?, mark⟩ = items.filterMap mappingIn? := by
  rw [mappingsOf, List.filterMap_filterMap]
  rfl

section Runs

variable {c : Client} {o root base token : String} {p : Peer Script} {pages : Nat}
  {items : List Json} {answers rest : List Response}

/-- Whatever the pages are, what is read of them are the mappings in all items, in order, and
nothing is asked for but the pages. -/
theorem run_readPages_paged (plain : IsPlainScope c.scope o root)
    (start : base.toList.head? = some 'p') (plain_ : Url.IsPlain base.toList)
    (valued : Http.isHeaderValue token = true) (paged : Paged items answers)
    (read : ∀ item ∈ items, (EndpointPage.item? item).isSome = true)
    (given : p.state.responses = answers ++ rest) (enough : answers.length ≤ pages)
    (mark : Option String) (ids : Nat → String) :
    ∃ requests, requests.length = answers.length ∧
      (∀ r ∈ requests, ∃ mark, AsksFor o (root ++ "/" ++ base) mark r) ∧
      ((readPages c base pages mark).run.run (.fixed token)).run (Peer.answer Script.answer ids) p =
        ((.ok (items.filterMap mappingIn?), .fixed token), p.after requests) := by
  have asked (mark : Option String) := exists_pageRequest plain start plain_ valued mark
  induction paged generalizing mark p pages with
  | @last items mark' answer page none_ =>
    obtain ⟨pages, rfl⟩ := Nat.exists_eq_add_of_le' enough
    obtain ⟨request, asks, formed⟩ := asked mark
    have next : p.next = answer := by rw [Peer.next, given]; rfl
    have here := isIn_of_isPageOf page (mapM_item? read)
    rw [← next] at here
    rw [← mappingsOf_filterMap items mark']
    exact ⟨[request], rfl, List.forall_mem_singleton.mpr ⟨mark, asks⟩,
      run_readPages_last formed (readAnswer_eq_page_iff.mpr here) none_⟩
  | @onward items later mark' answer answers page filled paged ih =>
    obtain ⟨pages, rfl⟩ := Nat.exists_eq_add_of_le' enough
    obtain ⟨request, asks, formed⟩ := asked mark
    obtain ⟨readHere, readLater⟩ := List.forall_mem_append.mp read
    have next : p.next = answer := by rw [Peer.next, given]; rfl
    have here := isIn_of_isPageOf page (mapM_item? readHere)
    rw [← next] at here
    have left : (p.after [request]).state.responses = answers ++ rest := by
      simp [Peer.after, given]
    obtain ⟨requests, each, asked_, ran⟩ := ih readLater left (Nat.le_add_left _ _) (some mark')
    rw [Peer.after_after] at ran
    rw [List.filterMap_append, ← mappingsOf_filterMap items (some mark')]
    exact ⟨request :: requests, congrArg (· + 1) each,
      List.forall_mem_cons.mpr ⟨⟨mark, asks⟩, asked_⟩,
      run_readPages_onward formed (readAnswer_eq_page_iff.mpr here) ⟨rfl, filled⟩ ran⟩

end Runs

/-- Items from which some mappings are read, one from each. -/
theorem filterMap_mappingIn?_of_forall₂ {mappings : List PortMapping} {items : List Json}
    (h : List.Forall₂ (fun m item => (EndpointPage.item? item).isSome = true ∧
      mappingIn? item = some m) mappings items) :
    (∀ item ∈ items, (EndpointPage.item? item).isSome = true) ∧
      items.filterMap mappingIn? = mappings := by
  induction h with
  | nil => exact ⟨List.forall_mem_nil _, rfl⟩
  | cons first rest ih =>
    refine ⟨List.forall_mem_cons.mpr ⟨first.1, ih.1⟩, ?_⟩
    rw [List.filterMap_cons_some first.2, ih.2]

/-- What is listed for the endpoints of some mappings, in any order, are the mappings. -/
theorem perm_of_lists {mappings : List PortMapping} {shown items : List Json}
    (machines : ∀ m ∈ mappings, Path.root <+: m.instancePath.toList)
    (reordered : shown.Perm (mappings.map fun m => (NetworkEndpoint.ofMapping m).toJson))
    (listed : List.Forall₂ Lists shown items) :
    (∀ item ∈ items, (EndpointPage.item? item).isSome = true) ∧
      (items.filterMap mappingIn?).Perm mappings := by
  -- the items in the order of the mappings
  obtain ⟨ordered, told, order⟩ := List.perm_comp_forall₂ reordered.symm listed
  have told := (List.forall₂_and_left _ _).mpr ⟨machines, List.forall₂_map_left_iff.mp told⟩
  obtain ⟨read, same⟩ := filterMap_mappingIn?_of_forall₂
    (told.imp fun _ _ listed => mappingIn?_of_lists listed.1 listed.2)
  refine ⟨fun item mem => read item (order.mem_iff.mpr mem), ?_⟩
  rw [← same]
  exact (order.filterMap mappingIn?).symm

theorem exists_items_of_listsBack {mappings : List PortMapping} {answers : List Response}
    (machines : ∀ m ∈ mappings, Path.root <+: m.instancePath.toList)
    (back : ListsBack (some (Body.endpoints mappings)) answers) :
    ∃ items, (∀ item ∈ items, (EndpointPage.item? item).isSome = true) ∧
      (items.filterMap mappingIn?).Perm mappings ∧ Paged items answers := by
  generalize sent : some (Body.endpoints mappings) = body at back
  cases back with
  | @pages endpoints shown items _ order listed paged =>
    cases named_injective (Option.some.inj sent)
    obtain ⟨read, same⟩ := perm_of_lists machines order listed
    exact ⟨items, read, same, paged⟩

end Compute

/-! ## A program of calls over HTTP -/

namespace Compute.Rest

/-- A call in a program is performed, and the program goes on with what it came to. -/
theorem run_carryOut_ask {α σ : Type} {c : Client} {call : Call}
    {next : call.Answer → Program Compute.calls α} {handle : Handler Wire.asks σ}
    {supply supply' : TokenSupply} {s s' : σ} {r : call.Answer}
    (performed : ((perform c call).run.run supply).run handle s = ((r, supply'), s')) :
    ((carryOut c (.ask call next)).run supply).run handle s =
      ((carryOut c (next r)).run supply').run handle s' := by
  have parts : (carryOut c (.ask call next)).run supply =
      ((perform c call).run.run supply).bind fun ran => (carryOut c (next ran.1)).run ran.2 := rfl
  rw [parts, Program.run_bind, performed]

end Compute.Rest

/-! ## Recognition -/

namespace Pass

end Pass

end ReplicaPorts

namespace ReplicaPorts.Small

open Compute Compute.Rest Json
open Http (Peer Script Response)

/-- Two endpoints of a group. -/
def twoMappings : List PortMapping :=
  [⟨1, "projects/p/zones/z/instances/a", 80⟩, ⟨2, "projects/p/zones/z/instances/b", 80⟩]

/-- What is listed for an endpoint: the machine with a front, and more members. -/
def shownWith (front : String) (m : PortMapping) : Json := .named [
  ("networkEndpoint", .named [("instance", .text (front ++ m.instancePath)),
    ("port", int32 m.instancePort), ("clientDestinationPort", int32 m.port), ("fqdn", .null)]),
  ("healths", .array [])]

theorem lists_shownWith {front : String} (pathless : ¬ Path.root <:+: front.toList)
    (m : PortMapping) : Lists (NetworkEndpoint.ofMapping m).toJson (shownWith front m) := by
  have further : ∀ n ∈ [("fqdn", Json.null)], n.1 ∉ NetworkEndpoint.fields := by decide
  have around : ∀ n ∈ [("healths", Json.array [])], n.1 ∉ ["networkEndpoint"] := by decide
  have endpoint : Extends NetworkEndpoint.fields
      ([("instance", .text (front ++ m.instancePath)), ("port", int32 m.instancePort),
        ("clientDestinationPort", int32 m.port)] ++ Member.unlessEmpty "annotations" .text ∅) _ :=
    .named further (.refl _)
  exact .item pathless endpoint (.named around (.refl _))

/-- A page with one item, and with the mark of the next page if there is one. -/
def pageOf (item : Json) (mark : Option String) : Json :=
  .named ([("items", .array [item])] ++ Member.unlessNone "nextPageToken" .text mark)

theorem isPageOf_pageOf (front : String) (m : PortMapping) (mark : Option String) :
    IsPageOf [shownWith front m] mark ⟨200, (pageOf (shownWith front m) mark).toText⟩ := by
  have number (n : Int32) : (int32 n).IsSpelled := Number.isSpelled_integer _
  have item : (shownWith front m).IsSpelled :=
    ⟨⟨trivial, number _, number _, trivial, trivial⟩, trivial, trivial⟩
  have spelled : (pageOf (shownWith front m) mark).IsSpelled := by
    cases mark with
    | none => exact ⟨⟨item, trivial⟩, trivial⟩
    | some mark => exact ⟨⟨item, trivial⟩, trivial, trivial⟩
  have marked : HoldsMark mark (Member.unlessNone "nextPageToken" .text mark) := by
    cases mark with
    | none => exact .absent
    | some mark => exact .marked mark
  refine ⟨rfl, _, _, _, ofText?_toText _ spelled, .listed _, marked,
    .named (List.forall_mem_nil _) ?_⟩
  rw [List.append_nil]

/-- The second endpoint on a page, and the first one on the last page. -/
def backAnswers : List Response :=
  [⟨200, (pageOf (shownWith "https://g/" twoMappings[1]) (some "x")).toText⟩,
    ⟨200, (pageOf (shownWith "" twoMappings[0]) none).toText⟩]

theorem listsBack_backAnswers : ListsBack (some (Body.endpoints twoMappings)) backAnswers := by
  have pathless {front : String} (h : Text.from? Path.root front.toList = none) :
      ¬ Path.root <:+: front.toList := Text.from?_eq_none_iff.mp h
  refine .pages (.swap _ _ []) (.cons (lists_shownWith (pathless ?_) _)
    (.cons (lists_shownWith (pathless ?_) _) .nil))
    (.onward (isPageOf_pageOf _ _ _) (by decide) (.last (isPageOf_pageOf _ _ _) (.inl rfl)))
  · decide
  · decide

/-- A peer that lists both endpoints back. -/
def backPeer : Peer Script where
  state := { responses := backAnswers }

end ReplicaPorts.Small
