import ReplicaPorts.Proofs.Compute.Path
import ReplicaPorts.Proofs.Compute.Protocol
import ReplicaPorts.Proofs.Http.Form

/-!
# Listings by pages

A page of a listing names the next one by a mark, or none if it is the last. The marks are up to the
peer: a client sends back what it got. `listing_by_pages` says for every peer that answers from a
list which pages are asked for, and what the listing comes to (`Listing`): the mappings of all pages
up to the first one without a mark, or the error of the first answer that is no page, and then
nothing of the pages before it.

What a run does with one answer (`run_readPages_refused`, `run_readPages_last`,
`run_readPages_onward`) makes the listing longer by a page.
-/

set_option autoImplicit false

namespace ReplicaPorts

/-! ## A peer that answers from a list -/

namespace Http.Peer

/-- What the next request is answered with. -/
def next (p : Peer Script) : Response := p.state.responses.head?.getD Script.exhausted

/-- A peer that answered some requests. -/
def after (p : Peer Script) (requests : List Request) : Peer Script :=
  { p with state := { responses := p.state.responses.drop requests.length
                      requests := p.state.requests ++ requests } }

theorem after_after (p : Peer Script) (r : Request) (requests : List Request) :
    (p.after [r]).after requests = p.after (r :: requests) := by
  simp [after]

end Http.Peer

namespace Compute

open Http (Wire Peer Script Request Response Url)

/-! ## Listed endpoints -/

/-- A listed endpoint tells a mapping: both ports are given, and the machine is given by its path or
by a URL that ends in it. -/
structure NetworkEndpoint.Tells (e : NetworkEndpoint) (m : PortMapping) : Prop where
  port : e.clientDestinationPort = some m.port
  instancePort : e.port = some m.instancePort
  instancePath : ∃ value, e.instancePath = some value ∧ Path.CutsTo value m.instancePath

/-- Whether both ports and the machine of an endpoint are given. -/
def NetworkEndpoint.isWhole (e : NetworkEndpoint) : Bool :=
  e.clientDestinationPort.isSome && e.port.isSome && e.instancePath.isSome

namespace EndpointPage

/-- A page names the next one. -/
structure GoesOn (page : EndpointPage) (mark : String) : Prop where
  named : page.nextPageToken = some mark
  filled : mark ≠ ""

/-- A page names no other. -/
def IsLast (page : EndpointPage) : Prop :=
  page.nextPageToken = none ∨ page.nextPageToken = some ""

/-- An answer is a page. -/
structure IsIn (page : EndpointPage) (answer : Response) : Prop where
  success : answer.isSuccess = true
  read : ∃ j, Json.ofText? answer.body = some j ∧ ofJson? j = some page

theorem filter_of_goesOn {page : EndpointPage} {mark : String} (h : page.GoesOn mark) :
    page.nextPageToken.filter (· ≠ "") = some mark := by
  simp [h.named, Option.filter, h.filled]

theorem filter_of_isLast {page : EndpointPage} (h : page.IsLast) :
    page.nextPageToken.filter (· ≠ "") = none := by
  obtain none_ | empty := h
  · simp [none_]
  · simp [empty]

/-- Every page is the last one or goes on. -/
theorem isLast_or_goesOn (page : EndpointPage) : page.IsLast ∨ ∃ mark, page.GoesOn mark := by
  cases named : page.nextPageToken with
  | none => exact .inl (.inl named)
  | some mark =>
    by_cases empty : mark = ""
    · exact .inl (.inr (empty ▸ named))
    · exact .inr ⟨mark, named, empty⟩

end EndpointPage

namespace Rest

/-- The mappings that the endpoints of a page tell. -/
def mappingsOf (page : EndpointPage) : List PortMapping := page.items.filterMap mappingOf?

theorem mappingOf?_eq_none {e : NetworkEndpoint} (h : e.isWhole = false) : mappingOf? e = none := by
  obtain ⟨instancePath, port, destination, annotations⟩ := e
  cases instancePath <;> cases port <;> cases destination <;> first | rfl | cases h

theorem exists_mappingOf? {e : NetworkEndpoint} (h : e.isWhole = true) :
    ∃ m, mappingOf? e = some m ∧ e.Tells m := by
  obtain ⟨instancePath, port, destination, annotations⟩ := e
  simp only [NetworkEndpoint.isWhole, Bool.and_eq_true, Option.isSome_iff_exists] at h
  obtain ⟨⟨⟨_, rfl⟩, _, rfl⟩, value, rfl⟩ := h
  exact ⟨_, rfl, rfl, rfl, value, rfl, Path.relative_cutsTo value⟩

/-- Each endpoint that is given as a whole is listed, in order, and no other is. -/
theorem forall₂_tells (es : List NetworkEndpoint) :
    List.Forall₂ NetworkEndpoint.Tells (es.filter (·.isWhole)) (es.filterMap mappingOf?) := by
  induction es with
  | nil => exact .nil
  | cons e es ih =>
    cases whole : e.isWhole with
    | false =>
      rw [List.filter_cons_of_neg (by simp [whole]),
        List.filterMap_cons_none (mappingOf?_eq_none whole)]
      exact ih
    | true =>
      obtain ⟨m, listed, tells⟩ := exists_mappingOf? whole
      rw [List.filter_cons_of_pos whole, List.filterMap_cons_some listed]
      exact .cons tells ih

/-! ## Listings -/

/-- The pages that are asked for from a mark on, if these are read and named the next ones. -/
def marksOf (mark : Option String) (pages : List EndpointPage) : List (Option String) :=
  mark :: pages.map (·.nextPageToken)

/-- What a listing from a mark on comes to when it is answered from a list: the marks of the pages
that are asked for, and the result. -/
inductive Listing (base : String) (mark : Option String) (answers : List Response) :
    List (Option String) → Except Error (List PortMapping) → Prop
  /-- All pages are read up to the first one that is the last. -/
  | complete {used rest : List Response} {pages : List EndpointPage} {last : EndpointPage}
      {mappings : List PortMapping} (given : answers = used ++ rest)
      (read : List.Forall₂ EndpointPage.IsIn (pages ++ [last]) used)
      (onward : ∀ page ∈ pages, ∃ mark, page.GoesOn mark) (ends : last.IsLast)
      (listed : List.Forall₂ NetworkEndpoint.Tells
        (((pages ++ [last]).flatMap (·.items)).filter (·.isWhole)) mappings) :
      Listing base mark answers (marksOf mark pages) (.ok mappings)
  /-- Some pages are read, and the answer for the next one is none. -/
  | failed {used rest : List Response} {pages : List EndpointPage} {asked : Option String}
      {e : Error} (given : answers = used ++ rest)
      (read : List.Forall₂ EndpointPage.IsIn pages used)
      (onward : ∀ page ∈ pages, ∃ mark, page.GoesOn mark)
      (last : (marksOf mark pages).getLast? = some asked)
      (refuses : Refuses (pagePath base asked) EndpointPage.ofJson?
        (some (rest.head?.getD Script.exhausted)) e) :
      Listing base mark answers (marksOf mark pages) (.error e)

variable {base token : String} {mark : Option String} {answers : List Response} {e : Error}
  {page : EndpointPage}

theorem listing_refused (h : Refuses (pagePath base mark) EndpointPage.ofJson?
    (some (answers.head?.getD Script.exhausted)) e) :
    Listing base mark answers [mark] (.error e) :=
  .failed (List.nil_append answers).symm .nil (List.forall_mem_nil _) rfl h

theorem listing_last {answer : Response} (read : page.IsIn answer) (last : page.IsLast) :
    Listing base mark (answer :: answers) [mark] (.ok (mappingsOf page)) := by
  have reads : List.Forall₂ EndpointPage.IsIn ([] ++ [page]) [answer] := .cons read .nil
  refine .complete List.singleton_append.symm reads (List.forall_mem_nil _) last ?_
  rw [List.nil_append, List.flatMap_singleton]
  exact forall₂_tells page.items

theorem marksOf_cons {mark' : String} (onward : page.GoesOn mark') (pages : List EndpointPage) :
    marksOf mark (page :: pages) = mark :: marksOf (some mark') pages := by
  rw [marksOf, List.map_cons, onward.named, marksOf]

/-- A page in front of a listing. -/
theorem listing_onward {answer : Response} {mark' : String} {marks : List (Option String)}
    {r : Except Error (List PortMapping)} (read : page.IsIn answer) (onward : page.GoesOn mark')
    (later : Listing base (some mark') answers marks r) :
    Listing base mark (answer :: answers) (mark :: marks) (r.map (mappingsOf page ++ ·)) := by
  cases later with
  | complete given reads onwards ends listed =>
    rw [← marksOf_cons onward]
    refine .complete (congrArg (answer :: ·) given) (.cons read reads)
      (List.forall_mem_cons.mpr ⟨⟨mark', onward⟩, onwards⟩) ends ?_
    rw [List.cons_append, List.flatMap_cons, List.filter_append]
    exact List.rel_append (forall₂_tells page.items) listed
  | failed given reads onwards last refuses =>
    rw [← marksOf_cons onward]
    refine .failed (congrArg (answer :: ·) given) (.cons read reads)
      (List.forall_mem_cons.mpr ⟨⟨mark', onward⟩, onwards⟩) ?_ refuses
    rw [marksOf_cons onward, marksOf, List.getLast?_cons_cons]
    exact last

/-! ## Answers -/

theorem readAnswer_eq_page_iff {path : String} {answer : Response} :
    readAnswer path EndpointPage.ofJson? (some answer) = .ok page ↔ page.IsIn answer := by
  rw [readAnswer_eq_ok_iff]
  constructor
  · rintro ⟨r, same, success, read⟩
    cases same
    exact ⟨success, Option.bind_eq_some_iff.mp read⟩
  · rintro ⟨success, read⟩
    exact ⟨answer, rfl, success, Option.bind_eq_some_iff.mpr read⟩

/-- A page is only read while there are answers left. -/
theorem exists_of_isIn_next {p : Peer Script} (h : page.IsIn p.next) :
    ∃ answer rest, p.state.responses = answer :: rest ∧ p.next = answer := by
  cases given : p.state.responses with
  | nil =>
    have success := h.success
    rw [Peer.next, given] at success
    cases success
  | cons answer rest => exact ⟨answer, rest, rfl, by rw [Peer.next, given]; rfl⟩

/-! ## Requests for pages -/

/-- A query has one parameter, and the text that is written for its value denotes the value. -/
structure IsParameter (query name value : String) : Prop where
  single : Http.Form.decode query = [(name, value)]
  denoted : ∃ written, query = name ++ "=" ++ written ∧ Text.Percent.decode written = value

/-- A request asks for the page with a mark, at a path below an origin: the first page has no query,
and the query of any other is its mark. -/
structure AsksFor (o path : String) (mark : Option String) (request : Request) : Prop where
  method : request.method = .post
  body : request.body = some (.named [])
  origin : request.url.origin = o
  path : request.url.path = path
  query : Option.Rel (fun query mark => IsParameter query "pageToken" mark) request.url.query mark

/-- The query of the page with a mark. -/
def markQuery (mark : String) : String := "pageToken=" ++ Text.Percent.encodeStrict mark

theorem markQuery_eq (mark : String) :
    markQuery mark =
      Text.Percent.encodeStrict "pageToken" ++ "=" ++ Text.Percent.encodeStrict mark := by
  have plain : Text.Percent.encodeStrict "pageToken" ++ "=" = "pageToken=" := by decide +kernel
  rw [plain, markQuery]

theorem isParameter_markQuery (mark : String) : IsParameter (markQuery mark) "pageToken" mark where
  single := by rw [markQuery_eq, Http.Form.decode_pair]
  denoted := ⟨Text.Percent.encodeStrict mark, rfl, Text.Percent.decode_encodeStrict mark⟩

variable {c : Client} {o root : String}

/-- The request for a page can be formed. -/
theorem exists_pageRequest (plain : IsPlainScope c.scope o root) {path : String}
    (start : path.toList.head? = some 'p') (plain_ : Url.IsPlain path.toList)
    (valued : Http.isHeaderValue token = true) (mark : Option String) :
    ∃ request, AsksFor o (root ++ "/" ++ path) mark request ∧
      requestTo? (baseOf c.scope.endpoint) (pagePath path mark) token .post (some Body.empty) =
        some request := by
  have written : urlOf (baseOf c.scope.endpoint) (pagePath path mark) =
      o ++ root ++ "/" ++ path ++ (mark.map markQuery).elim "" ("?" ++ ·) := by
    have first : (pagePath path mark).toList.head? = some 'p' := by
      cases mark with
      | none => exact start
      | some mark => simp only [pagePath, toString, String.toList_append, List.head?_append, start,
          Option.some_or]
    rw [urlOf_below _ first, plain.base]
    cases mark <;> simp [pagePath, markQuery, toString, ← String.toList_inj]
  have asked : ∀ q ∈ mark.map markQuery, ∀ c ∈ q.toList, Url.inQuery c = true := by
    intro q mem
    obtain ⟨mark, -, rfl⟩ := Option.map_eq_some_iff.mp mem
    rw [markQuery_eq]
    exact Http.Form.inQuery_pair "pageToken" mark
  have read := ofText?_below plain plain_ asked
  rw [← written] at read
  refine ⟨_, ?_, requestTo?_eq_some_iff.mpr ⟨valued, _, read, rfl⟩⟩
  refine ⟨rfl, rfl, rfl, rfl, ?_⟩
  cases mark with
  | none => exact .none
  | some mark => exact .some (isParameter_markQuery mark)

/-! ## Runs -/

section Runs

variable {α : Type} {method : Http.Method} {path : String} {body : Option Json}
  {read? : Json → Option α} {request : Request} {ids : Nat → String} {p : Peer Script}
  {pages : Nat}

/-- With a fixed token, a request that can be formed is sent, and its answer is read. -/
theorem run_send (formed : requestTo? (baseOf c.scope.endpoint) path token method body =
      some request) :
    ((send c method path body read?).run.run (.fixed token)).run (Peer.answer Script.answer ids) p =
      ((readAnswer path read? (some p.next), .fixed token), p.after [request]) := by
  have fetched : ((Rest.token).run.run (.fixed token)).run (Peer.answer Script.answer ids) p =
      ((.ok token, .fixed token), p) := rfl
  have answered : (Wire.exchange request).run (Peer.answer Script.answer ids) p =
      (some p.next, p.after [request]) := by
    simp [Wire.exchange, Program.call, Peer.answer, Script.answer, Peer.next, Peer.after]
  unfold send
  rw [run_bind, Program.run_bind, fetched]
  simp only [onward, formed]
  rw [run_bind, run_ask, Program.bind_assoc, Program.run_bind, answered]
  simp only [Program.done_bind, onward]
  cases readAnswer path read? (some p.next) <;> rfl

variable {base token : String} {mark : Option String} {e : Error} {page : EndpointPage}

/-- A run of the reading of pages starts with one answer. -/
theorem run_readPages_succ
    (formed : requestTo? (baseOf c.scope.endpoint) (pagePath base mark) token .post
      (some Body.empty) = some request) :
    ((readPages c base (pages + 1) mark).run.run (.fixed token)).run
        (Peer.answer Script.answer ids) p =
      (onward (fun page => do
          match page.nextPageToken.filter (· ≠ "") with
          | none => return mappingsOf page
          | some mark => return mappingsOf page ++ (← readPages c base pages (some mark)))
        (readAnswer (pagePath base mark) EndpointPage.ofJson? (some p.next), .fixed token)).run
          (Peer.answer Script.answer ids) (p.after [request]) := by
  rw [readPages, run_bind, Program.run_bind, run_send formed]
  rfl

section Step

variable (formed : requestTo? (baseOf c.scope.endpoint) (pagePath base mark) token .post
  (some Body.empty) = some request)

include formed

/-- An answer that is no page ends the reading with its error. -/
theorem run_readPages_refused
    (read : readAnswer (pagePath base mark) EndpointPage.ofJson? (some p.next) = .error e) :
    ((readPages c base (pages + 1) mark).run.run (.fixed token)).run
        (Peer.answer Script.answer ids) p =
      ((.error e, .fixed token), p.after [request]) := by
  rw [run_readPages_succ formed, read]
  rfl

/-- The last page ends the reading with its mappings. -/
theorem run_readPages_last
    (read : readAnswer (pagePath base mark) EndpointPage.ofJson? (some p.next) = .ok page)
    (last : page.IsLast) :
    ((readPages c base (pages + 1) mark).run.run (.fixed token)).run
        (Peer.answer Script.answer ids) p =
      ((.ok (mappingsOf page), .fixed token), p.after [request]) := by
  rw [run_readPages_succ formed, read]
  simp only [onward, EndpointPage.filter_of_isLast last]
  rfl

/-- The mappings of a page that names the next one stand in front of what is read from there on. -/
theorem run_readPages_onward {mark' : String} {r : Except Error (List PortMapping)}
    {supply : TokenSupply} {p' : Peer Script}
    (read : readAnswer (pagePath base mark) EndpointPage.ofJson? (some p.next) = .ok page)
    (goesOn : page.GoesOn mark')
    (later : ((readPages c base pages (some mark')).run.run (.fixed token)).run
      (Peer.answer Script.answer ids) (p.after [request]) = ((r, supply), p')) :
    ((readPages c base (pages + 1) mark).run.run (.fixed token)).run
        (Peer.answer Script.answer ids) p =
      ((r.map (mappingsOf page ++ ·), supply), p') := by
  rw [run_readPages_succ formed, read]
  simp only [onward, EndpointPage.filter_of_goesOn goesOn]
  rw [run_bind, Program.run_bind, later]
  cases r <;> rfl

end Step

/-- Whatever is in the list, one page after the other is read up to the last one or the first answer
that is none. -/
theorem run_readPages (plain : IsPlainScope c.scope o root) (start : base.toList.head? = some 'p')
    (plain_ : Url.IsPlain base.toList) (valued : Http.isHeaderValue token = true)
    (enough : p.state.responses.length < pages) :
    ∃ marks requests r, Listing base mark p.state.responses marks r ∧
      List.Forall₂ (AsksFor o (root ++ "/" ++ base)) marks requests ∧
      ((readPages c base pages mark).run.run (.fixed token)).run (Peer.answer Script.answer ids) p =
        ((r, .fixed token), p.after requests) := by
  -- a page is read from an answer, of which there are fewer than may be read
  induction pages generalizing mark p with
  | zero => exact absurd enough (Nat.not_lt_zero _)
  | succ pages ih =>
    obtain ⟨request, asks, formed⟩ := exists_pageRequest plain start plain_ valued mark
    cases read : readAnswer (pagePath base mark) EndpointPage.ofJson? (some p.next) with
    | error e =>
      exact ⟨[mark], [request], .error e, listing_refused (refuses_of_readAnswer read),
        .cons asks .nil, run_readPages_refused formed read⟩
    | ok page =>
      have here := readAnswer_eq_page_iff.mp read
      obtain ⟨answer, rest, given, same⟩ := exists_of_isIn_next here
      rw [same] at here
      rw [given]
      obtain last | ⟨mark', goesOn⟩ := page.isLast_or_goesOn
      · exact ⟨[mark], [request], .ok (mappingsOf page), listing_last here last,
          .cons asks .nil, run_readPages_last formed read last⟩
      · have fewer : (p.after [request]).state.responses = rest := by simp [Peer.after, given]
        have enough : (p.after [request]).state.responses.length < pages := by
          rw [given, List.length_cons] at enough
          rw [fewer]
          omega
        obtain ⟨marks, requests, r, listing, asked, ran⟩ := @ih _ (some mark') enough
        rw [fewer] at listing
        rw [Peer.after_after] at ran
        exact ⟨mark :: marks, request :: requests, r.map (mappingsOf page ++ ·),
          listing_onward here goesOn listing, .cons asks asked,
          run_readPages_onward formed read goesOn ran⟩

end Runs

end Rest

end Compute

end ReplicaPorts

namespace ReplicaPorts.Small

open Compute Compute.Rest
open Http (Peer Script Response)

/-- A page with one endpoint that is whole and one that is not, which names a next page. -/
def firstPage : Response :=
  ⟨200, "\x7b\"items\":[\x7b\"networkEndpoint\":\x7b\"clientDestinationPort\":1,\"port\":80," ++
    "\"instance\":\"https://g/v1/projects/p/zones/z/instances/m\"\x7d\x7d," ++
    "\x7b\"networkEndpoint\":\x7b\"port\":81\x7d\x7d],\"nextPageToken\":\"é&1\"\x7d"⟩

/-- A peer with two pages, the second one empty. -/
def pagingPeer : Peer Script where
  state := { responses := [firstPage, ⟨200, "\x7b\x7d"⟩] }

/-- The listing of a group, with the peer after it. -/
def pagedListing : (Except Error (List PortMapping) × TokenSupply) × Peer Script :=
  ((perform client (.listEndpoints "neg")).run.run (.fixed "t")).run
    (Peer.answer Script.answer idAt) pagingPeer

end ReplicaPorts.Small
